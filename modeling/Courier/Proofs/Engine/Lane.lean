import Courier.Engine.Station
import Courier.Proofs.Task.Incidents
import Mathlib.Data.List.Nodup

/-!
# Frames on their way through a thread

The frames that an engine has received and not handled yet stand in the queue of its thread, or
with the receiving loop at the door of a full queue. As all of them are equally urgent, and the loop
brings the next one only when the last one is in, they are handled in the order in which they were
received, whatever else the thread has to do.
-/

namespace Courier

variable {χ : Type}

/-- The frame that a task is about. -/
def EngineTask.frame? : EngineTask χ → Option Frame
  | .handle frame => some frame
  | .other _ => none

/-- The frame that a task on a thread is about. -/
def Task.frame? (t : Task (EngineTask χ)) : Option Frame := t.work.frame?

namespace TaskQueue

variable {q q' : TaskQueue (EngineTask χ)} {t : Task (EngineTask χ)} {f : Frame}

/-- The frames in a queue, in the order of their arrival. -/
def frames (q : TaskQueue (EngineTask χ)) : List Frame := q.tasks.filterMap Task.frame?

/-- An open queue in which all frames are equally urgent. -/
structure Fair (q : TaskQueue (EngineTask χ)) : Prop where
  orderly : q.Orderly none
  accepting : q.accepting = true
  normal : ∀ t ∈ q.tasks, ∀ f, t.frame? = some f → t.priority = .normal

/-- What is taken from such a queue: a frame is taken before all that have arrived later. -/
inductive Pops (q : TaskQueue (EngineTask χ)) :
    Found (EngineTask χ) × TaskQueue (EngineTask χ) → Prop
  | idle : Pops q (.idle, q)
  | task {t : Task (EngineTask χ)} {q' : TaskQueue (EngineTask χ)} : q'.Fair →
      q.frames = t.frame?.toList ++ q'.frames → Pops q (.task t, q')

/-- Frames arrive in the order of their entries. -/
theorem frames_append (front back : List (Entry (EngineTask χ))) :
    { q with entries := front ++ back }.frames =
      { q with entries := front }.frames ++ { q with entries := back }.frames := by
  simp [frames, tasks]

/-- Nothing that is about a frame goes before a task that leads all entries. -/
theorem Fair.frames_eq_nil {front back : List (Entry (EngineTask χ))}
    {e : Entry (EngineTask χ)} (h : q.Fair) (hsplit : q.entries = front ++ e :: back)
    (hleads : ∀ other ∈ q.entries, e.Leads other) (htask : e.task = some t)
    (hframe : t.frame? = some f) : { q with entries := front }.frames = [] := by
  have he := mem_of_split hsplit
  have hrank (other : Entry (EngineTask χ)) (hother : other ∈ q.entries)
      (u : Task (EngineTask χ)) (hu : other.task = some u) (g : Frame)
      (hg : u.frame? = some g) : other.rank = Priority.normal.rank := by
    have hmem : u ∈ q.tasks := List.mem_filterMap.mpr ⟨other, hother, hu⟩
    rw [h.orderly.ranked other hother u hu, h.normal u hmem g hg]
  refine List.filterMap_eq_nil_iff.mpr ?_
  intro u hu
  obtain ⟨other, hother, hou⟩ := List.mem_filterMap.mp hu
  have hmem : other ∈ q.entries := by
    rw [hsplit]
    exact List.mem_append_left _ hother
  cases hg : u.frame? with
  | none => rfl
  | some g =>
    have hsame := hrank other hmem u hou g hg
    have hown := hrank e he t htask f hframe
    have hlead := hleads other hmem
    have hascending := h.orderly.ascending
    rw [hsplit, List.pairwise_append] at hascending
    have hearlier := hascending.2.2 other hother e List.mem_cons_self
    rw [Entry.Leads] at hlead
    omega

/-- What is taken from a fair queue is its first frame, something else, or nothing. -/
theorem Fair.pops_pop (h : q.Fair) : q.Pops q.pop := by
  have htakes := takes_pop h.orderly.ascending
  have horderly := h.orderly.pop
  have hexit := h.orderly.pop_ne_exit
  generalize q.pop = result at htakes horderly hexit
  cases htakes with
  | idle => exact .idle
  | exit => exact absurd rfl hexit
  | @task front back e t hsplit hleads htask =>
    refine .task ⟨horderly, h.accepting, ?_⟩ ?_
    · intro u hu
      obtain ⟨other, hother, hou⟩ := List.mem_filterMap.mp hu
      exact h.normal u
        (List.mem_filterMap.mpr ⟨other, (sublist_of_split hsplit).subset hother, hou⟩)
    · have hwhole : q.frames = { q with entries := front }.frames ++
          (t.frame?.toList ++ { q with entries := back }.frames) := by
        simp only [frames, tasks, hsplit, List.filterMap_append, List.filterMap_cons, htask]
        cases t.frame? <;> rfl
      have hrest : { q with entries := front ++ back, depth := q.depth - 1 }.frames =
          { q with entries := front }.frames ++ { q with entries := back }.frames :=
        frames_append front back
      rw [hwhole, hrest]
      cases hframe : t.frame? with
      | none => rfl
      | some f => rw [h.frames_eq_nil hsplit hleads htask hframe]; rfl

/-- What comes of bringing a task to such a queue. -/
theorem Fair.offer (h : q.Fair) (policy : FullPolicy)
    (hnormal : ∀ f, t.frame? = some f → t.priority = .normal) :
    (q.offer t policy).2.Fair ∧
      ((q.offer t policy).1 = .accepted ∧ (q.offer t policy).2.frames =
          q.frames ++ t.frame?.toList ∨
        (q.offer t policy).1 ≠ .accepted ∧ (q.offer t policy).2 = q) := by
  have horderly := h.orderly.offer t policy
  have hoffers := offers_offer q t policy
  generalize q.offer t policy = result at hoffers horderly
  cases hoffers with
  | closed hclosed =>
    rw [h.accepting] at hclosed
    cases hclosed
  | refused => exact ⟨h, .inr ⟨nofun, rfl⟩⟩
  | full => exact ⟨h, .inr ⟨nofun, rfl⟩⟩
  | accepted =>
    have htasks : { q.insert t.priority.rank (some t) with depth := q.depth + 1 }.tasks =
        q.tasks ++ [t] := List.filterMap_append
    refine ⟨⟨horderly, h.accepting, ?_⟩, .inl ⟨rfl, ?_⟩⟩
    · intro u hu
      rw [htasks] at hu
      rcases List.mem_append.mp hu with hu | hu
      · exact h.normal u hu
      · rw [List.mem_singleton.mp hu]
        exact hnormal
    · rw [frames, htasks, List.filterMap_append]
      cases hframe : t.frame? <;> simp [frames, hframe]

/-- Who is ready to wait is not turned away. -/
theorem Fair.offer_block (h : q.Fair) (error : TaskError) :
    (q.offer t .block).1 ≠ .refused error := by
  unfold TaskQueue.offer
  rw [h.accepting]
  split
  · contradiction
  · split <;> exact nofun

/-- A queue with room takes everything. -/
theorem Fair.offer_of_hasRoom (h : q.Fair) (hroom : q.hasRoom = true) (policy : FullPolicy) :
    (q.offer t policy).1 = .accepted := by
  unfold TaskQueue.offer
  rw [h.accepting, hroom]
  rfl

end TaskQueue

namespace Room

variable {r r' : Room (EngineTask χ)} {t : Task (EngineTask χ)} {p : Producer (EngineTask χ)}
  {f : Frame}

/-- The producers at the door. -/
def door (r : Room (EngineTask χ)) : List (Producer (EngineTask χ)) := r.notified ++ r.waiting

/-- The frames in a queue and at its door, in the order in which they were received. -/
def lane (r : Room (EngineTask χ)) : List Frame :=
  r.queue.frames ++ r.door.filterMap (·.task.frame?)

/-- A queue that is open, where only the receiving loop brings frames, and one at a time. The loop
goes by the number 0. -/
structure InLane (r : Room (EngineTask χ)) : Prop where
  fair : r.queue.Fair
  loop : ∀ p ∈ r.door, ∀ f, p.task.frame? = some f → p.number = 0 ∧ p.task.priority = .normal
  numbers : (r.door.map (·.number)).Nodup

/-- Only the queue and the door matter to frames that come one at a time. -/
theorem InLane.congr (h : r.InLane) (hqueue : r'.queue.Fair) (hdoor : r'.door = r.door) :
    r'.InLane := by
  refine ⟨hqueue, ?_, ?_⟩
  · rw [hdoor]
    exact h.loop
  · rw [hdoor]
    exact h.numbers

/-- What comes of a producer that comes to the door, where nobody else goes by its number. -/
theorem InLane.push (h : r.InLane) (number : Nat) (policy : FullPolicy)
    (hnumber : ∀ p ∈ r.door, p.number ≠ number)
    (hframe : ∀ f, t.frame? = some f → number = 0 ∧ t.priority = .normal) :
    (r.push number t policy).2.InLane ∧
      ((∀ error, (r.push number t policy).1 ≠ .refused error) →
        (r.push number t policy).2.lane = r.lane ++ t.frame?.toList) ∧
      (t.frame? = none → (r.push number t policy).2.lane = r.lane) := by
  have hoffer := h.fair.offer policy fun f hf => (hframe f hf).2
  -- A frame comes to a door where there is no other one.
  have hlast : r.door.filterMap (·.task.frame?) ++ t.frame?.toList =
      t.frame?.toList ++ r.door.filterMap (·.task.frame?) := by
    cases hf : t.frame? with
    | none => exact List.append_nil _
    | some f =>
      have hnone : r.door.filterMap (·.task.frame?) = [] := by
        refine List.filterMap_eq_nil_iff.mpr ?_
        intro p hp
        cases hg : p.task.frame? with
        | none => rfl
        | some g =>
          refine absurd ?_ (hnumber p hp)
          rw [(h.loop p hp g hg).1, (hframe f hf).1]
      rw [hnone]
      rfl
  unfold Room.push
  rcases hresult : r.queue.offer t policy with ⟨offer, queue⟩
  rw [hresult] at hoffer
  obtain ⟨hfair, hcases⟩ := hoffer
  cases offer with
  | accepted =>
    obtain ⟨-, hframes⟩ := hcases.resolve_right fun hne => hne.1 rfl
    have hlane : Room.lane { r with queue } = r.lane ++ t.frame?.toList := by
      change queue.frames ++ _ = (r.queue.frames ++ r.door.filterMap (·.task.frame?)) ++ _
      rw [hframes, List.append_assoc, List.append_assoc, hlast]
      rfl
    refine ⟨h.congr hfair rfl, fun _ => hlane, ?_⟩
    intro hnone
    rw [hlane, hnone, Option.toList_none, List.append_nil]
  | refused error =>
    obtain ⟨-, rfl⟩ := hcases.resolve_left fun haccepted => nomatch haccepted.1
    exact ⟨h, fun hnot => absurd rfl (hnot error), fun _ => rfl⟩
  | full =>
    have hdoor : Room.door { r with waiting := r.waiting ++ [⟨number, t⟩] } =
        r.door ++ [⟨number, t⟩] := (List.append_assoc ..).symm
    have hlane : Room.lane { r with waiting := r.waiting ++ [⟨number, t⟩] } =
        r.lane ++ t.frame?.toList := by
      rw [lane, hdoor, List.filterMap_append, lane, List.append_assoc]
      cases hf : t.frame? <;> simp [hf]
    refine ⟨⟨h.fair, ?_, ?_⟩, fun _ => hlane, ?_⟩
    · intro p hp f hf
      rw [hdoor] at hp
      rcases List.mem_append.mp hp with hp | hp
      · exact h.loop p hp f hf
      · rw [List.mem_singleton.mp hp] at hf ⊢
        exact hframe f hf
    · rw [hdoor, List.map_append, List.map_singleton]
      refine List.nodup_append_comm.mp (List.nodup_cons.mpr ⟨?_, h.numbers⟩)
      intro hmem
      obtain ⟨p, hp, hsame⟩ := List.mem_map.mp hmem
      exact hnumber p hp hsame
    · intro hnone
      rw [hlane, hnone, Option.toList_none, List.append_nil]

/-- Nobody else at the door goes by the number of a producer that was told. -/
theorem InLane.filter_notified (h : r.InLane) (hp : p ∈ r.notified) :
    ∃ front back, r.notified = front ++ p :: back ∧
      r.notified.filter (·.number ≠ p.number) = front ++ back ∧
        ∀ other ∈ front ++ (back ++ r.waiting), other.number ≠ p.number := by
  obtain ⟨front, back, hsplit⟩ := List.append_of_mem hp
  have hnumbers := h.numbers
  rw [door, hsplit, List.append_assoc, List.cons_append, List.map_append, List.map_cons,
    List.nodup_middle, ← List.map_append, List.nodup_cons] at hnumbers
  have hothers (other : Producer (EngineTask χ)) (hother : other ∈ front ++ (back ++ r.waiting)) :
      other.number ≠ p.number := by
    intro hsame
    refine hnumbers.1 ?_
    rw [← hsame]
    exact List.mem_map_of_mem hother
  refine ⟨front, back, hsplit, ?_, hothers⟩
  rw [hsplit, List.filter_append, List.filter_cons_of_neg (by simp)]
  congr 1
  · refine List.filter_eq_self.mpr fun other hother => decide_eq_true ?_
    exact hothers other (List.mem_append_left _ hother)
  · refine List.filter_eq_self.mpr fun other hother => decide_eq_true ?_
    exact hothers other (List.mem_append_right _ (List.mem_append_left _ hother))

/-- A producer that was told leaves the door. -/
theorem InLane.leave (h : r.InLane) (hp : p ∈ r.notified) :
    let r' := { r with notified := r.notified.filter (·.number ≠ p.number) }
    r'.InLane ∧ r.lane = r'.lane ++ p.task.frame?.toList ∧
      ∀ other ∈ r'.door, other.number ≠ p.number := by
  intro r'
  obtain ⟨front, back, hsplit, hkept, hothers⟩ := h.filter_notified hp
  have hdoor : r.door = front ++ p :: (back ++ r.waiting) := by
    rw [door, hsplit, List.append_assoc, List.cons_append]
  have hdoor' : r'.door = front ++ (back ++ r.waiting) := by
    change r.notified.filter _ ++ _ = _
    rw [hkept, List.append_assoc]
  have hmem (other : Producer (EngineTask χ)) (hother : other ∈ r'.door) : other ∈ r.door := by
    rw [hdoor'] at hother
    rw [hdoor]
    rcases List.mem_append.mp hother with hother | hother
    · exact List.mem_append_left _ hother
    · exact List.mem_append_right _ (List.mem_cons_of_mem _ hother)
  refine ⟨⟨h.fair, fun other hother => h.loop other (hmem other hother), ?_⟩, ?_, ?_⟩
  · have hnumbers := h.numbers
    rw [hdoor, List.map_append, List.map_cons, List.nodup_middle, ← List.map_append] at hnumbers
    rw [hdoor']
    exact (List.nodup_cons.mp hnumbers).2
  · rw [lane, lane, hdoor, hdoor', List.append_assoc]
    congr 1
    rw [List.filterMap_append, List.filterMap_cons]
    cases hf : p.task.frame? with
    | none => simp
    | some f =>
      -- Nobody else at the door brings a frame.
      have hnone : (front ++ (back ++ r.waiting)).filterMap (·.task.frame?) = [] := by
        refine List.filterMap_eq_nil_iff.mpr ?_
        intro other hother
        cases hg : other.task.frame? with
        | none => rfl
        | some g =>
          refine absurd ?_ (hothers other hother)
          rw [← hdoor'] at hother
          rw [(h.loop other (hmem other hother) g hg).1,
            (h.loop p (List.mem_append_left _ hp) f hf).1]
      obtain ⟨hfront, hrest⟩ := List.append_eq_nil_iff.mp (List.filterMap_append.symm.trans hnone)
      rw [hnone, hfront, hrest]
      rfl
  · rw [hdoor']
    exact hothers

/-- Whoever takes a task makes room, but lets nobody in. -/
theorem InLane.pop {found : Found (EngineTask χ)} (h : r.InLane) (hpop : r.pop = (found, r')) :
    r'.InLane ∧ (found = .idle ∧ r' = r ∨
      ∃ t, found = .task t ∧ r.lane = t.frame?.toList ++ r'.lane) := by
  have hpops := h.fair.pops_pop
  unfold Room.pop at hpop
  generalize r.queue.pop = popped at hpops hpop
  cases hpops with
  | idle =>
    obtain ⟨rfl, rfl⟩ := Prod.mk.inj hpop
    exact ⟨h, .inl ⟨rfl, rfl⟩⟩
  | @task t queue hfair hframes =>
    obtain ⟨rfl, rfl⟩ := Prod.mk.inj hpop
    have hdoor : (notifyOne { r with queue }).door = r.door := by
      unfold notifyOne
      split
      · rfl
      · next first rest hwaiting =>
        have hwait : r.waiting = first :: rest := hwaiting
        rw [door, door, hwait, List.append_assoc]
        rfl
    have hqueue : (notifyOne { r with queue }).queue = queue := notifyOne_queue _
    refine ⟨h.congr (by rwa [hqueue]) hdoor, .inr ⟨t, rfl, ?_⟩⟩
    rw [lane, lane, hdoor, hqueue, hframes, List.append_assoc]

/-- Nothing has been received where the queue is new. -/
theorem inLane_new (name : String) (config : QueueConfig) :
    ({ queue := { name, config } } : Room (EngineTask χ)).InLane ∧
      ({ queue := { name, config } } : Room (EngineTask χ)).lane = [] := by
  refine ⟨⟨⟨TaskQueue.orderly_new name config, rfl, ?_⟩, ?_, List.nodup_nil⟩, rfl⟩
  · intro t ht
    cases ht
  · intro p hp
    cases hp

end Room

namespace Worker

variable {w w' : Worker (EngineTask χ) Unit} {now : Time} {i : Incident (EngineTask χ) Unit}

/-- What happens to a thread in the ordinary course: nobody closes its queue, and nobody but the
receiving loop brings frames. -/
def Incident.IsOrdinary : Incident (EngineTask χ) Unit → Prop
  | .post t _ => t.frame? = none
  | .postOwn t _ => t.frame? = none
  | .close .. => False
  | _ => True

/-- The frame that is taken to be handled. -/
def Incident.frame? : Incident (EngineTask χ) Unit → Option Frame
  | .look (.start t) => t.frame?
  | _ => none

/-- Frames are taken in the order in which they were received. -/
theorem Performs.lane_eq (hlane : w.room.InLane) (h : Performs now w i w') (hi : i.IsOrdinary) :
    w'.room.InLane ∧ w.room.lane = i.frame?.toList ++ w'.room.lane := by
  have hsame (hroom : w'.room = w.room) (hnone : i.frame? = none) :
      w'.room.InLane ∧ w.room.lane = i.frame?.toList ++ w'.room.lane := by
    rw [hroom, hnone]
    exact ⟨hlane, rfl⟩
  cases h with
  | post number t hnumber =>
    have hfresh : ∀ p ∈ w.room.door, p.number ≠ number := by
      intro p hp
      exact hnumber p (List.mem_append.mpr (List.mem_append.mp hp).symm)
    have hnone : t.frame? = none := hi
    obtain ⟨hlane', -, hframes⟩ := hlane.push number w.room.queue.config.fullPolicy hfresh
      (fun f hf => by rw [hnone] at hf; cases hf)
    exact ⟨hlane', (hframes hnone).symm⟩
  | retry p hp =>
    obtain ⟨hleft, hframes, hfresh⟩ := hlane.leave hp
    have hloop (f : Frame) (hf : p.task.frame? = some f) :
        p.number = 0 ∧ p.task.priority = .normal :=
      hlane.loop p (List.mem_append_left _ hp) f hf
    obtain ⟨hlane', hpushed, -⟩ := hleft.push p.number .block hfresh hloop
    refine ⟨hlane', ?_⟩
    have hnot (error : TaskError) : (w.room.retry p).1 ≠ .refused error := by
      rw [Room.retry_fst]
      exact hlane.fair.offer_block error
    rw [hframes]
    exact (hpushed hnot).symm
  | postOwn t =>
    have hnone : t.frame? = none := hi
    obtain ⟨hfair, hcases⟩ := hlane.fair.offer .fail
      (fun f hf => by rw [hnone] at hf; cases hf)
    have hroom : (w.postOwn t).2.room =
        { w.room with queue := (w.room.queue.offer t .fail).2 } := by
      rw [Worker.postOwn, Room.push_fail]
    have hframes : (w.room.queue.offer t .fail).2.frames = w.room.queue.frames := by
      rcases hcases with ⟨-, hframes⟩ | ⟨-, hsame⟩
      · rw [hframes, hnone, Option.toList_none, List.append_nil]
      · rw [hsame]
    rw [hroom]
    refine ⟨hlane.congr hfair rfl, ?_⟩
    change w.room.queue.frames ++ _ = (w.room.queue.offer t .fail).2.frames ++ _
    rw [hframes]
    rfl
  | close mode => exact hi.elim
  | register => exact hsame rfl rfl
  | cancel => exact hsame rfl rfl
  | wake => exact hsame (wake_room w) rfl
  | begin hphase => exact hsame (by simp [step, hphase]) rfl
  | fire hphase => exact hsame (by simp [step, hphase]) rfl
  | await hphase => exact hsame (by simp [step, hphase]) rfl
  | timeOut hphase hle =>
    have hlate : ¬ now < _ := Nat.not_lt.mpr hle
    refine hsame ?_ rfl
    simp only [step, hphase, if_neg hlate]
    split <;> rfl
  | finish => exact hsame (by simp) rfl
  | @look deadline hphase =>
    have hstep : w.step now = w.take deadline := by simp [step, hphase]
    rw [hstep, take]
    rcases hpop : w.room.pop with ⟨found, room⟩
    obtain ⟨hlane', hcases⟩ := hlane.pop hpop
    rcases hcases with ⟨rfl, rfl⟩ | ⟨t, rfl, hframes⟩
    · exact ⟨hlane, rfl⟩
    · exact ⟨hlane', hframes⟩

/-- A frame that the receiving loop brings, and that is not refused, comes behind those that it has
brought before. -/
theorem lane_post (hlane : w.room.InLane) (f : Frame) (hfree : ∀ p ∈ w.room.door, p.number ≠ 0)
    (htaken : ∀ error, (w.post 0 ⟨.normal, .handle f⟩).1 ≠ .refused error) :
    (w.post 0 ⟨.normal, .handle f⟩).2.room.InLane ∧
      (w.post 0 ⟨.normal, .handle f⟩).2.room.lane = w.room.lane ++ [f] := by
  obtain ⟨hoffer, hroom⟩ := post_eq w 0 ⟨.normal, .handle f⟩
  rw [hoffer] at htaken
  rw [hroom]
  obtain ⟨hlane', hframes, -⟩ := hlane.push (t := ⟨.normal, .handle f⟩) 0
    w.room.queue.config.fullPolicy hfree (fun _ _ => ⟨rfl, rfl⟩)
  exact ⟨hlane', hframes htaken⟩

/-- Bringing a task does not change the settings of a queue. -/
theorem config_post (w : Worker (EngineTask χ) Unit) (number : Nat) (t : Task (EngineTask χ)) :
    (w.post number t).2.room.queue.config = w.room.queue.config := by
  have hpush : w.room.queue.Performs _ _ := .push t w.room.queue.config.fullPolicy
  rw [(post_eq w number t).2, Room.push_queue]
  exact hpush.frame.2.1

/-- A thread whose queue has room refuses nothing. -/
theorem post_of_hasRoom (hlane : w.room.InLane) (hroom : w.room.queue.hasRoom = true)
    (number : Nat) (t : Task (EngineTask χ)) (error : TaskError) :
    (w.post number t).1 ≠ .refused error := by
  rw [(post_eq w number t).1, Room.push_fst, hlane.fair.offer_of_hasRoom hroom]
  exact nofun

end Worker

end Courier
