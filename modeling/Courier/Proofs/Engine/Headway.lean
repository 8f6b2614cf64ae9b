import Courier.Proofs.Engine.Joint
import Courier.Proofs.Task.Leaving

/-!
# Threads make headway

As long as its queue is open, a thread can go on until nothing is left in the queue and nobody
waits at its door. Nobody waits there but for places that are taken, by tasks or for producers that
were told, so that somebody can always take the next step: such a producer, or the loop.
-/

namespace Courier

variable {χ : Type}

namespace TaskQueue

variable {q : TaskQueue (EngineTask χ)}

/-- A queue without room is bounded, and full. -/
theorem le_depth_of_hasRoom_eq_false (h : q.hasRoom = false) :
    0 < q.maxDepth ∧ q.maxDepth ≤ q.depth := by
  have hnot : ¬ (q.maxDepth = 0 ∨ q.depth < q.maxDepth) := by
    rw [← hasRoom_iff, h]
    exact Bool.false_ne_true
  omega

/-- Only in an empty queue nothing is found. -/
theorem Fair.depth_eq_zero (h : q.Fair) (hidle : q.pop.1 = .idle) : q.depth = 0 := by
  have htakes := takes_pop h.orderly.ascending
  rw [h.orderly.counted, tasks]
  generalize q.pop = result at htakes hidle
  cases htakes with
  | idle hentries => rw [hentries]; rfl
  | task => cases hidle
  | exit => cases hidle

/-- A task that is taken was counted. -/
theorem Fair.depth_of_task {t : Task (EngineTask χ)} (h : q.Fair) (htask : q.pop.1 = .task t) :
    q.pop.2.depth + 1 = q.depth ∧ q.pop.2.config = q.config := by
  have htakes := takes_pop h.orderly.ascending
  have hcounted := h.orderly.counted
  generalize q.pop = result at htakes htask
  cases htakes with
  | idle => cases htask
  | exit => cases htask
  | @task front back e t hsplit _ he =>
    have hmem : t ∈ q.tasks := List.mem_filterMap.mpr ⟨e, mem_of_split hsplit, he⟩
    have hpos := List.length_pos_of_mem hmem
    refine ⟨?_, rfl⟩
    dsimp only
    omega

end TaskQueue

namespace Room

variable {r r' : Room (EngineTask χ)} {t : Task (EngineTask χ)} {p : Producer (EngineTask χ)}

/-- A queue at whose door nobody waits unless all places are taken, by tasks or for producers that
were told. -/
structure Prompt (r : Room (EngineTask χ)) : Prop where
  crowded : r.waiting ≠ [] →
    0 < r.queue.maxDepth ∧ r.queue.maxDepth ≤ r.queue.depth + r.notified.length
  unlimited : r.queue.maxDepth = 0 → r.notified = []

/-- There is nobody to be woken in a new room. -/
theorem prompt_new (name : String) (config : QueueConfig) :
    ({ queue := { name, config } } : Room (EngineTask χ)).Prompt :=
  ⟨fun hwaiting => absurd rfl hwaiting, fun _ => rfl⟩

/-- Nobody waits for a queue without a limit. -/
theorem Prompt.door_eq_nil (h : r.Prompt) (hzero : r.queue.maxDepth = 0) : r.door = [] := by
  have hwaiting : r.waiting = [] := by
    by_contra hne
    have hcrowded := (h.crowded hne).1
    omega
  rw [door, h.unlimited hzero, hwaiting, List.append_nil]

/-- Posting to a room wakes the thread if there is anything to do. -/
theorem Prompt.push (h : r.Prompt) (number : Nat) (t : Task (EngineTask χ))
    (policy : FullPolicy) : (r.push number t policy).2.Prompt := by
  have hoffers := TaskQueue.offers_offer r.queue t policy
  unfold Room.push
  generalize r.queue.offer t policy = result at hoffers
  cases hoffers with
  | closed => exact h
  | refused => exact h
  | accepted =>
    refine ⟨fun hwaiting => ?_, h.unlimited⟩
    have hcrowded := h.crowded hwaiting
    change 0 < r.queue.maxDepth ∧ r.queue.maxDepth ≤ r.queue.depth + 1 + r.notified.length
    omega
  | full _ hroom =>
    refine ⟨fun _ => ?_, h.unlimited⟩
    have htaken := TaskQueue.le_depth_of_hasRoom_eq_false hroom
    dsimp only
    omega

/-- What there is to do: a task has to be taken, a producer at the door has to come in, and one that
was told has to try again. -/
def load (r : Room (EngineTask χ)) : Nat :=
  2 * (r.queue.depth + r.door.length) + r.notified.length

/-- A producer that tries again comes in, or waits to be told once more. -/
theorem InLane.retry (h : r.InLane) (hprompt : r.Prompt) (hp : p ∈ r.notified) :
    (r.retry p).2.Prompt ∧ (r.retry p).2.load < r.load := by
  obtain ⟨front, back, hsplit, hkept, -⟩ := h.filter_notified hp
  have hlength : r.notified.length = (front ++ back).length + 1 := by
    rw [hsplit, List.length_append, List.length_append, List.length_cons, Nat.add_assoc]
  have hunlimited (hzero : r.queue.maxDepth = 0) : front ++ back = [] := by
    have hnone := hprompt.unlimited hzero
    rw [hnone] at hp
    cases hp
  have hoffers := TaskQueue.offers_offer r.queue p.task .block
  have hblock := h.fair.offer_block (t := p.task)
  unfold Room.retry Room.push
  dsimp only
  rw [hkept]
  rw [List.length_append] at hlength
  generalize r.queue.offer p.task .block = result at hoffers hblock
  cases hoffers with
  | closed => exact absurd rfl (hblock _)
  | refused => exact absurd rfl (hblock _)
  | accepted =>
    refine ⟨⟨fun hwaiting => ?_, hunlimited⟩, ?_⟩
    · have hcrowded := hprompt.crowded hwaiting
      change 0 < r.queue.maxDepth ∧ r.queue.maxDepth ≤ r.queue.depth + 1 + (front ++ back).length
      rw [List.length_append]
      omega
    · simp only [load, door, List.length_append]
      omega
  | full _ hroom =>
    have htaken := TaskQueue.le_depth_of_hasRoom_eq_false hroom
    refine ⟨⟨fun _ => ?_, hunlimited⟩, ?_⟩
    · dsimp only
      omega
    · simp only [load, door, List.length_append, List.length_singleton]
      omega

/-- Whoever takes a task tells one of those who wait. -/
theorem InLane.take (h : r.InLane) (hprompt : r.Prompt) (hpop : r.pop = (.task t, r')) :
    r'.Prompt ∧ r'.load < r.load := by
  have hdepth := @TaskQueue.Fair.depth_of_task _ r.queue t h.fair
  unfold Room.pop at hpop
  generalize r.queue.pop = popped at hpop hdepth
  obtain ⟨found, queue⟩ := popped
  cases found with
  | idle => cases hpop
  | exit => cases hpop
  | task t' =>
    obtain ⟨hfound, rfl⟩ := Prod.mk.inj hpop
    obtain ⟨hcount, hconfig⟩ := hdepth hfound
    have hmax : queue.maxDepth = r.queue.maxDepth := congrArg (·.maxDepth.toNat) hconfig
    dsimp only at hcount
    unfold notifyOne
    dsimp only
    split
    · next hnone =>
      refine ⟨⟨fun hwaiting => absurd hnone hwaiting, ?_⟩, ?_⟩
      · rw [hmax]
        exact hprompt.unlimited
      · simp only [load, door]
        omega
    · next first rest hwaiting =>
      have hcrowded := hprompt.crowded (by rw [hwaiting]; exact List.cons_ne_nil first rest)
      refine ⟨⟨fun _ => ?_, ?_⟩, ?_⟩
      · dsimp only
        rw [hmax, List.length_append, List.length_singleton]
        omega
      · dsimp only
        rw [hmax]
        intro hzero
        omega
      · simp only [load, door, hwaiting, List.length_append, List.length_cons, List.length_nil]
        omega

end Room

namespace Worker

variable {w w' : Worker (EngineTask χ) Unit} {now : Time} {i : Incident (EngineTask χ) Unit}

/-- A thread that can go on. -/
structure Ready (w : Worker (EngineTask χ) Unit) : Prop where
  inLane : w.room.InLane
  prompt : w.room.Prompt
  present : w.phase ≠ .exited

/-- A thread that is woken has not left. -/
theorem wake_phase_ne_exited (h : w.phase ≠ .exited) : w.wake.phase ≠ .exited := by
  unfold wake
  split
  · simp
  · exact h

/-- A thread that can go on can go on after each of its ordinary steps. -/
theorem Ready.performs (h : w.Ready) (hperforms : Performs now w i w') (hi : i.IsOrdinary) :
    w'.Ready := by
  have hlane := (hperforms.lane_eq h.inLane hi).1
  have hsame (hroom : w'.room = w.room) (hphase : w'.phase ≠ .exited) : w'.Ready :=
    ⟨hlane, hroom ▸ h.prompt, hphase⟩
  cases hperforms with
  | post number t => exact ⟨hlane, h.prompt.push number t _, h.present⟩
  | retry p hp => exact ⟨hlane, (h.inLane.retry h.prompt hp).1, h.present⟩
  | postOwn t => exact ⟨hlane, h.prompt.push 0 t .fail, h.present⟩
  | close mode => exact hi.elim
  | register => exact hsame rfl h.present
  | cancel => exact hsame rfl h.present
  | wake => exact hsame (wake_room w) (wake_phase_ne_exited h.present)
  | begin hphase => exact hsame (by simp [step, hphase]) (by simp [step, hphase])
  | fire hphase => exact hsame (by simp [step, hphase]) (by simp [step, hphase])
  | await hphase => exact hsame (by simp [step, hphase]) (by simp [step, hphase])
  | timeOut hphase hle =>
    have hlate : ¬ now < _ := Nat.not_lt.mpr hle
    refine hsame ?_ ?_
    · simp only [step, hphase, if_neg hlate]
      split <;> rfl
    · simp only [step, hphase, if_neg hlate]
      split <;> simp
  | finish => exact hsame (by simp) (by simp)
  | @look deadline hphase =>
    have hstep : w.step now = w.take deadline := by simp [step, hphase]
    rw [hstep, take] at hlane ⊢
    rcases hpop : w.room.pop with ⟨found, room⟩
    rw [hpop] at hlane
    rcases (h.inLane.pop hpop).2 with ⟨rfl, rfl⟩ | ⟨t, rfl, -⟩
    · exact ⟨h.inLane, h.prompt, by simp⟩
    · exact ⟨hlane, (h.inLane.take h.prompt hpop).1, by simp⟩

/-- A thread that can go on can go on after a frame was posted, too. -/
theorem Ready.post (h : w.Ready) (f : Frame) (hfree : ∀ p ∈ w.room.door, p.number ≠ 0) :
    (w.post 0 ⟨.normal, .handle f⟩).2.Ready := by
  have hroom := (post_eq w 0 ⟨.normal, .handle f⟩).2
  refine ⟨?_, ?_, ?_⟩
  · rw [hroom]
    exact (h.inLane.push 0 _ hfree fun _ _ => ⟨rfl, rfl⟩).1
  · rw [hroom]
    exact h.prompt.push 0 _ _
  · unfold Worker.post
    split
    · exact wake_phase_ne_exited h.present
    · exact h.present

/-! ## The next step -/

/-- What a thread has to do, with the phases between two tasks and the calls of a pass. -/
def burden (w : Worker (EngineTask χ) Unit) : Nat × Nat × Nat := (w.room.load, w.stage, w.calls)

/-- One thread has less to do than another. -/
def Lighter : Worker (EngineTask χ) Unit → Worker (EngineTask χ) Unit → Prop :=
  InvImage (Prod.Lex (· < ·) (Prod.Lex (· < ·) (· < ·))) burden

/-- Nothing becomes lighter for ever. -/
theorem lighter_wf :
    WellFounded (Lighter : Worker (EngineTask χ) Unit → Worker (EngineTask χ) Unit → Prop) :=
  InvImage.wf _ (Prod.lex Nat.lt_wfRel (Prod.lex Nat.lt_wfRel Nat.lt_wfRel)).wf

/-- With less to do in its room a thread has less to do. -/
theorem lighter_of_load_lt (h : w'.room.load < w.room.load) : w'.Lighter w := .left _ _ h

/-- A thread that is closer to its next task has less to do. -/
theorem lighter_of_stage_lt (hroom : w'.room = w.room) (hstage : w'.stage < w.stage) :
    w'.Lighter w := by
  unfold Lighter InvImage burden
  rw [hroom]
  exact .right _ (.left _ _ hstage)

/-- A thread that has something to do can take a step after which it has less to do. -/
theorem Ready.exists_lighter (h : w.Ready) (hload : 0 < w.room.load) (now : Time) :
    ∃ i w', Performs now w i w' ∧ i.IsOrdinary ∧ w'.Lighter w := by
  cases hnotified : w.room.notified with
  | cons p rest =>
    have hp : p ∈ w.room.notified := by
      rw [hnotified]
      exact List.mem_cons_self
    refine ⟨_, _, .retry p hp, trivial, lighter_of_load_lt ?_⟩
    exact (h.inLane.retry h.prompt hp).2
  | nil =>
    have hdepth : 0 < w.room.queue.depth := by
      cases hwaiting : w.room.waiting with
      | nil =>
        rw [Room.load, Room.door, hnotified, hwaiting] at hload
        simpa using hload
      | cons first rest =>
        have hcrowded := h.prompt.crowded (by rw [hwaiting]; exact List.cons_ne_nil first rest)
        rw [hnotified, List.length_nil] at hcrowded
        omega
    cases hphase : w.phase with
    | exited => exact absurd hphase h.present
    | running task =>
      refine ⟨_, _, .finish false hphase, trivial, lighter_of_stage_lt ?_ ?_⟩
      · simp
      · simp [stage, hphase]
    | passing =>
      refine ⟨_, _, .begin hphase, trivial, lighter_of_stage_lt ?_ ?_⟩
      · simp [step, hphase]
      · simp [stage, step, hphase]
    | firing began due =>
      cases due with
      | nil =>
        refine ⟨_, _, .await hphase, trivial, lighter_of_stage_lt ?_ ?_⟩
        · simp [step, hphase]
        · simp [stage, step, hphase]
      | cons timer due =>
        refine ⟨_, _, .fire hphase, trivial, ?_⟩
        simp [Lighter, InvImage, Prod.lex_def, burden, stage, calls, step, hphase]
    | waiting deadline asleep =>
      cases asleep with
      | true =>
        refine ⟨_, _, .wake, trivial, lighter_of_stage_lt (wake_room w) ?_⟩
        simp [stage, wake, hphase]
      | false =>
        refine ⟨_, _, .look hphase, trivial, lighter_of_load_lt ?_⟩
        have hstep : w.step now = w.take deadline := by simp [step, hphase]
        rw [hstep, take]
        rcases hpop : w.room.pop with ⟨found, room⟩
        rcases (h.inLane.pop hpop).2 with ⟨rfl, -⟩ | ⟨t, rfl, -⟩
        · have hidle : w.room.queue.pop.1 = .idle := by
            unfold Room.pop at hpop
            generalize w.room.queue.pop = popped at hpop
            obtain ⟨found, queue⟩ := popped
            cases found with
            | idle => rfl
            | task => cases hpop
            | exit => cases hpop
          have hzero := h.inLane.fair.depth_eq_zero hidle
          omega
        · exact (h.inLane.take h.prompt hpop).2

/-- A thread that has nothing to do has no frames, and nobody is at its door. -/
theorem Ready.lane_eq_nil (h : w.Ready) (hload : w.room.load = 0) :
    w.room.lane = [] ∧ w.room.door = [] ∧ w.room.queue.hasRoom = true := by
  have hdepth : w.room.queue.depth = 0 := by
    rw [Room.load] at hload
    omega
  have hdoor : w.room.door = [] := by
    refine List.eq_nil_of_length_eq_zero ?_
    rw [Room.load] at hload
    omega
  have htasks : w.room.queue.tasks = [] := by
    refine List.eq_nil_of_length_eq_zero ?_
    rw [← h.inLane.fair.orderly.counted, hdepth]
  refine ⟨?_, hdoor, ?_⟩
  · rw [Room.lane, TaskQueue.frames, htasks, hdoor]
    rfl
  · rw [TaskQueue.hasRoom_iff]
    omega

end Worker

namespace Station

variable {σ ρ χ : Type} {s : Station σ ρ χ} {c : Carrier σ}

/-- With nobody at the door a frame can be posted. -/
theorem free_of_door_eq_nil (h : s.worker.room.door = []) : s.Free := by
  intro p hp
  rw [h] at hp
  cases hp

/-- After a station has received, its thread still can go on, and what is tracked is as before. -/
theorem ready_receive (h : s.worker.Ready) (hfree : s.Free) :
    (s.receive c).worker.Ready ∧
      (s.receive c).engine.outbound.tracker = s.engine.outbound.tracker := by
  have htracker : (s.engine.receive c).2.outbound.tracker = s.engine.outbound.tracker := by
    unfold Engine.receive
    dsimp only
    split <;> rfl
  unfold receive
  generalize s.engine.receive c = received at htracker
  obtain ⟨_ | frame, engine⟩ := received
  · exact ⟨h, htracker⟩
  · have hpost := h.post frame hfree
    dsimp only
    generalize s.worker.post 0 ⟨.normal, .handle frame⟩ = posted at hpost
    obtain ⟨_ | error | _, worker⟩ := posted
    · exact ⟨hpost, htracker⟩
    · exact ⟨hpost, htracker⟩
    · exact ⟨hpost, htracker⟩

/-- The thread of a station that was just opened can go on. -/
theorem Opened.ready {config : EngineConfig} {medium : σ} {outside : ρ}
    (h : s.Opened c config medium outside) : s.worker.Ready := by
  obtain ⟨-, hroom, hphase⟩ := h.fresh
  refine ⟨?_, ?_, ?_⟩
  · rw [hroom]
    exact (Room.inLane_new ..).1
  · rw [hroom]
    exact Room.prompt_new ..
  · simp [hphase]

end Station

end Courier
