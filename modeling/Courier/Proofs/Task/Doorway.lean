import Courier.Proofs.Task.Crowding

/-!
# Producers at the door

Any number of producers push onto one queue. One that finds it full waits at the door until it is
told to try again, and may find it full once more, as others need not wait for it. It may also wake
up without being told. Even so nobody is forgotten: as long as a producer waits, the tasks in the
queue and the producers that were told would fill it, and once the queue is closed everybody at the
door is sent away. One that tries again is never turned away for want of memory, which would leave
the place that it was told of to nobody: it has seen the queue full, and a queue keeps the memory
that it once had.
-/

namespace Courier

/-- A queue and the producers at its door, of whom some woke up without being told. -/
structure Doorway (α : Type) where
  room : Room α
  /-- Producers that woke up by themselves and have not tried again. -/
  stirring : List (Producer α) := []
  /-- The most entries that the queue has held so far. There is memory for as many. -/
  peak : Nat := 0

namespace Doorway

variable {α : Type} {d d' : Doorway α} {p : Producer α} {short : Nat}

/-- The producers that are going to try again. -/
def awake (d : Doorway α) : List (Producer α) := d.room.notified ++ d.stirring

/-- The producers at the door. -/
def atDoor (d : Doorway α) : List (Producer α) := d.room.atDoor ++ d.stirring

/-- What there is after something has happened to the room. -/
def enter (d : Doorway α) (room : Room α) : Doorway α :=
  { d with room, peak := max d.peak room.queue.entries.length }

/-- A producer that tries again leaves the door; it may come back as any other does. -/
def without (d : Doorway α) (p : Producer α) : Doorway α :=
  { d with
    room := { d.room with notified := d.room.notified.filter (·.number ≠ p.number) }
    stirring := d.stirring.filter (·.number ≠ p.number) }

/-- A task would be accepted, but there may be no memory for it, as the queue has never held more
entries than now. -/
structure Exhausted (d : Doorway α) : Prop where
  accepting : d.room.queue.accepting = true
  hasRoom : d.room.queue.hasRoom = true
  peak_le : d.peak ≤ d.room.queue.entries.length

/-- The failure that there was no memory. -/
def outOfMemory (d : Doorway α) (source : String) : TaskError :=
  .allocation ("queue " ++ d.room.queue.name ++ ": " ++ source)

/-- What happens at a queue, with what comes of it. -/
inductive Event (α : Type) where
  /-- A newcomer brings its task. -/
  | push (p : Producer α) (offer : Offer)
  /-- A producer that was told, or woke up, tries again. -/
  | retry (p : Producer α) (offer : Offer)
  /-- A producer wakes up without being told. -/
  | stir (p : Producer α)
  /-- Those that wait fall into another order. -/
  | reorder
  | pop (found : Found α)
  | close (mode : ShutdownMode) (done : Bool)
  | clear (dropped : List (Task α))

/-- How a doorway changes with what happens. A producer at the door does nothing else meanwhile. It
is not promised who is told first, and so the order of those that wait may change at any time. -/
inductive Performs (d : Doorway α) : Event α → Doorway α → Prop
  | push (p : Producer α) (policy : FullPolicy) : (∀ other ∈ d.atDoor, other.number ≠ p.number) →
      Performs d (.push p (d.room.push p.number p.task policy).1)
        (d.enter (d.room.push p.number p.task policy).2)
  | starve (p : Producer α) (source : String) : (∀ other ∈ d.atDoor, other.number ≠ p.number) →
      d.Exhausted → Performs d (.push p (.refused (d.outOfMemory source))) d
  | retry (p : Producer α) : p ∈ d.awake →
      Performs d (.retry p (d.room.retry p).1) ((d.without p).enter (d.room.retry p).2)
  | starveAgain (p : Producer α) (source : String) : p ∈ d.awake → d.Exhausted →
      Performs d (.retry p (.refused (d.outOfMemory source))) (d.without p)
  | stir (p : Producer α) : p ∈ d.room.waiting →
      Performs d (.stir p)
        { d with
          room := { d.room with waiting := d.room.waiting.filter (·.number ≠ p.number) }
          stirring := d.stirring ++ [p] }
  | reorder {order : List (Producer α)} : order.Perm d.room.waiting →
      Performs d .reorder { d with room := { d.room with waiting := order } }
  | pop : Performs d (.pop d.room.pop.1) (d.enter d.room.pop.2)
  | close (mode : ShutdownMode) :
      Performs d (.close mode (d.room.close mode).1) (d.enter (d.room.close mode).2)
  | clear : Performs d (.clear d.room.clear.1) (d.enter d.room.clear.2)

/-- Things that happen one after the other. -/
inductive Run : Doorway α → List (Event α) → Doorway α → Prop
  | stop {d : Doorway α} : Run d [] d
  | step {d d₁ d' : Doorway α} {e : Event α} {events : List (Event α)} :
      Performs d e d₁ → Run d₁ events d' → Run d (e :: events) d'

/-- What holds of a doorway at any time, when no more than `short` producers have just left it to
try again. Whoever is at the door has seen the queue full, so that it has held as many entries as
it may. -/
structure Sound (d : Doorway α) (short : Nat) : Prop where
  orderly : ∃ mark, d.room.queue.Orderly mark
  distinct : (d.atDoor.map (·.number)).Nodup
  crowded : d.room.Crowded short
  bounded : d.atDoor ≠ [] → 0 < d.room.queue.maxDepth
  filled : d.atDoor ≠ [] → d.room.queue.accepting = true → d.room.queue.maxDepth ≤ d.peak

/-- Nobody is at the door of a new queue. -/
theorem sound_new (name : String) (config : QueueConfig) :
    ({ room := { queue := { name, config } } } : Doorway α).Sound 0 where
  orderly := ⟨none, TaskQueue.orderly_new name config⟩
  distinct := .nil
  crowded hwaiting := absurd rfl hwaiting
  bounded hdoor := absurd rfl hdoor
  filled hdoor := absurd rfl hdoor

/-- At the door are those that wait and those that are awake. -/
theorem atDoor_eq (d : Doorway α) : d.atDoor = d.room.waiting ++ d.awake := List.append_assoc ..

/-- A producer that leaves the door is not awake there any more. -/
theorem awake_without (d : Doorway α) (p : Producer α) :
    (d.without p).awake = d.awake.filter (·.number ≠ p.number) :=
  (List.filter_append ..).symm

/-- Those that wait are told apart by their numbers. -/
theorem Sound.distinct_waiting (h : d.Sound short) : (d.room.waiting.map (·.number)).Nodup := by
  have hdistinct := h.distinct
  rw [atDoor_eq, List.map_append] at hdistinct
  exact (List.nodup_append.mp hdistinct).1

/-- Those that are awake are told apart by their numbers. -/
theorem Sound.distinct_awake (h : d.Sound short) : (d.awake.map (·.number)).Nodup := by
  have hdistinct := h.distinct
  rw [atDoor_eq, List.map_append] at hdistinct
  exact (List.nodup_append.mp hdistinct).2.1

/-- Those that were told are told apart by their numbers. -/
theorem Sound.distinct_notified (h : d.Sound short) : (d.room.notified.map (·.number)).Nodup := by
  have hdistinct := h.distinct_awake
  rw [awake, List.map_append] at hdistinct
  exact (List.nodup_append.mp hdistinct).1

/-- A producer that tries again leaves the others at the door. -/
theorem Sound.perm_cons_without (h : d.Sound short) (hp : p ∈ d.awake) :
    d.atDoor.Perm (p :: (d.without p).atDoor) := by
  rw [atDoor_eq, atDoor_eq, awake_without]
  exact ((perm_cons_filter_number h.distinct_awake hp).append_left _).trans List.perm_middle

/-- A few more may have left the door. -/
theorem Sound.mono {more : Nat} (h : d.Sound short) (hle : short ≤ more) : d.Sound more :=
  ⟨h.orderly, h.distinct, h.crowded.mono hle, h.bounded, h.filled⟩

/-- Who is awake is at the door. -/
theorem atDoor_ne_nil (hp : p ∈ d.awake) : d.atDoor ≠ [] := by
  rw [atDoor_eq]
  exact List.append_ne_nil_of_right_ne_nil _ (List.ne_nil_of_mem hp)

/-- At a closed queue all that are at the door are going to try again. -/
theorem Sound.atDoor_of_closed (h : d.Sound short) (hclosed : d.room.queue.accepting = false) :
    d.atDoor = d.awake := by
  rw [atDoor_eq, h.crowded.waiting_eq_nil hclosed, List.nil_append]

/-- There is memory for the task of a producer that tries again. -/
theorem Sound.not_exhausted (h : d.Sound short) (hdoor : d.atDoor ≠ []) : ¬ d.Exhausted := by
  rintro ⟨haccepting, hroom, hpeak⟩
  obtain ⟨mark, horderly⟩ := h.orderly
  have hentries := horderly.length_entries haccepting
  have hbounded := h.bounded hdoor
  have hfilled := h.filled hdoor haccepting
  rw [TaskQueue.hasRoom_iff] at hroom
  omega

/-! ## What is kept -/

/-- Where those at the door are the same and the queue has kept its bound, nothing can go wrong but
that somebody waits without need. -/
theorem Sound.of_perm {room : Room α} {stirring : List (Producer α)} {peak : Nat}
    (h : d.Sound short) (horderly : ∃ mark, room.queue.Orderly mark)
    (hmax : room.queue.maxDepth = d.room.queue.maxDepth)
    (hopen : room.queue.accepting = true → d.room.queue.accepting = true)
    (hcrowded : room.Crowded 0) (hpeak : d.peak ≤ peak)
    (hdoor : (room.atDoor ++ stirring).Perm d.atDoor) :
    (⟨room, stirring, peak⟩ : Doorway α).Sound 0 := by
  have hsame (hnear : room.atDoor ++ stirring ≠ []) : d.atDoor ≠ [] := fun hnil =>
    hnear (List.Perm.eq_nil (hnil ▸ hdoor))
  refine ⟨horderly, (hdoor.map _).nodup_iff.mpr h.distinct, hcrowded, ?_, ?_⟩
  · intro hnear
    exact hmax ▸ h.bounded (hsame hnear)
  · intro hnear haccepting
    exact hmax ▸ Nat.le_trans (h.filled (hsame hnear) (hopen haccepting)) hpeak

/-- What happens to the room keeps the doorway in order, if it leaves the same producers at the
door. -/
theorem Sound.enter {room : Room α} {e : TaskQueue.Event α} (h : d.Sound short)
    (hqueue : d.room.queue.Performs e room.queue) (hdoor : room.atDoor.Perm d.room.atDoor)
    (hcrowded : room.Crowded 0) : (d.enter room).Sound 0 := by
  obtain ⟨mark, horderly⟩ := h.orderly
  obtain ⟨-, hconfig, haccepting⟩ := hqueue.frame
  refine h.of_perm ⟨_, hqueue.orderly horderly⟩ (congrArg (·.maxDepth.toNat) hconfig)
    (fun hopen => ?_) hcrowded (Nat.le_max_left _ _) (hdoor.append_right _)
  rw [haccepting, Bool.and_eq_true] at hopen
  exact hopen.1

/-- A producer that comes to the door has seen the queue full. -/
theorem Sound.push (h : d.Sound 1) (hfresh : ∀ other ∈ d.atDoor, other.number ≠ p.number)
    (policy : FullPolicy) : (d.enter (d.room.push p.number p.task policy).2).Sound 0 := by
  have hqueue : d.room.queue.Performs _ _ := .push p.task policy
  have hdoor := d.room.atDoor_push p.number p.task policy
  have hcrowded := h.crowded.push p.number p.task policy
  by_cases hfull : (d.room.push p.number p.task policy).1 = .full
  · obtain ⟨mark, horderly⟩ := h.orderly
    rw [Room.push_fst] at hfull
    obtain ⟨haccepting, hpos, hdepth⟩ := TaskQueue.full_of_offer hfull
    have hsame : (d.room.push p.number p.task policy).2.queue = d.room.queue := by
      rw [Room.push_queue, TaskQueue.offer_eq_self (by simp [hfull])]
    have hperm : (d.enter (d.room.push p.number p.task policy).2).atDoor.Perm (p :: d.atDoor) := by
      rw [Room.push_fst, if_pos hfull] at hdoor
      exact hdoor.append_right _
    have hentries := horderly.length_entries haccepting
    refine ⟨⟨mark, hsame ▸ horderly⟩, ?_, hcrowded, fun _ => ?_, fun _ _ => ?_⟩
    · rw [(hperm.map _).nodup_iff, List.map_cons, List.nodup_cons]
      refine ⟨fun hmem => ?_, h.distinct⟩
      obtain ⟨other, hother, heq⟩ := List.mem_map.mp hmem
      exact hfresh other hother heq
    · change 0 < (d.room.push p.number p.task policy).2.queue.maxDepth
      rwa [hsame]
    · change (d.room.push p.number p.task policy).2.queue.maxDepth ≤
        max d.peak (d.room.push p.number p.task policy).2.queue.entries.length
      rw [hsame]
      omega
  · rw [if_neg hfull] at hdoor
    rw [← Room.push_queue d.room p.number p.task policy] at hqueue
    exact h.enter hqueue hdoor hcrowded

/-- A producer that tries again may have been told of the room that there is. -/
theorem Sound.without (h : d.Sound 0) (hp : p ∈ d.awake) : (d.without p).Sound 1 := by
  have hdoor := atDoor_ne_nil hp
  have hdistinct := ((h.perm_cons_without hp).map (·.number)).nodup_iff.mp h.distinct
  refine ⟨h.orderly, (List.nodup_cons.mp hdistinct).2, ?_, fun _ => h.bounded hdoor,
    fun _ => h.filled hdoor⟩
  intro hwaiting
  obtain ⟨haccepting, hdepth⟩ := h.crowded hwaiting
  have hlength := length_le_filter_number h.distinct_notified p.number
  refine ⟨haccepting, ?_⟩
  change d.room.queue.maxDepth ≤ d.room.queue.depth + (d.room.notified.filter _).length + 1
  omega

/-- Who leaves the door can come back with the same number. -/
theorem Sound.fresh_without (h : d.Sound short) (hp : p ∈ d.awake) :
    ∀ other ∈ (d.without p).atDoor, other.number ≠ p.number := by
  intro other hother heq
  have hdistinct := ((h.perm_cons_without hp).map (·.number)).nodup_iff.mp h.distinct
  rw [List.map_cons, List.nodup_cons] at hdistinct
  exact hdistinct.1 (List.mem_map.mpr ⟨other, hother, heq⟩)

/-- A producer that wakes up by itself stays at the door. -/
theorem Sound.perm_stir (h : d.Sound short) (hp : p ∈ d.room.waiting) :
    (d.room.waiting.filter (·.number ≠ p.number) ++ d.room.notified ++
      (d.stirring ++ [p])).Perm d.atDoor := by
  have hperm := perm_cons_filter_number h.distinct_waiting hp
  rw [← List.append_assoc]
  refine (List.perm_append_singleton p _).trans ?_
  exact (hperm.symm.append_right d.room.notified).append_right d.stirring

/-- The doorway is in order after everything that can happen. -/
theorem Performs.sound {e : Event α} (hperforms : d.Performs e d') (h : d.Sound 0) :
    d'.Sound 0 := by
  cases hperforms with
  | push p policy hfresh => exact (h.mono (Nat.zero_le 1)).push hfresh policy
  | starve => exact h
  | retry p hp => exact (h.without hp).push (h.fresh_without hp) .block
  | starveAgain p source hp hexhausted =>
    exact absurd hexhausted (h.not_exhausted (atDoor_ne_nil hp))
  | stir p hp =>
    exact h.of_perm h.orderly rfl id (fun _ => h.crowded (List.ne_nil_of_mem hp)) (Nat.le_refl _)
      (h.perm_stir hp)
  | reorder horder =>
    have hdoor := (horder.append_right d.room.notified).append_right d.stirring
    refine h.of_perm h.orderly rfl id (fun hwaiting => h.crowded fun hnil => ?_) (Nat.le_refl _)
      hdoor
    exact hwaiting (List.Perm.eq_nil (hnil ▸ horder))
  | pop =>
    refine h.enter (e := .pop d.room.queue.pop.1) ?_ (Room.atDoor_pop _) h.crowded.pop
    rw [Room.pop_queue]
    exact .pop
  | close mode =>
    refine h.enter (e := .close mode (d.room.queue.close mode).1) ?_ (Room.atDoor_close _ mode)
      (h.crowded.close mode)
    rw [Room.close_queue]
    exact .close mode
  | clear => exact h.enter (.clear (q := d.room.queue)) (Room.atDoor_clear _) (Room.crowded_clear _)

/-- The doorway is in order throughout a run. -/
theorem Run.sound {events : List (Event α)} (hrun : Run d events d') (h : d.Sound 0) :
    d'.Sound 0 := by
  induction hrun with
  | stop => exact h
  | step hperforms _ ih => exact ih (hperforms.sound h)

/-! ## After the queue was closed -/

/-- The producers that tried again. -/
def Event.retried : Event α → List (Producer α)
  | .retry p _ => [p]
  | _ => []

/-- What happens at the door is done to the queue, if it is done to the queue at all. -/
theorem Performs.queue_run {e : Event α} (h : d.Performs e d') :
    ∃ events, TaskQueue.Run d.room.queue events d'.room.queue := by
  cases h with
  | push p policy =>
    change ∃ events, TaskQueue.Run _ events (d.room.push p.number p.task policy).2.queue
    rw [Room.push_queue]
    exact ⟨_, .step (.push p.task policy) .stop⟩
  | retry p =>
    change ∃ events, TaskQueue.Run _ events (d.room.retry p).2.queue
    rw [Room.retry_queue]
    exact ⟨_, .step (.push p.task .block) .stop⟩
  | starve | starveAgain | stir | reorder => exact ⟨[], .stop⟩
  | pop =>
    change ∃ events, TaskQueue.Run _ events d.room.pop.2.queue
    rw [Room.pop_queue]
    exact ⟨_, .step .pop .stop⟩
  | close mode =>
    change ∃ events, TaskQueue.Run _ events (d.room.close mode).2.queue
    rw [Room.close_queue]
    exact ⟨_, .step (.close mode) .stop⟩
  | clear => exact ⟨_, .step .clear .stop⟩

/-- What happens at the door is a run of the queue. -/
theorem Run.queue_run {events : List (Event α)} (h : Run d events d') :
    ∃ events, TaskQueue.Run d.room.queue events d'.room.queue := by
  induction h with
  | stop => exact ⟨[], .stop⟩
  | step hperforms _ ih =>
    obtain ⟨first, hfirst⟩ := hperforms.queue_run
    obtain ⟨more, hmore⟩ := ih
    exact ⟨first ++ more, hfirst.append hmore⟩

/-- A run can be divided anywhere. -/
theorem Run.split {before after : List (Event α)} (h : Run d (before ++ after) d') :
    ∃ d₁, Run d before d₁ ∧ Run d₁ after d' := by
  induction before generalizing d with
  | nil => exact ⟨d, .stop, h⟩
  | cons e before ih =>
    cases h with
    | step hperforms hrun =>
      obtain ⟨d₁, hbefore, hafter⟩ := ih hrun
      exact ⟨d₁, .step hperforms hbefore, hafter⟩

/-- Once the queue is closed nobody comes to the door, and those who try again leave it for good. -/
theorem Performs.after_close {e : Event α} (hperforms : d.Performs e d') (h : d.Sound 0)
    (hclosed : d.room.queue.accepting = false) :
    (e.retried ++ d'.atDoor).Perm d.atDoor ∧
      ∀ p offer, e = .retry p offer → offer = .refused (.threadStopped d.room.queue.name) := by
  have hnotExhausted : ¬ d.Exhausted := fun hexhausted => by
    simpa [hclosed] using hexhausted.accepting
  cases hperforms with
  | push p policy =>
    rw [Room.push_of_closed hclosed]
    exact ⟨.refl _, nofun⟩
  | starve p source _ hexhausted => exact absurd hexhausted hnotExhausted
  | retry p hp =>
    have hretry : d.room.retry p =
        (.refused (.threadStopped d.room.queue.name), (d.without p).room) :=
      Room.push_of_closed (r := (d.without p).room) hclosed p.number p.task .block
    rw [hretry]
    refine ⟨(h.perm_cons_without hp).symm, fun other offer heq => ?_⟩
    cases heq
    rfl
  | starveAgain p source _ hexhausted => exact absurd hexhausted hnotExhausted
  | stir p hp => exact ⟨h.perm_stir hp, nofun⟩
  | reorder horder => exact ⟨(horder.append_right _).append_right _, nofun⟩
  | pop => exact ⟨(Room.atDoor_pop d.room).append_right _, nofun⟩
  | close mode => exact ⟨(Room.atDoor_close d.room mode).append_right _, nofun⟩
  | clear => exact ⟨(Room.atDoor_clear d.room).append_right _, nofun⟩

/-- After the queue was closed, whoever was at the door is turned away or still there. -/
theorem Run.after_close {events : List (Event α)} (hrun : Run d events d') (h : d.Sound 0)
    (hclosed : d.room.queue.accepting = false) :
    (events.flatMap Event.retried ++ d'.atDoor).Perm d.atDoor ∧
      ∀ p offer, .retry p offer ∈ events → offer = .refused (.threadStopped d.room.queue.name) := by
  induction hrun with
  | stop => exact ⟨.refl _, nofun⟩
  | @step d d₁ d' e events hperforms _ ih =>
    obtain ⟨hfirst, hoffer⟩ := hperforms.after_close h hclosed
    obtain ⟨_, hqueue⟩ := hperforms.queue_run
    obtain ⟨hrest, hoffers⟩ := ih (hperforms.sound h) (hqueue.shut hclosed)
    rw [hqueue.frame.1] at hoffers
    rw [List.flatMap_cons, List.append_assoc]
    refine ⟨(hrest.append_left _).trans hfirst, fun p offer hmem => ?_⟩
    rcases List.mem_cons.mp hmem with heq | hmem
    · exact hoffer p offer heq.symm
    · exact hoffers p offer hmem

/-- Closing closes the queue. -/
theorem Performs.accepting_eq_false {mode : ShutdownMode} (h : d.Performs (.close mode true) d') :
    d'.room.queue.accepting = false := by
  generalize hevent : Event.close mode true = e at h
  cases h with
  | close mode =>
    injection hevent with _ hdone
    change (d.room.close mode).2.queue.accepting = false
    rw [Room.close_fst] at hdone
    rw [Room.close_queue]
    have hframe := (TaskQueue.Performs.close (q := d.room.queue) mode).frame.2.2
    rw [hframe, ← hdone, TaskQueue.Event.closes, Bool.not_true, Bool.and_false]
  | _ => cases hevent

/-- A queue that was just closed is closed. -/
theorem Run.accepting_eq_false {events : List (Event α)} {mode : ShutdownMode}
    (h : Run d (events ++ [.close mode true]) d') : d'.room.queue.accepting = false := by
  obtain ⟨_, _, hlast⟩ := h.split
  cases hlast with
  | step hclose hstop =>
    cases hstop
    exact hclose.accepting_eq_false

/-- Nobody waits without need. As long as a producer waits that was not told, the queue is open, and
the tasks in it and the producers that were told and have not tried again would fill it. When the
queue was closed nobody waits any more: the producers that were at the door have tried again and
were turned away, or are going to be, as they were told or woke up by themselves. -/
theorem Run.nobody_waits_beside_room {name : String} {config : QueueConfig}
    {events : List (Event α)} (h : Run { room := { queue := { name, config } } } events d) :
    (d.room.waiting ≠ [] → d.room.queue.accepting = true ∧
        config.maxDepth.toNat ≤ d.room.queue.tasks.length + d.room.notified.length) ∧
      ∀ before mode after, events = before ++ .close mode true :: after →
        d.room.waiting = [] ∧
          (∀ p ∈ d.room.notified ++ d.stirring,
            (d.room.retry p).1 = .refused (.threadStopped name)) ∧
          (∀ p offer, .retry p offer ∈ after → offer = .refused (.threadStopped name)) ∧
          ∃ closed : Doorway α,
            Run { room := { queue := { name, config } } } (before ++ [.close mode true]) closed ∧
              Run closed after d ∧
              (after.flatMap Event.retried ++ (d.room.notified ++ d.stirring)).Perm
                (closed.room.notified ++ closed.stirring) := by
  have hsound := h.sound (sound_new name config)
  constructor
  · intro hwaiting
    obtain ⟨haccepting, hfull⟩ := hsound.crowded hwaiting
    obtain ⟨mark, horderly⟩ := hsound.orderly
    obtain ⟨_, hqueue⟩ := h.queue_run
    have hmax : d.room.queue.maxDepth = config.maxDepth.toNat :=
      congrArg (·.maxDepth.toNat) hqueue.frame.2.1
    rw [hmax, horderly.counted] at hfull
    exact ⟨haccepting, hfull⟩
  · rintro before mode after rfl
    rw [List.append_cons] at h
    obtain ⟨closed, hclosing, hafter⟩ := h.split
    have hclosed := hclosing.accepting_eq_false
    obtain ⟨_, hqueue⟩ := hclosing.queue_run
    obtain ⟨_, hqueue'⟩ := hafter.queue_run
    have hname : closed.room.queue.name = name := hqueue.frame.1
    have hname' : d.room.queue.name = name := hqueue'.frame.1.trans hname
    have hshut := hqueue'.shut hclosed
    have hclosedSound := hclosing.sound (sound_new name config)
    obtain ⟨hdoor, hoffers⟩ := hafter.after_close hclosedSound hclosed
    rw [hsound.atDoor_of_closed hshut, hclosedSound.atDoor_of_closed hclosed] at hdoor
    refine ⟨hsound.crowded.waiting_eq_nil hshut, fun p _ => ?_, hname ▸ hoffers, closed, hclosing,
      hafter, hdoor⟩
    rw [Room.retry_fst, TaskQueue.offer, hshut, hname']
    rfl

/-- The only place is taken again before the producer that was told of it can take it, so that this
one has to wait once more. When the queue is closed, both that wait are turned away. -/
theorem Run.nobody_waits_beside_room_of_overtaken :
    let config : QueueConfig := { maxDepth := 1 }
    let told : Producer Nat := ⟨2, ⟨.normal, 12⟩⟩
    let other : Producer Nat := ⟨4, ⟨.normal, 14⟩⟩
    let events : List (Event Nat) :=
      [.push ⟨1, ⟨.normal, 11⟩⟩ .accepted, .push told .full, .pop (.task ⟨.normal, 11⟩),
        .push ⟨3, ⟨.normal, 13⟩⟩ .accepted, .push other .full, .retry told .full]
    let later : List (Event Nat) :=
      [.stir other, .close .drain true, .retry other (.refused (.threadStopped "door"))]
    ∃ full last : Doorway Nat,
      Run { room := { queue := { name := "door", config } } } events full ∧
      full.room.waiting = [other, told] ∧ 1 ≤ full.room.queue.tasks.length ∧
      Run full later last ∧ last.room.waiting = [] ∧ last.room.notified = [told] ∧
      (last.room.retry told).1 = .refused (.threadStopped "door") := by
  intro config told other events later
  let door (entries : List (Entry Nat)) (nextTicket depth : Nat) (accepting : Bool)
      (waiting notified stirring : List (Producer Nat)) (peak : Nat) : Doorway Nat :=
    { room :=
        { queue := { name := "door", config, entries, nextTicket, depth, accepting }
          waiting, notified }
      stirring, peak }
  let one : Entry Nat := ⟨2, 0, some ⟨.normal, 11⟩⟩
  let three : Entry Nat := ⟨2, 1, some ⟨.normal, 13⟩⟩
  have hone : (door [] 0 0 true [] [] [] 0).Performs (.push ⟨1, ⟨.normal, 11⟩⟩ .accepted)
      (door [one] 1 1 true [] [] [] 1) := .push _ .block (by decide)
  have htwo : (door [one] 1 1 true [] [] [] 1).Performs (.push told .full)
      (door [one] 1 1 true [told] [] [] 1) := .push _ .block (by decide)
  have hpop : (door [one] 1 1 true [told] [] [] 1).Performs (.pop (.task ⟨.normal, 11⟩))
      (door [] 1 0 true [] [told] [] 1) := .pop
  have hthree : (door [] 1 0 true [] [told] [] 1).Performs (.push ⟨3, ⟨.normal, 13⟩⟩ .accepted)
      (door [three] 2 1 true [] [told] [] 1) := .push _ .block (by decide)
  have hfour : (door [three] 2 1 true [] [told] [] 1).Performs (.push other .full)
      (door [three] 2 1 true [other] [told] [] 1) := .push _ .block (by decide)
  have hagain : (door [three] 2 1 true [other] [told] [] 1).Performs (.retry told .full)
      (door [three] 2 1 true [other, told] [] [] 1) := .retry _ (by decide)
  have hstir : (door [three] 2 1 true [other, told] [] [] 1).Performs (.stir other)
      (door [three] 2 1 true [told] [] [other] 1) := .stir _ (by decide)
  have hclose : (door [three] 2 1 true [told] [] [other] 1).Performs (.close .drain true)
      (door [three, ⟨0, 2, none⟩] 3 1 false [] [told] [other] 2) := .close .drain
  have hlast : (door [three, ⟨0, 2, none⟩] 3 1 false [] [told] [other] 2).Performs
      (.retry other (.refused (.threadStopped "door")))
      (door [three, ⟨0, 2, none⟩] 3 1 false [] [told] [] 2) := .retry _ (by decide)
  have hfull : Run { room := { queue := { name := "door", config } } } events
      (door [three] 2 1 true [other, told] [] [] 1) :=
    .step hone <| .step htwo <| .step hpop <| .step hthree <| .step hfour <| .step hagain .stop
  have hlater : Run (door [three] 2 1 true [other, told] [] [] 1) later
      (door [three, ⟨0, 2, none⟩] 3 1 false [] [told] [] 2) :=
    .step hstir <| .step hclose <| .step hlast .stop
  have hall : Run { room := { queue := { name := "door", config } } }
      ((events ++ [.stir other]) ++ .close .drain true ::
        [.retry other (.refused (.threadStopped "door"))])
      (door [three, ⟨0, 2, none⟩] 3 1 false [] [told] [] 2) :=
    .step hone <| .step htwo <| .step hpop <| .step hthree <| .step hfour <| .step hagain <|
      .step hstir <| .step hclose <| .step hlast .stop
  obtain ⟨-, htasks⟩ := hfull.nobody_waits_beside_room.1 (by decide)
  obtain ⟨hnobody, hturned, -⟩ := hall.nobody_waits_beside_room.2 _ _ _ rfl
  exact ⟨_, _, hfull, rfl, htasks, hlater, hnobody, rfl, hturned told (by decide)⟩

end Doorway

end Courier
