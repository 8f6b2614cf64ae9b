import Courier.Proofs.Task.Closing

/-!
# The tasks that a worker has

A worker has the tasks in its queue and those of the producers at the door. A task that is brought
becomes one of them unless it is refused, and stays one until it is started, dropped, or refused
when its producer tries again. None is lost and none is there twice, which rests on the tickets of
the queue and the numbers of the producers being different.
-/

namespace Courier

/-- Whether a task is taken in, at least at the door. -/
def Offer.admits : Offer → Bool
  | .refused _ => false
  | .accepted | .full => true

/-- The task that a consumer finds, if it finds one. -/
def Found.taken {α : Type} : Found α → List (Task α)
  | .task t => [t]
  | .exit | .idle => []

namespace TaskQueue

variable {α : Type} {q : TaskQueue α} {mark : Option ShutdownMode}

/-- A task that is accepted comes to the others. -/
theorem tasks_offer (q : TaskQueue α) (t : Task α) (policy : FullPolicy) :
    (q.offer t policy).2.tasks =
      q.tasks ++ if (q.offer t policy).1 = .accepted then [t] else [] := by
  have hoffers := offers_offer q t policy
  generalize q.offer t policy = result at hoffers
  cases hoffers with
  | accepted =>
    have hinsert : (q.insert t.priority.rank (some t)).tasks = q.tasks ++ [t] :=
      List.filterMap_append
    exact hinsert
  | _ => simp

/-- The exit sentinel is no task. -/
theorem tasks_close (q : TaskQueue α) (mode : ShutdownMode) :
    (q.close mode).2.tasks = q.tasks := by
  unfold TaskQueue.close
  split
  · have hinsert : (q.insert (exitRank mode) none).tasks = q.tasks ++ [] := List.filterMap_append
    exact hinsert.trans (List.append_nil _)
  · rfl

/-- What is found is taken away, and nothing else. -/
theorem Orderly.tasks_pop (h : q.Orderly mark) :
    (q.pop.1.taken ++ q.pop.2.tasks).Perm q.tasks := by
  have htakes := takes_pop h.ascending
  generalize q.pop = result at htakes
  cases htakes with
  | idle => exact .refl _
  | task hsplit _ htask =>
    simp only [tasks, hsplit, List.filterMap_append, List.filterMap_cons, htask, Found.taken,
      List.singleton_append]
    exact List.perm_middle.symm
  | exit hsplit _ htask =>
    simp only [tasks, hsplit, List.filterMap_append, List.filterMap_cons, htask]
    exact .refl _

/-- A task is refused because the queue is closed or has no room. -/
theorem Performs.refused_eq {q' : TaskQueue α} {t : Task α} {error : TaskError}
    (h : q.Performs (.push t (.refused error)) q') :
    error = .threadStopped q.name ∨ error = .queueFull q.name q.maxDepth := by
  generalize hevent : Event.push t (.refused error) = event at h
  cases h with
  | push t policy =>
    have hoffers := offers_offer q t policy
    generalize q.offer t policy = result at hevent hoffers
    cases hoffers with
    | closed =>
      cases hevent
      exact .inl rfl
    | refused =>
      cases hevent
      exact .inr rfl
    | _ => cases hevent
  | _ => cases hevent

end TaskQueue

/-- Where the numbers are different, one producer can be picked out. -/
theorem perm_cons_filter_number {α : Type} {producers : List (Producer α)} {p : Producer α}
    (hdistinct : (producers.map (·.number)).Nodup) (hp : p ∈ producers) :
    producers.Perm (p :: producers.filter (·.number ≠ p.number)) := by
  obtain ⟨front, back, rfl⟩ := List.append_of_mem hp
  rw [List.map_append, List.map_cons, List.nodup_append, List.nodup_cons] at hdistinct
  obtain ⟨-, ⟨hback, -⟩, hfront⟩ := hdistinct
  have hkept : (front ++ p :: back).filter (·.number ≠ p.number) = front ++ back := by
    rw [List.filter_append, List.filter_cons_of_neg (by simp)]
    congr 1
    · refine List.filter_eq_self.mpr fun other hother => decide_eq_true ?_
      exact hfront other.number (List.mem_map_of_mem hother) p.number List.mem_cons_self
    · refine List.filter_eq_self.mpr fun other hother => decide_eq_true fun heq => ?_
      exact hback (heq ▸ List.mem_map_of_mem hother)
  rw [hkept]
  exact List.perm_middle

namespace Room

variable {α : Type} {r : Room α} {p : Producer α}

/-- The producers at the door, told or not. -/
def atDoor (r : Room α) : List (Producer α) := r.waiting ++ r.notified

/-- The tasks in the queue and those at the door. -/
def held (r : Room α) : List (Task α) := r.queue.tasks ++ r.atDoor.map (·.task)

/-- No two producers at the door go by one number. -/
def Distinct (r : Room α) : Prop := (r.atDoor.map (·.number)).Nodup

/-- Nobody comes or goes when producers are told. -/
theorem atDoor_notifyOne (r : Room α) : r.notifyOne.atDoor.Perm r.atDoor := by
  unfold notifyOne
  split
  · exact .refl _
  · next p rest hwaiting =>
    rw [atDoor, atDoor, hwaiting, ← List.append_assoc]
    exact List.perm_append_singleton _ _

/-- Nobody comes or goes when all of the producers are told. -/
theorem atDoor_notifyAll (r : Room α) : r.notifyAll.atDoor.Perm r.atDoor := by
  change (r.notified ++ r.waiting).Perm (r.waiting ++ r.notified)
  exact List.perm_append_comm

/-- A newcomer that has to wait comes to those at the door. -/
theorem atDoor_push (r : Room α) (number : Nat) (t : Task α) (policy : FullPolicy) :
    (r.push number t policy).2.atDoor.Perm
      ((if (r.push number t policy).1 = .full then [⟨number, t⟩] else []) ++ r.atDoor) := by
  unfold push
  split
  · next queue heq =>
    rw [if_pos rfl]
    simp only [atDoor, List.append_assoc]
    exact List.perm_middle
  · next offer queue hfull heq =>
    rw [if_neg hfull]
    exact .refl _

/-- What is pushed is held, unless it is refused. -/
theorem held_push (r : Room α) (number : Nat) (t : Task α) (policy : FullPolicy) :
    (r.push number t policy).2.held.Perm
      ((if (r.push number t policy).1.admits then [t] else []) ++ r.held) := by
  have hdoor := (atDoor_push r number t policy).map (·.task)
  rw [held, held, push_queue, TaskQueue.tasks_offer]
  rw [push_fst] at hdoor ⊢
  cases hoffer : (r.queue.offer t policy).1 with
  | accepted =>
    simp only [hoffer, reduceCtorEq, if_false, List.nil_append] at hdoor
    simp only [Offer.admits, if_true, List.append_assoc, List.singleton_append]
    exact ((hdoor.cons t).append_left _).trans List.perm_middle
  | refused error =>
    simp only [hoffer, reduceCtorEq, if_false, List.nil_append] at hdoor
    simp only [Offer.admits, Bool.false_eq_true, reduceCtorEq, if_false, List.append_nil,
      List.nil_append]
    exact hdoor.append_left _
  | full =>
    simp only [hoffer, if_true, List.singleton_append, List.map_cons] at hdoor
    simp only [Offer.admits, if_true, reduceCtorEq, if_false, List.append_nil,
      List.singleton_append]
    exact (hdoor.append_left _).trans List.perm_middle

/-- What is held does not depend on who is told, nor on the order of the entries. -/
theorem held_of_perm {r' : Room α} (hqueue : r'.queue.tasks.Perm r.queue.tasks)
    (hdoor : r'.atDoor.Perm r.atDoor) : r'.held.Perm r.held :=
  hqueue.append (hdoor.map _)

/-- Telling producers that they may try again gives them no other numbers. -/
theorem Distinct.of_perm {r' : Room α} (h : r.Distinct) (hdoor : r'.atDoor.Perm r.atDoor) :
    r'.Distinct :=
  (hdoor.map _).nodup_iff.mpr h

/-- A producer that tries again leaves the others that were told. -/
theorem Distinct.perm_cons (h : r.Distinct) (hp : p ∈ r.notified) :
    r.atDoor.Perm
      (p :: { r with notified := r.notified.filter (·.number ≠ p.number) }.atDoor) := by
  rw [Distinct, atDoor, List.map_append] at h
  have hnotified := (List.nodup_append.mp h).2.1
  exact ((perm_cons_filter_number hnotified hp).append_left _).trans List.perm_middle

/-- Trying again, a producer keeps its task among those that are held, unless it is refused. -/
theorem held_retry (h : r.Distinct) (hp : p ∈ r.notified) :
    ((if (r.retry p).1.admits then [] else [p.task]) ++ (r.retry p).2.held).Perm r.held := by
  have hdoor := (h.perm_cons hp).map (·.task)
  have hpush := held_push { r with notified := r.notified.filter (·.number ≠ p.number) } p.number
    p.task .block
  have hbefore : (p.task :: { r with
      notified := r.notified.filter (·.number ≠ p.number) }.held).Perm r.held :=
    List.perm_middle.symm.trans (hdoor.symm.append_left _)
  refine (List.Perm.append_left _ hpush).trans (List.Perm.trans ?_ hbefore)
  change ((if (r.retry p).1.admits then [] else [p.task]) ++
    ((if (r.retry p).1.admits then [p.task] else []) ++ _)).Perm _
  split <;> exact .refl _

/-- A newcomer under a number of its own leaves the producers different. -/
theorem Distinct.push (h : r.Distinct) {number : Nat} (hfresh : ∀ p ∈ r.atDoor, p.number ≠ number)
    (t : Task α) (policy : FullPolicy) : (r.push number t policy).2.Distinct := by
  have hdoor := (atDoor_push r number t policy).map (·.number)
  refine hdoor.nodup_iff.mpr ?_
  split
  · refine List.nodup_cons.mpr ⟨fun hmem => ?_, h⟩
    obtain ⟨p, hp, heq⟩ := List.mem_map.mp hmem
    exact hfresh p hp heq
  · exact h

/-- A producer that tries again comes back under the number that it left, and stays different. -/
theorem Distinct.retry (h : r.Distinct) (hp : p ∈ r.notified) : (r.retry p).2.Distinct := by
  have hnumbers := (h.perm_cons hp).map (·.number)
  rw [Distinct, hnumbers.nodup_iff, List.map_cons, List.nodup_cons] at h
  refine Distinct.push h.2 (fun other hother heq => h.1 ?_) p.task .block
  exact List.mem_map.mpr ⟨other, hother, heq⟩

/-- Whoever is at the door of a queue that is closed stays there until he has tried again. -/
theorem atDoor_close (r : Room α) (mode : ShutdownMode) :
    (r.close mode).2.atDoor.Perm r.atDoor := by
  unfold close
  split
  · exact atDoor_notifyAll _
  · exact .refl _

/-- To close a queue is to lose nothing. -/
theorem held_close (r : Room α) (mode : ShutdownMode) : (r.close mode).2.held.Perm r.held := by
  refine held_of_perm (.of_eq ?_) (atDoor_close r mode)
  rw [close_queue, TaskQueue.tasks_close]

/-- A pop may tell a producer, and sends none away. -/
theorem atDoor_pop (r : Room α) : r.pop.2.atDoor.Perm r.atDoor := by
  unfold pop
  split
  · exact atDoor_notifyOne _
  · exact .refl _

/-- What is found is held no longer. -/
theorem held_pop {mark : Option ShutdownMode} (h : r.queue.Orderly mark) :
    (r.pop.1.taken ++ r.pop.2.held).Perm r.held := by
  have hqueue : (r.pop.1.taken ++ r.pop.2.queue.tasks).Perm r.queue.tasks := by
    have htasks := h.tasks_pop
    unfold pop
    split <;> next heq => simpa [heq] using htasks
  rw [held, ← List.append_assoc]
  exact hqueue.append ((atDoor_pop r).map _)

/-- Clearing a queue tells the producers, and sends none away. -/
theorem atDoor_clear (r : Room α) : r.clear.2.atDoor.Perm r.atDoor := atDoor_notifyAll _

/-- What is held before a queue is cleared is dropped or still held. -/
theorem held_clear (r : Room α) : (r.clear.1 ++ r.clear.2.held).Perm r.held :=
  ((atDoor_clear r).map (·.task)).append_left _

end Room

namespace Worker

variable {α τ : Type} {w w' : Worker α τ} {now : Time} {i : Incident α τ}
  {closed : Option ShutdownMode}

/-- The tasks that an incident is about. -/
def Incident.tasks : Incident α τ → List (Task α)
  | .post t _ | .retry t _ | .postOwn t _ | .look (.start t) => [t]
  | .look (.leave dropped) => dropped
  | _ => []

/-- The tasks that a worker has after an incident and did not have before. -/
def Incident.brought : Incident α τ → List (Task α)
  | .post t offer | .postOwn t offer => if offer.admits then [t] else []
  | _ => []

/-- The tasks that a worker has no longer after an incident. -/
def Incident.parted : Incident α τ → List (Task α)
  | .retry t offer => if offer.admits then [] else [t]
  | .look (.start t) => [t]
  | .look (.leave dropped) => dropped
  | _ => []

/-- A task that is brought by an incident is one that the incident is about. -/
theorem Incident.brought_subset (i : Incident α τ) : i.brought ⊆ i.tasks := by
  cases i with
  | post t offer | postOwn t offer => cases offer <;> simp [brought, tasks, Offer.admits]
  | _ => simp [brought]

/-- A task that is gone after an incident is one that the incident is about. -/
theorem Incident.parted_subset (i : Incident α τ) : i.parted ⊆ i.tasks := by
  cases i with
  | retry t offer => cases offer <;> simp [parted, tasks, Offer.admits]
  | look move => cases move <;> simp [parted, tasks]
  | _ => simp [parted]

/-- A task that is started by an incident is one that the incident is about. -/
theorem Incident.started_subset (i : Incident α τ) : i.started ⊆ i.tasks := by
  cases i with
  | look move => cases move <;> simp [started, tasks]
  | _ => simp [started]

/-- A producer that tries again was at the door. -/
theorem Performs.mem_held_of_retry {t : Task α} {offer : Offer}
    (h : Performs now w (.retry t offer) w') : t ∈ w.room.held := by
  generalize hi : Incident.retry t offer = i at h
  cases h with
  | retry p hp =>
    cases hi
    exact List.mem_append_right _ (List.mem_map_of_mem (List.mem_append_right _ hp))
  | _ => cases hi

/-- A loop looks at its queue only when it waits and is awake. -/
theorem Performs.take_eq {move : Move α τ} (h : Performs now w (.look move) w') :
    ∃ deadline, w.phase = .waiting deadline false ∧ w.take deadline = (move, w') := by
  generalize hi : Incident.look move = i at h
  cases h with
  | look hphase =>
    cases hi
    exact ⟨_, hphase, by simp [step, hphase]⟩
  | _ => cases hi

/-- An incident that does nothing to the queue leaves the whole room alone. -/
theorem Performs.room_eq (h : Performs now w i w') (hdeals : i.deals = []) : w'.room = w.room := by
  cases h with
  | post | retry | postOwn | close => cases hdeals
  | register | cancel => rfl
  | wake => exact wake_room w
  | begin hphase | fire hphase | await hphase => simp [step, hphase]
  | finish => simp
  | timeOut hphase hle =>
    simp only [step, hphase, if_neg (Nat.not_lt.mpr hle)]
    split <;> rfl
  | look =>
    generalize (w.step now).1 = move at hdeals
    cases move <;> cases hdeals

/-- A look at the queue sends no producer away. -/
theorem Performs.atDoor_of_look {move : Move α τ} (h : Performs now w (.look move) w') :
    w'.room.atDoor.Perm w.room.atDoor := by
  obtain ⟨deadline, -, htake⟩ := h.take_eq
  have hpop := w.room.atDoor_pop
  unfold take at htake
  generalize w.room.pop = found at hpop htake
  obtain ⟨_ | _ | _, room⟩ := found <;> cases htake
  · exact hpop
  · exact (Room.atDoor_clear room).trans hpop
  · exact hpop

/-- What a look at the queue takes is held no longer, and it takes nothing else. -/
theorem Performs.held_of_look {move : Move α τ} (h : Performs now w (.look move) w')
    (hw : w.Stands closed) :
    ((Incident.look move).parted ++ w'.room.held).Perm w.room.held := by
  obtain ⟨deadline, hphase, htake⟩ := h.take_eq
  have hpop := Room.held_pop (hw.orderly (by simp [hphase]))
  unfold take at htake
  generalize w.room.pop = found at hpop htake
  obtain ⟨_ | _ | _, room⟩ := found <;> cases htake
  · exact hpop
  · exact (Room.held_clear room).trans hpop
  · exact hpop

/-- What a worker had or gets it has afterwards, but for what it starts or loses. -/
theorem Performs.held_perm (h : Performs now w i w') (hw : w.Stands closed)
    (hdistinct : w.room.Distinct) : (i.parted ++ w'.room.held).Perm (i.brought ++ w.room.held) := by
  by_cases hlook : ∃ move, i = .look move
  · obtain ⟨move, rfl⟩ := hlook
    exact h.held_of_look hw
  have hroom := h.room_eq
  cases h with
  | post number t => exact Room.held_push ..
  | postOwn t => exact Room.held_push ..
  | retry p hp => exact Room.held_retry hdistinct hp
  | close mode => exact Room.held_close _ mode
  | look => exact absurd ⟨_, rfl⟩ hlook
  | _ => exact .of_eq (congrArg Room.held (hroom rfl))

/-- The producers at the door are always different ones. -/
theorem Performs.distinct (h : Performs now w i w') (hdistinct : w.room.Distinct) :
    w'.room.Distinct := by
  by_cases hlook : ∃ move, i = .look move
  · obtain ⟨move, rfl⟩ := hlook
    exact hdistinct.of_perm h.atDoor_of_look
  have hroom := h.room_eq
  cases h with
  | post number t hfresh => exact hdistinct.push hfresh t _
  | postOwn t =>
    unfold Worker.postOwn
    rw [Room.push_fail]
    exact hdistinct
  | retry p hp => exact hdistinct.retry hp
  | close mode => exact hdistinct.of_perm (Room.atDoor_close _ mode)
  | look => exact absurd ⟨_, rfl⟩ hlook
  | _ => exact (hroom rfl) ▸ hdistinct

/-- Throughout a run the producers at the door are different ones. -/
theorem Run.distinct {incidents : List (Incident α τ)} {now' : Time}
    (h : Run now w incidents now' w') (hdistinct : w.room.Distinct) : w'.room.Distinct := by
  induction h with
  | stop => exact hdistinct
  | step _ hperforms _ ih => exact ih (hperforms.distinct hdistinct)

/-- What happens to a worker could as well have been waited for from an earlier time on. -/
theorem Run.of_le {incidents : List (Incident α τ)} {began now' : Time}
    (h : Run now w incidents now' w') (hle : began ≤ now) :
    ∃ last, last ≤ now' ∧ Run began w incidents last w' := by
  cases h with
  | stop => exact ⟨began, hle, .stop⟩
  | step hle' hperforms hrun =>
    exact ⟨now', Nat.le_refl now', .step (Nat.le_trans hle hle') hperforms hrun⟩

end Worker

end Courier
