import Courier.Proofs.Task.ExitMark
import Courier.Proofs.Task.Incidents

/-!
# A worker whose queue is closed

The mark that closing the queue sets up stands until the loop finds it and leaves. What the loop
does with the tasks that were accepted by then is decided when the queue is closed: it starts all of
them and drops none, or it drops those it has not started.
-/

namespace Courier.Worker

variable {α τ : Type} {w w' w₁ : Worker α τ} {now now' : Time} {i : Incident α τ}
  {incidents : List (Incident α τ)} {closed : Option ShutdownMode}

/-- The tasks that an incident starts. -/
def Incident.started : Incident α τ → List (Task α)
  | .look (.start t) => [t]
  | _ => []

/-- The tasks that an incident drops. -/
def Incident.dropped : Incident α τ → List (Task α)
  | .look (.leave tasks) => tasks
  | _ => []

/-- A loop that looks was waiting, and its time was not up. -/
theorem Performs.looks {move : Move α τ} (h : Performs now w (.look move) w') :
    ∃ deadline, w.phase = .waiting deadline false ∧ w.Looks deadline (move, w') := by
  generalize hi : Incident.look move = i at h
  cases h with
  | look hphase =>
    cases hi
    exact ⟨_, hphase, looks_step hphase⟩
  | _ => cases hi

/-! ## The mark of a worker -/

/-- A worker as its incidents leave it. The mark stands from the moment when the queue was closed
until the loop has left, and there is nothing in the queue after that. -/
structure Stands (w : Worker α τ) (closed : Option ShutdownMode) : Prop where
  accepting : w.room.queue.accepting = closed.isNone
  orderly : w.phase ≠ .exited → w.room.queue.Orderly closed
  emptied : w.phase = .exited → closed ≠ none ∧ w.room.queue.entries = []

/-- The queue of a new worker is open and has no mark. -/
theorem stands_new (name : String) (config : QueueConfig) :
    (new name config : Worker α τ).Stands none where
  accepting := rfl
  orderly _ := TaskQueue.orderly_new name config
  emptied h := by cases h

/-- The queue of a loop that has left is closed. -/
theorem Stands.shut (h : w.Stands closed) (hexited : w.phase = .exited) :
    w.room.queue.accepting = false := by
  rw [h.accepting]
  cases closed with
  | none => exact absurd rfl (h.emptied hexited).1
  | some mode => rfl

/-- Only a look at the queue makes a loop leave, and no loop comes back. -/
theorem Performs.exited_iff (h : Performs now w i w') (hlook : ∀ move, i ≠ .look move) :
    w'.phase = .exited ↔ w.phase = .exited := by
  cases h with
  | wake =>
    unfold Worker.wake
    split <;> simp_all
  | begin hphase | fire hphase | await hphase => simp [step, hphase]
  | finish panicked hphase => simp [hphase]
  | timeOut hphase hle =>
    simp only [step, hphase, if_neg (Nat.not_lt.mpr hle)]
    split <;> simp
  | look => exact absurd rfl (hlook _)
  | _ => rfl

/-- How the queue came to be closed. -/
def Incident.closing (closed : Option ShutdownMode) : Incident α τ → Option ShutdownMode
  | .close mode true => some mode
  | _ => closed

/-- Apart from looks, the mark of the queue follows from how it was closed. -/
theorem foldl_marks_deals (hlook : ∀ move, i ≠ .look move) :
    i.deals.foldl TaskQueue.Event.marks closed = i.closing closed := by
  cases i with
  | look move => exact absurd rfl (hlook move)
  | close mode done => cases done <;> rfl
  | _ => rfl

/-- A worker closes its queue exactly if somebody closes it. -/
theorem any_closes_deals (i : Incident α τ) :
    i.deals.any TaskQueue.Event.closes = true ↔ ∃ mode, i = .close mode true := by
  cases i with
  | look move => cases move <;> simp [Incident.deals, TaskQueue.Event.closes]
  | close mode done => simp [Incident.deals, TaskQueue.Event.closes]
  | _ => simp [Incident.deals, TaskQueue.Event.closes]

/-- If nobody closes its queue, a worker stays closed or open as it was. -/
theorem closing_eq (h : ∀ mode, i ≠ .close mode true) : i.closing closed = closed := by
  cases i with
  | close mode done =>
    cases done with
    | false => rfl
    | true => exact absurd rfl (h mode)
  | _ => rfl

/-- A queue takes tasks as long as nobody has closed it. -/
theorem Performs.accepting_eq (h : Performs now w i w')
    (hw : w.room.queue.accepting = closed.isNone) :
    w'.room.queue.accepting = (i.closing closed).isNone := by
  have hframe := h.deals_run.frame.2.2
  by_cases hclose : ∃ mode, i = .close mode true
  · rw [(any_closes_deals i).mpr hclose] at hframe
    obtain ⟨mode, rfl⟩ := hclose
    rw [hframe, Bool.not_true, Bool.and_false]
    rfl
  · rw [Bool.eq_false_iff.mpr (mt (any_closes_deals i).mp hclose)] at hframe
    rw [hframe, closing_eq (fun mode h => hclose ⟨mode, h⟩), hw, Bool.not_false, Bool.and_true]

/-- A look leaves the mark where it stands, or the loop leaves. -/
theorem Performs.stands_of_look {move : Move α τ} (h : Performs now w (.look move) w')
    (hw : w.Stands closed) : w'.Stands closed := by
  have haccepting : w'.room.queue.accepting = closed.isNone := h.accepting_eq hw.accepting
  obtain ⟨deadline, hphase, hlooks⟩ := h.looks
  have horderly := hw.orderly (by simp [hphase])
  have hpop := horderly.pop
  cases hlooks with
  | start heq =>
    rw [heq] at hpop
    exact ⟨haccepting, fun _ => hpop, by simp⟩
  | sleep heq =>
    rw [heq] at hpop
    exact ⟨haccepting, fun _ => hpop, by simp⟩
  | leave heq hroom =>
    refine ⟨haccepting, fun h => absurd rfl h, fun _ => ⟨?_, ?_⟩⟩
    · rintro (rfl : closed = none)
      exact horderly.pop_ne_exit (congrArg Prod.fst heq)
    · rw [hroom]
      rfl

/-- The mark stands where the incident leaves it. -/
theorem Performs.stands (h : Performs now w i w') (hw : w.Stands closed) :
    w'.Stands (i.closing closed) := by
  by_cases hlook : ∃ move, i = .look move
  · obtain ⟨move, rfl⟩ := hlook
    exact h.stands_of_look hw
  · have hnever : ∀ move, i ≠ .look move := fun move h => hlook ⟨move, h⟩
    have hexited := h.exited_iff hnever
    refine ⟨h.accepting_eq hw.accepting, ?_, ?_⟩
    · intro hphase
      have horderly := h.deals_run.orderly (hw.orderly (mt hexited.mpr hphase))
      rwa [foldl_marks_deals hnever] at horderly
    · intro hphase
      have hleft := hexited.mp hphase
      obtain ⟨hclosed, hempty⟩ := hw.emptied hleft
      refine ⟨?_, (h.deals_run.idle_of_empty (hw.shut hleft) hempty).1⟩
      unfold Incident.closing
      split <;> simp_all

/-- A loop that is to discard its tasks starts none of them. -/
theorem Performs.started_eq_nil (h : Performs now w i w') (hw : w.Stands (some .discard)) :
    i.started = [] := by
  cases i with
  | look move =>
    obtain ⟨deadline, hphase, hlooks⟩ := h.looks
    have hexit := (hw.orderly (by simp [hphase])).pop_eq_exit_iff.mpr (.inl rfl)
    cases hlooks with
    | start heq =>
      rw [heq] at hexit
      cases hexit
    | _ => rfl
  | _ => rfl

/-- A loop drops no task unless it is to discard them. -/
theorem Performs.dropped_eq_nil (h : Performs now w i w') (hw : w.Stands closed)
    (hclosed : closed ≠ some .discard) : i.dropped = [] := by
  cases i with
  | look move =>
    obtain ⟨deadline, hphase, hlooks⟩ := h.looks
    have horderly := hw.orderly (by simp [hphase])
    cases hlooks with
    | @leave queue room heq _ =>
      have hexit : w.room.queue.pop.1 = .exit := congrArg Prod.fst heq
      have htasks := horderly.tasks_of_exit hexit
      rw [heq] at htasks
      change queue.tasks = []
      rw [htasks]
      cases closed with
      | none => exact absurd hexit horderly.pop_ne_exit
      | some mode =>
        have hdrain := horderly.pop_eq_exit_iff.mp hexit
        exact hdrain.resolve_left (fun h => hclosed (congrArg some h))
    | _ => rfl
  | _ => rfl

/-- A loop whose queue was closed does not fall asleep any more. -/
theorem Performs.ne_sleep {mode : ShutdownMode} (h : Performs now w i w')
    (hw : w.Stands (some mode)) : i ≠ .look .proceed := by
  rintro rfl
  obtain ⟨deadline, hphase, hlooks⟩ := h.looks
  have hfound := (hw.orderly (by simp [hphase])).pop_ne_idle
  cases hlooks with
  | sleep heq => exact hfound (congrArg Prod.fst heq)

/-- As long as the queue is open nothing is dropped. -/
theorem Run.before_close (h : Run now w incidents now' w') (hw : w.Stands none)
    (hopen : w'.room.queue.accepting = true) :
    w'.Stands none ∧ incidents.flatMap Incident.dropped = [] := by
  induction h with
  | stop => exact ⟨hw, rfl⟩
  | @step _ _ _ w w₁ w' i incidents _ hperforms hrun ih =>
    have hopen₁ : w₁.room.queue.accepting = true := by
      have hframe := hrun.deals_run.frame.2.2
      rw [hopen] at hframe
      exact (Bool.and_eq_true_iff.mp hframe.symm).1
    have hnone : i.closing none = none := by
      have haccepting := hperforms.accepting_eq hw.accepting
      rw [hopen₁] at haccepting
      exact Option.isNone_iff_eq_none.mp haccepting.symm
    have hw₁ := hperforms.stands hw
    rw [hnone] at hw₁
    obtain ⟨hw', hdropped⟩ := ih hw₁ hopen
    refine ⟨hw', ?_⟩
    rw [List.flatMap_cons, hperforms.dropped_eq_nil hw (by simp), hdropped]
    rfl

/-- From the moment when the queue was closed the loop is on its way out, and the way it takes was
decided then. -/
theorem Run.after_close {mode : ShutdownMode} (h : Run now w incidents now' w')
    (hw : w.Stands (some mode)) :
    w'.Stands (some mode) ∧ .look .proceed ∉ incidents ∧
      (mode = .drain → incidents.flatMap Incident.dropped = []) ∧
      (mode = .discard → incidents.flatMap Incident.started = []) := by
  induction h with
  | stop => exact ⟨hw, by simp, fun _ => rfl, fun _ => rfl⟩
  | @step _ _ _ w w₁ w' i incidents _ hperforms _ ih =>
    have hsame : i.closing (some mode) = some mode := by
      refine closing_eq fun mode' hi => ?_
      subst hi
      have hrefused := (hperforms.deals_run.refused hw.accepting).2 mode' true
      exact Bool.noConfusion (hrefused List.mem_cons_self)
    have hw₁ := hperforms.stands hw
    rw [hsame] at hw₁
    obtain ⟨hw', hawake, hdrain, hdiscard⟩ := ih hw₁
    refine ⟨hw', ?_, ?_, ?_⟩
    · intro hmem
      rcases List.mem_cons.mp hmem with heq | hmem
      · exact hperforms.ne_sleep hw heq.symm
      · exact hawake hmem
    · rintro rfl
      rw [List.flatMap_cons, hperforms.dropped_eq_nil hw (by simp), hdrain rfl]
      rfl
    · rintro rfl
      rw [List.flatMap_cons, hperforms.started_eq_nil hw, hdiscard rfl]
      rfl

/-- A run falls into what was before the queue was closed, and what came after it. -/
theorem Run.split_close {name : String} {config : QueueConfig} {mode : ShutdownMode}
    {before after : List (Incident α τ)}
    (h : Run now (new name config) (before ++ .close mode true :: after) now' w') :
    before.flatMap Incident.dropped = [] ∧
      ∃ now₁ w₁, Run now₁ w₁ after now' w' ∧ w₁.Stands (some mode) ∧ w₁.name = name := by
  obtain ⟨_, w₀, hbefore, hrest⟩ := h.split
  cases hrest with
  | @step _ now₁ _ _ w₁ _ _ _ _ hclose hafter =>
    have hopen : w₀.room.queue.accepting = true := by
      refine Bool.of_not_eq_false fun hshut => ?_
      have hrefused := hclose.deals_run.refused hshut
      exact Bool.noConfusion (hrefused.2 mode true List.mem_cons_self)
    obtain ⟨hw₀, hdropped⟩ := hbefore.before_close (stands_new name config) hopen
    have hname := hclose.deals_run.frame.1.trans hbefore.deals_run.frame.1
    exact ⟨hdropped, now₁, w₁, hafter, hclose.stands hw₀, hname⟩

/-- There is a mark, or none, throughout a run. -/
theorem Run.stands (h : Run now w incidents now' w') (hw : w.Stands closed) :
    ∃ closed', w'.Stands closed' := by
  induction h generalizing closed with
  | stop => exact ⟨closed, hw⟩
  | step _ hperforms _ ih => exact ih (hperforms.stands hw)

/-- A loop has left only if the queue was closed, and has taken everything out of it. -/
theorem Run.of_exited {name : String} {config : QueueConfig}
    (h : Run now (new name config) incidents now' w') (hexited : w'.phase = .exited) :
    w'.room.queue.entries = [] ∧ ∃ mode, .close mode true ∈ incidents := by
  obtain ⟨closed, hw⟩ := h.stands (stands_new name config)
  have hempty := (hw.emptied hexited).2
  have hany : (incidents.flatMap Incident.deals).any TaskQueue.Event.closes = true := by
    have hframe : w'.room.queue.accepting =
        (true && !(incidents.flatMap Incident.deals).any TaskQueue.Event.closes) :=
      h.deals_run.frame.2.2
    rw [hw.shut hexited] at hframe
    simpa using hframe
  rw [List.any_flatMap, List.any_eq_true] at hany
  obtain ⟨i, hi, hcloses⟩ := hany
  obtain ⟨mode, rfl⟩ := (any_closes_deals i).mp hcloses
  exact ⟨hempty, mode, hi⟩

end Courier.Worker
