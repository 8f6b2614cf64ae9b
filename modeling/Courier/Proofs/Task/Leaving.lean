import Courier.Proofs.Task.Closing
import Mathlib.Tactic.Choose

/-!
# The way out

Once its queue is closed a loop cannot go on for ever. Each of its own steps brings it nearer to the
mark: a look at the queue takes a task and no further one is accepted, and between two looks it
calls only the timers that were due when the pass began. What others do meanwhile does not bring it
farther off.
-/

namespace Courier.Worker

variable {α τ : Type} {w w' : Worker α τ} {now : Time} {i : Incident α τ} {mode : ShutdownMode}

/-- What happens to a worker if it goes on for ever. -/
structure Course (α τ : Type) where
  worker : Nat → Worker α τ
  /-- When a worker came to be what it is. -/
  clock : Nat → Time
  incident : Nat → Incident α τ
  onward (n : Nat) : clock n ≤ clock (n + 1)
  performs (n : Nat) : Performs (clock (n + 1)) (worker n) (incident n) (worker (n + 1))

/-- Whether an incident is a step of the loop. -/
def Incident.own : Incident α τ → Bool
  | .begin | .fire _ | .await _ | .look _ | .timeOut | .finish _ => true
  | _ => false

/-- The loop is not kept from its next step for ever. -/
def Course.Fair (course : Course α τ) : Prop :=
  ∀ n, ∃ m, n ≤ m ∧ ((course.incident m).own = true ∨ (course.worker m).phase = .exited)

/-! ## Nearer to the mark -/

/-- The phases in the order in which a loop of a closed worker passes through them. -/
def stage (w : Worker α τ) : Nat :=
  match w.phase with
  | .running _ => 5
  | .passing => 4
  | .firing _ _ => 3
  | .waiting _ true => 2
  | .waiting _ false => 1
  | .exited => 0

/-- The number of timers that are still to be called in a pass. -/
def calls (w : Worker α τ) : Nat :=
  match w.phase with
  | .firing _ due => due.length
  | _ => 0

/-- What lies between a loop and the mark: the tasks with the phases that belong to each, and the
calls of a pass. Nobody knows how many timers the next pass will call, so the calls come second. -/
def remaining (w : Worker α τ) : Nat × Nat :=
  (6 * w.room.queue.depth + w.stage, w.calls)

/-- How much remains is told by the queue and the phase alone. -/
theorem remaining_eq (hdepth : w'.room.queue.depth = w.room.queue.depth)
    (hphase : w'.phase = w.phase) : w'.remaining = w.remaining := by
  simp only [remaining, stage, calls, hdepth, hphase]

/-- One worker is nearer to the mark than another. -/
def Nearer : Worker α τ → Worker α τ → Prop :=
  InvImage (Prod.Lex (· < ·) (· < ·)) remaining

/-- No loop can come nearer for ever. -/
theorem nearer_wf : WellFounded (Nearer : Worker α τ → Worker α τ → Prop) :=
  InvImage.wf _ (Prod.lex Nat.lt_wfRel Nat.lt_wfRel).wf

/-- With fewer tasks, or in a later phase, a loop is nearer whatever the next pass will call. -/
theorem nearer_of_lt (h : w'.remaining.1 < w.remaining.1) : w'.Nearer w := .left _ _ h

/-- With the same tasks, a later phase is nearer. -/
theorem nearer_of_stage_lt (hdepth : w'.room.queue.depth = w.room.queue.depth)
    (hstage : w'.stage < w.stage) : w'.Nearer w :=
  nearer_of_lt (by simpa only [remaining, hdepth, Nat.add_lt_add_iff_left] using hstage)

/-- To be woken takes a loop nearer, or does nothing. -/
theorem wake_nearer_or_eq (w : Worker α τ) : w.wake.Nearer w ∨ w.wake = w := by
  unfold wake
  cases hphase : w.phase with
  | waiting deadline asleep =>
    cases asleep with
    | true => exact .inl (nearer_of_stage_lt rfl (by simp [stage, hphase]))
    | false => exact .inr (by simp [← hphase])
  | _ => exact .inr rfl

/-- In a closed queue only a look changes the number of tasks. -/
theorem Performs.depth_eq (h : Performs now w i w') (hw : w.Stands (some mode))
    (hphase : w.phase ≠ .exited) (hlook : ∀ move, i ≠ .look move) :
    w'.room.queue.depth = w.room.queue.depth := by
  have hkeeps : i.deals.countP TaskQueue.Event.pops = 0 ∧ (∀ tasks, .clear tasks ∉ i.deals) ∧
      .pop .exit ∉ i.deals := by
    cases i with
    | look move => exact absurd rfl (hlook move)
    | _ => simp [Incident.deals, TaskQueue.Event.pops]
  obtain ⟨hpops, hclear, hexit⟩ := hkeeps
  have hcount := h.deals_run.countP_pops (hw.orderly hphase) hw.accepting hclear hexit
  omega

/-- A look at a closed queue takes a task out of it, if the loop does not leave. -/
theorem Performs.nearer_of_look {move : Move α τ} (h : Performs now w (.look move) w')
    (hw : w.Stands (some mode)) (hleft : w'.phase ≠ .exited) : w'.Nearer w := by
  obtain ⟨deadline, hphase, hlooks⟩ := h.looks
  have horderly := hw.orderly (by simp [hphase])
  have hrun := h.deals_run
  cases hlooks with
  | start heq =>
    have hcount := hrun.countP_pops horderly hw.accepting (by simp [Incident.deals])
      (by simp [Incident.deals])
    simp only [Incident.deals, List.countP_singleton, TaskQueue.Event.pops, if_true] at hcount
    refine nearer_of_lt ?_
    simp only [remaining, stage, hphase]
    omega
  | leave => exact absurd rfl hleft
  | sleep heq => exact absurd (congrArg Prod.fst heq) horderly.pop_ne_idle

/-- Each step of the loop of a closed worker brings it nearer to the mark, and nothing else brings
it farther off. -/
theorem Performs.nearer (h : Performs now w i w') (hw : w.Stands (some mode))
    (hphase : w.phase ≠ .exited) (hleft : w'.phase ≠ .exited) :
    w'.Nearer w ∨ i.own = false ∧ w'.remaining = w.remaining := by
  by_cases hlook : ∃ move, i = .look move
  · obtain ⟨move, rfl⟩ := hlook
    exact .inl (h.nearer_of_look hw hleft)
  have hdepth := h.depth_eq hw hphase (fun move hi => hlook ⟨move, hi⟩)
  have hfound := (hw.orderly hphase).exists_mark
  cases h with
  | post | retry | postOwn | close | register | cancel =>
    exact .inr ⟨rfl, remaining_eq hdepth rfl⟩
  | wake =>
    rcases wake_nearer_or_eq w with hnearer | heq
    · exact .inl hnearer
    · exact .inr ⟨rfl, by rw [heq]⟩
  | begin hpassing =>
    exact .inl (nearer_of_stage_lt hdepth (by simp [stage, step, hpassing]))
  | await hfiring =>
    exact .inl (nearer_of_stage_lt hdepth (by simp [stage, step, hfiring]))
  | finish panicked hrunning =>
    exact .inl (nearer_of_stage_lt hdepth (by simp [stage, hrunning]))
  | fire hfiring =>
    left
    simp [Nearer, InvImage, Prod.lex_def, remaining, stage, calls, step, hfiring]
  | timeOut hwaiting hle =>
    -- The mark is among the entries, so the loop looks again and does not begin a pass.
    have hentries : w.room.queue.entries.isEmpty = false := by
      obtain ⟨mark, hmark, -⟩ := hfound
      simpa using List.ne_nil_of_mem hmark
    refine .inl (nearer_of_stage_lt hdepth ?_)
    simp [stage, step, hwaiting, Nat.not_lt.mpr hle, hentries]
  | look => exact absurd ⟨_, rfl⟩ hlook

/-! ## The loop leaves -/

/-- A loop that has not left can always take a step, if only after a while. -/
theorem exists_performs_own (w : Worker α τ) (now : Time) :
    ∃ now' i w', now ≤ now' ∧ Performs now' w i w' ∧ (i.own = true ∨ w.phase = .exited) := by
  cases hphase : w.phase with
  | passing => exact ⟨now, _, _, Nat.le_refl now, .begin hphase, .inl rfl⟩
  | firing began due =>
    cases due with
    | nil => exact ⟨now, _, _, Nat.le_refl now, .await hphase, .inl rfl⟩
    | cons timer due => exact ⟨now, _, _, Nat.le_refl now, .fire hphase, .inl rfl⟩
  | waiting deadline asleep =>
    cases asleep with
    | false => exact ⟨now, _, _, Nat.le_refl now, .look hphase, .inl rfl⟩
    | true =>
      exact ⟨max now deadline, _, _, Nat.le_max_left .., .timeOut hphase (Nat.le_max_right ..),
        .inl rfl⟩
  | running task => exact ⟨now, _, _, Nat.le_refl now, .finish false hphase, .inl rfl⟩
  | exited => exact ⟨now, _, _, Nat.le_refl now, .wake, .inr rfl⟩

namespace Course

variable {course : Course α τ}

/-- Every worker can go on so that its loop takes its steps. -/
theorem exists_fair (w : Worker α τ) (now : Time) :
    ∃ course : Course α τ, course.clock 0 = now ∧ course.worker 0 = w ∧ course.Fair := by
  choose clock incident worker hle hperforms hown using
    fun state : Time × Worker α τ => exists_performs_own state.2 state.1
  let state (n : Nat) : Time × Worker α τ :=
    n.rec (now, w) fun _ state => (clock state, worker state)
  refine ⟨⟨fun n => (state n).2, fun n => (state n).1, fun n => incident (state n),
    fun n => hle (state n), fun n => hperforms (state n)⟩, rfl, rfl, ?_⟩
  exact fun n => ⟨n, Nat.le_refl n, hown (state n)⟩

/-- What has happened up to any moment is a run. -/
theorem run (course : Course α τ) (n : Nat) :
    Run (course.clock 0) (course.worker 0) ((List.range n).map course.incident) (course.clock n)
      (course.worker n) := by
  induction n with
  | zero => exact .stop
  | succ n ih =>
    rw [List.range_succ, List.map_append]
    exact ih.append (.step (course.onward n) (course.performs n) .stop)

/-- What happens next brings the loop nearer to the mark, or is somebody else's doing and leaves it
where it is. -/
theorem nearer_succ (hclosed : (course.worker 0).Stands (some mode))
    (hnever : ∀ n, (course.worker n).phase ≠ .exited) (n : Nat) :
    (course.worker (n + 1)).Nearer (course.worker n) ∨
      (course.incident n).own = false ∧
        (course.worker (n + 1)).remaining = (course.worker n).remaining := by
  have hstands := ((course.run n).after_close hclosed).1
  exact (course.performs n).nearer hstands (hnever n) (hnever (n + 1))

/-- Sooner or later the loop is nearer to the mark, as it is not kept from its next step for ever.
-/
theorem exists_nearer (hfair : course.Fair) (hclosed : (course.worker 0).Stands (some mode))
    (hnever : ∀ n, (course.worker n).phase ≠ .exited) (n : Nat) :
    ∃ m, (course.worker m).Nearer (course.worker n) := by
  obtain ⟨k, hle, hown⟩ := hfair n
  replace hown := hown.resolve_right (hnever k)
  obtain ⟨between, rfl⟩ := Nat.exists_eq_add_of_le hle
  clear hle
  -- Until the loop takes its next step, what others do wakes it or leaves it where it is.
  induction between generalizing n with
  | zero =>
    rcases nearer_succ hclosed hnever n with hnearer | ⟨hother, -⟩
    · exact ⟨n + 1, hnearer⟩
    · rw [Nat.add_zero, hother] at hown
      cases hown
  | succ between ih =>
    rcases nearer_succ hclosed hnever n with hnearer | ⟨-, hsame⟩
    · exact ⟨n + 1, hnearer⟩
    · rw [← Nat.add_assoc, Nat.add_right_comm] at hown
      obtain ⟨m, hm⟩ := ih (n + 1) hown
      refine ⟨m, ?_⟩
      unfold Nearer InvImage at hm ⊢
      rwa [hsame] at hm

/-- A loop whose queue is closed leaves, whatever others do meanwhile. -/
theorem leaves (hfair : course.Fair) (hclosed : (course.worker 0).Stands (some mode)) :
    ∃ n, (course.worker n).phase = .exited := by
  refine Classical.byContradiction fun hno => ?_
  have hnever (n : Nat) : (course.worker n).phase ≠ .exited := fun h => hno ⟨n, h⟩
  have hendless : ∀ w n, course.worker n = w → False := by
    intro w
    induction w using nearer_wf.induction with
    | _ w ih =>
      rintro n rfl
      obtain ⟨m, hm⟩ := exists_nearer hfair hclosed hnever n
      exact ih _ hm m rfl
  exact hendless _ 0 rfl

end Course

end Courier.Worker
