import Courier.Proofs.Task.Order

/-!
# The mark of a closed queue

A consumer goes home when it finds the mark that closing the queue has set up. The mark stands
until a consumer finds it, and until then every look at the queue finds something and brings the
consumer nearer to the mark. Clearing the queue is the exception: it removes the mark with the
tasks, and no other one is set up, so that a consumer finds nothing from then on and never leaves.
-/

namespace Courier.TaskQueue

variable {α : Type} {q q' q₁ : TaskQueue α} {mark : Option ShutdownMode} {events : List (Event α)}

/-- Whether an event is that the queue was cleared. -/
def Event.clears : Event α → Bool
  | .clear _ => true
  | _ => false

/-- Whether an event is that a consumer looked at the queue. -/
def Event.pops : Event α → Bool
  | .pop _ => true
  | _ => false

/-- As long as no consumer finds the mark, it stands unless the queue is cleared. -/
theorem foldl_marks (hexit : .pop .exit ∉ events) (hclose : ∀ mode, .close mode true ∉ events) :
    events.foldl Event.marks mark = if events.any Event.clears then none else mark := by
  induction events generalizing mark with
  | nil => rfl
  | cons e events ih =>
    rw [List.foldl_cons, ih (fun h => hexit (List.mem_cons_of_mem e h))
      (fun mode h => hclose mode (List.mem_cons_of_mem e h)), List.any_cons]
    cases e with
    | push => rfl
    | pop found =>
      cases found with
      | exit => exact absurd List.mem_cons_self hexit
      | _ => rfl
    | close mode done =>
      cases done with
      | false => rfl
      | true => exact absurd List.mem_cons_self (hclose mode)
    | clear => simp [Event.marks, Event.clears]
    | count => rfl

/-- Something clears the queue if an event is that it was cleared. -/
theorem any_clears_iff : events.any Event.clears = true ↔ ∃ tasks, .clear tasks ∈ events := by
  rw [List.any_eq_true]
  constructor
  · rintro ⟨e, he, hclears⟩
    cases e with
    | clear tasks => exact ⟨tasks, he⟩
    | _ => cases hclears
  · rintro ⟨tasks, htasks⟩
    exact ⟨.clear tasks, htasks, rfl⟩

/-- In a closed queue without entries nothing is ever found. -/
theorem Run.idle_of_empty (h : Run q events q') (hclosed : q.accepting = false)
    (hempty : q.entries = []) :
    q'.entries = [] ∧ ∀ found, .pop found ∈ events → found = .idle := by
  induction h with
  | stop => exact ⟨hempty, by simp⟩
  | @step q q₁ q' e events hperforms _ ih =>
    have hclosed₁ := hperforms.shut hclosed
    have hstep : q₁.entries = [] ∧ ∀ found, e = .pop found → found = .idle := by
      cases hperforms with
      | push t policy => simp [TaskQueue.offer, hclosed, hempty]
      | pop => simp [TaskQueue.pop, hempty]
      | close mode => simp [TaskQueue.close, hclosed, hempty]
      | clear => simp [TaskQueue.clear]
      | count => simp [hempty]
    obtain ⟨hentries, hidle⟩ := ih hclosed₁ hstep.1
    refine ⟨hentries, ?_⟩
    intro found hmem
    rcases List.mem_cons.mp hmem with heq | hmem
    · exact hstep.2 found heq.symm
    · exact hidle found hmem

/-- A queue that is closed and was cleared stays empty. -/
theorem Run.empty_of_cleared (h : Run q events q') (hclosed : q.accepting = false)
    (hcleared : ∃ tasks, .clear tasks ∈ events) : q'.entries = [] := by
  obtain ⟨tasks, hmem⟩ := hcleared
  obtain ⟨front, back, rfl⟩ := List.append_of_mem hmem
  obtain ⟨q₁, hfront, hrest⟩ := h.split
  have hclosed₁ := hfront.shut hclosed
  cases hrest with
  | step hclear hback =>
    cases hclear with
    | clear => exact (hback.idle_of_empty hclosed₁ rfl).1

/-- Until the mark is found, every look at a closed queue takes one of its tasks. -/
theorem Run.countP_pops {mode : ShutdownMode} (h : Run q events q') (hq : q.Orderly (some mode))
    (hclosed : q.accepting = false) (hcleared : ∀ tasks, .clear tasks ∉ events)
    (hexit : .pop .exit ∉ events) : events.countP Event.pops + q'.depth = q.depth := by
  induction h with
  | stop => simp
  | @step q q₁ q' e events hperforms hrun ih =>
    have hclosed₁ := hperforms.shut hclosed
    have horderly := hperforms.orderly hq
    have hcleared' := fun tasks h => hcleared tasks (List.mem_cons_of_mem e h)
    have hexit' := fun h => hexit (List.mem_cons_of_mem e h)
    cases hperforms with
    | push t policy =>
      have hsame : (q.offer t policy).2 = q := by simp [TaskQueue.offer, hclosed]
      rw [hsame] at ih
      rw [List.countP_cons_of_neg (by simp [Event.pops])]
      exact ih hq hclosed hcleared' hexit'
    | close mode' =>
      have hsame : (q.close mode').2 = q := by simp [TaskQueue.close, hclosed]
      rw [hsame] at ih
      rw [List.countP_cons_of_neg (by simp [Event.pops])]
      exact ih hq hclosed hcleared' hexit'
    | clear => exact absurd List.mem_cons_self (hcleared q.clear.1)
    | count =>
      rw [List.countP_cons_of_neg (by simp [Event.pops])]
      exact ih hq hclosed hcleared' hexit'
    | pop =>
      have hcounted := hq.counted
      have hmark := hq.exists_mark
      have htakes := takes_pop hq.ascending
      rw [List.countP_cons_of_pos (by simp [Event.pops])]
      generalize q.pop = result at *
      cases htakes with
      | idle hentries =>
        obtain ⟨m, hm, -⟩ := hmark
        rw [hentries] at hm
        cases hm
      | exit => exact absurd List.mem_cons_self hexit
      | @task front back e t hsplit _ htask =>
        have hrest := ih horderly hclosed₁ hcleared' hexit'
        rw [tasks, hsplit, List.filterMap_append, List.filterMap_cons_some htask] at hcounted
        simp only [List.length_append, List.length_cons] at hcounted
        change events.countP Event.pops + q'.depth = q.depth - 1 at hrest
        omega

/-- As long as no consumer has found the mark of a closed queue, it stands exactly if the queue was
not cleared since it was closed. While it stands, a look at the queue always finds something: the
mark, if the tasks are discarded or there are none, and else a task, so that it takes no more looks
than there are tasks before the mark is found. Once the queue was cleared, every look at it finds
nothing, for ever. -/
theorem Run.mark_stands_until_cleared {name : String} {config : QueueConfig} {mode : ShutdownMode}
    {before after : List (Event α)}
    (h : Run { name, config } (before ++ .close mode true :: after) q)
    (hexit : .pop .exit ∉ after) :
    ((∃ e ∈ q.entries, e.task = none) ↔ ∀ tasks, .clear tasks ∉ after) ∧
      (q.pop.1 = .idle ↔ ∃ tasks, .clear tasks ∈ after) ∧
      (q.pop.1 = .exit ↔
        (∀ tasks, .clear tasks ∉ after) ∧ (mode = .discard ∨ q.depth = 0)) ∧
      ((∀ tasks, .clear tasks ∉ after) → ∀ later q', Run q later q' →
        (∀ tasks, .clear tasks ∉ later) → .pop .exit ∉ later →
        later.countP Event.pops ≤ q.depth) ∧
      ((∃ tasks, .clear tasks ∈ after) → ∀ later q', Run q later q' →
        ∀ found, .pop found ∈ later → found = .idle) := by
  obtain ⟨q₁, hafter, hq₁, hclosed₁, -⟩ := h.after_close
  have hclosed := hafter.shut hclosed₁
  have honce : ∀ mode', .close mode' true ∉ after := fun mode' hmem =>
    Bool.noConfusion ((hafter.refused hclosed₁).2 mode' true hmem)
  have hq := hafter.orderly hq₁
  rw [foldl_marks hexit honce] at hq
  by_cases hcleared : ∃ tasks, .clear tasks ∈ after
  · have hempty := hafter.empty_of_cleared hclosed₁ hcleared
    have hidle : q.pop.1 = .idle := by simp [TaskQueue.pop, hempty]
    have hno : ¬ ∀ tasks, .clear tasks ∉ after := fun h => hcleared.elim h
    refine ⟨iff_of_false (by simp [hempty]) hno, iff_of_true hidle hcleared,
      iff_of_false (by simp [hidle]) (fun h => hno h.1), fun h => absurd h hno, ?_⟩
    intro _ later q' hlater
    exact (hlater.idle_of_empty hclosed hempty).2
  · have hnever : ∀ tasks, .clear tasks ∉ after := fun tasks hmem => hcleared ⟨tasks, hmem⟩
    rw [if_neg (fun h => hcleared (any_clears_iff.mp h))] at hq
    obtain ⟨m, hm, hnone, -⟩ := hq.exists_mark
    refine ⟨iff_of_true ⟨m, hm, hnone⟩ hnever, iff_of_false hq.pop_ne_idle hcleared, ?_, ?_,
      fun h => absurd h hcleared⟩
    · rw [hq.pop_eq_exit_iff, hq.counted, List.length_eq_zero_iff]
      exact ⟨fun h => ⟨hnever, h⟩, fun h => h.2⟩
    · intro _ later q' hlater hlater' hlaterExit
      have hcount := hlater.countP_pops hq hclosed hlater' hlaterExit
      omega

/-- A queue is closed to be drained and then cleared. Its consumer finds no mark, although nobody
else has found it. -/
theorem Run.mark_stands_until_cleared_of_lost_mark :
    let closed : TaskQueue Nat :=
      { name := "door", entries := [⟨0, 0, none⟩], nextTicket := 1, accepting := false }
    let cleared : TaskQueue Nat := { closed with entries := [] }
    Run { name := "door" } [.close .drain true, .clear []] cleared ∧ closed.pop.1 = .exit ∧
      cleared.pop.1 = .idle ∧
      ∀ later q', Run cleared later q' → ∀ found, .pop found ∈ later → found = .idle := by
  intro closed cleared
  have hclose : ({ name := "door" } : TaskQueue Nat).Performs (.close .drain true) closed :=
    .close .drain
  have hclear : closed.Performs (.clear []) cleared := .clear
  have hrun : Run { name := "door" } ([] ++ [.close .drain true, .clear []]) cleared :=
    .step hclose (.step hclear .stop)
  obtain ⟨-, hidle, -, -, hnever⟩ := hrun.mark_stands_until_cleared (by decide)
  have hcleared : ∃ tasks, .clear tasks ∈ [(.clear [] : Event Nat)] :=
    ⟨[], List.mem_singleton_self _⟩
  exact ⟨hrun, rfl, hidle.mpr hcleared, hnever hcleared⟩

end Courier.TaskQueue
