import Courier.Proofs.Task.Incidents

/-!
# How late a waiting loop may be

A loop computes the deadline of its wait once in a pass, from the timers that are registered then.
Waking it makes it look at the queue, but not at the timers: with nothing in the queue it goes on
waiting for the deadline that it had. A timer that is registered meanwhile can be called late, yet
by no more than the longest wait exceeds its period.
-/

namespace Courier

/-- A time limit lies before the earliest deadline exactly if it lies before all of them. -/
theorem TimerSet.le_nextDeadline_iff {τ : Type} (s : TimerSet τ) (limit : Time) :
    (∀ next, s.nextDeadline = some next → limit ≤ next) ↔ ∀ t ∈ s.entries, limit ≤ t.nextDue := by
  constructor
  · intro hlimit t ht
    have hmem : t.nextDue ∈ s.entries.map (·.nextDue) := List.mem_map_of_mem ht
    obtain ⟨next, hnext⟩ := List.isSome_min?_of_mem hmem |> Option.isSome_iff_exists.mp
    exact Nat.le_trans (hlimit next hnext) ((List.min?_eq_some_iff.mp hnext).2 _ hmem)
  · intro hall next hnext
    obtain ⟨t, ht, rfl⟩ := List.mem_map.mp (List.min?_eq_some_iff.mp hnext).1
    exact hall t ht

namespace Worker

variable {α τ : Type} {w w' w₁ : Worker α τ} {now now' now₁ : Time} {i : Incident α τ}
  {past incidents : List (Incident α τ)} {deadline : Time} {asleep : Bool}

/-- A loop wakes up before any of the timers that it knew of is due. -/
theorem deadline_le_nextDue (w : Worker α τ) (began : Time) :
    ∀ t ∈ w.timers.entries, w.deadline began ≤ t.nextDue := by
  rw [← TimerSet.le_nextDeadline_iff]
  intro next hnext
  simp only [deadline, hnext]
  exact Nat.min_le_left _ _

/-- A loop never waits for longer than the longest wait. -/
theorem deadline_le_idle (w : Worker α τ) (began : Time) :
    w.deadline began ≤ began + idlePoll.nanos := by
  unfold deadline
  dsimp only
  split
  · exact Nat.min_le_right _ _
  · exact Nat.le_refl _

/-- What is known of a loop that waits for a deadline, from what happened since it began to. -/
structure Waits (past : List (Incident α τ)) (now : Time) (w : Worker α τ) (deadline : Time) :
    Prop where
  since : ∃ before later, past = before ++ .await deadline :: later ∧ (∀ d, .await d ∉ later) ∧
    ∀ t ∈ w.timers.entries, deadline ≤ t.nextDue ∨
      .register t ∈ later ∧ deadline + t.period.nanos ≤ t.nextDue + idlePoll.nanos
  bounded : deadline ≤ now + idlePoll.nanos

/-- What a loop knows of the clock. -/
structure Recalls (past : List (Incident α τ)) (now : Time) (w : Worker α τ) : Prop where
  began : ∀ {began due}, w.phase = .firing began due → began ≤ now
  waits : ∀ {deadline asleep}, w.phase = .waiting deadline asleep → Waits past now w deadline

/-- A loop begins to wait for the deadline that it computes, and keeps it for as long as it waits.
Until then no timer changes its own deadline. -/
theorem Performs.waiting (h : Performs now w i w') (hphase : w'.phase = .waiting deadline asleep) :
    (∃ began, w.phase = .firing began [] ∧ i = .await deadline ∧ deadline = w.deadline began ∧
        w'.timers = w.timers) ∨
      (∃ asleep, w.phase = .waiting deadline asleep) ∧ (∀ d, i ≠ .await d) ∧
        ∀ t ∈ w'.timers.entries, t ∈ w.timers.entries ∨
          i = .register t ∧ t.nextDue = now + t.period.nanos := by
  cases h with
  | post | retry | postOwn | close => exact .inr ⟨⟨asleep, hphase⟩, by simp, fun t ht => .inl ht⟩
  | register period callback =>
    refine .inr ⟨⟨asleep, hphase⟩, by simp, fun t ht => ?_⟩
    rcases List.mem_append.mp ht with hold | hnew
    · exact .inl hold
    · rw [List.mem_singleton.mp hnew]
      exact .inr ⟨rfl, rfl⟩
  | cancel id =>
    refine .inr ⟨⟨asleep, hphase⟩, by simp, fun t ht => .inl ?_⟩
    exact (List.mem_filter.mp ht).1
  | wake =>
    refine .inr ⟨?_, by simp, fun t ht => .inl (by rwa [wake_timers] at ht)⟩
    unfold Worker.wake at hphase
    cases hold : w.phase <;> simp_all
  | begin hold | fire hold => simp [step, hold] at hphase
  | finish => simp at hphase
  | @await began hold =>
    simp only [step, hold, Phase.waiting.injEq] at hphase
    obtain ⟨rfl, -⟩ := hphase
    exact .inl ⟨began, hold, rfl, rfl, by simp [step, hold]⟩
  | @timeOut deadline' hold hle =>
    have hlate : ¬ now < deadline' := Nat.not_lt.mpr hle
    simp only [step, hold, if_neg hlate] at hphase ⊢
    split at hphase
    · cases hphase
    · cases hphase
      exact .inr ⟨⟨true, rfl⟩, by simp, fun t ht => .inl (by split at ht <;> exact ht)⟩
  | @look deadline' hold =>
    have hlooks : w.Looks deadline' (w.step now) := looks_step hold
    generalize w.step now = result at hlooks hphase
    cases hlooks with
    | start => cases hphase
    | leave => cases hphase
    | sleep =>
      cases hphase
      exact .inr ⟨⟨false, hold⟩, by simp, fun t ht => .inl ht⟩

/-- A pass has the time at which it began until it ends. -/
theorem Performs.firing {began : Time} {due : List (Timer τ)} (h : Performs now w i w')
    (hphase : w'.phase = .firing began due) : began = now ∨ ∃ due, w.phase = .firing began due := by
  cases h with
  | begin hold =>
    simp only [step, hold, Phase.firing.injEq] at hphase
    exact .inl hphase.1.symm
  | fire hold =>
    simp only [step, hold, Phase.firing.injEq] at hphase
    exact .inr ⟨_, hphase.1 ▸ hold⟩
  | wake =>
    unfold Worker.wake at hphase
    cases hold : w.phase <;> simp_all
  | await hold => simp [step, hold] at hphase
  | finish => simp at hphase
  | timeOut hold hle =>
    have hlate : ¬ now < _ := Nat.not_lt.mpr hle
    simp only [step, hold, if_neg hlate] at hphase
    split at hphase <;> cases hphase
  | look hold =>
    have hlooks : w.Looks _ (w.step now) := looks_step hold
    generalize w.step now = result at hlooks hphase
    cases hlooks <;> cases hphase
  | _ => exact .inr ⟨due, hphase⟩

/-- What a loop knows of the clock stays true with whatever happens. While it waits, timers come
only by being registered, and are due one period later. -/
theorem Performs.recalls (h : Performs now₁ w i w') (hw : Recalls past now w) (hle : now ≤ now₁) :
    Recalls (past ++ [i]) now₁ w' := by
  constructor
  · intro began due hphase
    rcases h.firing hphase with rfl | ⟨due, hfiring⟩
    · exact Nat.le_refl _
    · exact Nat.le_trans (hw.began hfiring) hle
  · intro deadline asleep hphase
    rcases h.waiting hphase with
      ⟨began, hfiring, rfl, rfl, htimers⟩ | ⟨⟨asleep, hwaiting⟩, hi, htimers⟩
    · constructor
      · refine ⟨past, [], rfl, by simp, ?_⟩
        intro t ht
        rw [htimers] at ht
        exact .inl (w.deadline_le_nextDue began t ht)
      · have hbegan := Nat.le_trans (hw.began hfiring) hle
        exact Nat.le_trans (w.deadline_le_idle began) (Nat.add_le_add_right hbegan _)
    · obtain ⟨⟨before, later, rfl, hlater, hentries⟩, hbounded⟩ := hw.waits hwaiting
      have hlimit : deadline ≤ now₁ + idlePoll.nanos :=
        Nat.le_trans hbounded (Nat.add_le_add_right hle _)
      constructor
      · refine ⟨before, later ++ [i], by simp, ?_, ?_⟩
        · intro d hmem
          rcases List.mem_append.mp hmem with hmem | hmem
          · exact hlater d hmem
          · exact hi d (List.mem_singleton.mp hmem).symm
        · intro t ht
          rcases htimers t ht with hold | ⟨rfl, hdue⟩
          · rcases hentries t hold with hearly | ⟨hmem, hlate⟩
            · exact .inl hearly
            · exact .inr ⟨List.mem_append_left _ hmem, hlate⟩
          · refine .inr ⟨List.mem_append_right _ (List.mem_singleton_self _), ?_⟩
            calc
              deadline + t.period.nanos ≤ now₁ + idlePoll.nanos + t.period.nanos :=
                Nat.add_le_add_right hlimit _
              _ = now₁ + t.period.nanos + idlePoll.nanos := Nat.add_right_comm _ _ _
              _ = t.nextDue + idlePoll.nanos := by rw [hdue]
      · exact hlimit

/-- What a loop knows of the clock stays true in a run. -/
theorem Run.recalls (h : Run now w incidents now' w') (hw : Recalls past now w) :
    Recalls (past ++ incidents) now' w' := by
  induction h generalizing past with
  | stop =>
    rw [List.append_nil]
    exact hw
  | step hle hperforms _ ih =>
    have hrest := ih (hperforms.recalls hw hle)
    rwa [List.append_assoc] at hrest

/-- A new loop does not wait yet. -/
theorem recalls_new (name : String) (config : QueueConfig) :
    Recalls [] now (new name config : Worker α τ) where
  began h := by cases h
  waits h := by cases h

/-- A loop that waits keeps the deadline that it had when it began to, whatever wakes it. It ends
its wait before a timer is due unless the timer was registered since; so the wait ends before the
earliest timer is due exactly if it does for all those that were registered since. No timer is kept
waiting for longer than the longest wait exceeds its period. -/
theorem Run.wait_keeps_its_deadline {name : String} {config : QueueConfig}
    (h : Run now (new name config) incidents now' w) (hphase : w.phase = .waiting deadline asleep) :
    ∃ before later, incidents = before ++ .await deadline :: later ∧ (∀ d, .await d ∉ later) ∧
      (∀ t ∈ w.timers.entries, deadline ≤ t.nextDue ∨
        .register t ∈ later ∧ deadline + t.period.nanos ≤ t.nextDue + idlePoll.nanos) ∧
      ((∀ next, w.timers.nextDeadline = some next → deadline ≤ next) ↔
        ∀ t ∈ w.timers.entries, .register t ∈ later → deadline ≤ t.nextDue) := by
  have hrecalls := h.recalls (recalls_new name config)
  rw [List.nil_append] at hrecalls
  obtain ⟨before, later, hsplit, hlater, hentries⟩ := (hrecalls.waits hphase).since
  refine ⟨before, later, hsplit, hlater, hentries, ?_⟩
  rw [TimerSet.le_nextDeadline_iff]
  constructor
  · intro hall t ht _
    exact hall t ht
  · intro hsince t ht
    rcases hentries t ht with hearly | ⟨hmem, -⟩
    · exact hearly
    · exact hsince t ht hmem

/-- A loop has nothing to do and waits for 100 ms. After 10 ms a timer with a period of 10 ms is
registered and the loop is woken. It falls asleep again, and when the timer has been due for 70 ms
it still rests. -/
theorem Run.wait_keeps_its_deadline_of_short_timer :
    let timer : Timer Unit := ⟨0, .ofMillis 10, 20000000, ()⟩
    let incidents : List (Incident Unit Unit) :=
      [.begin, .await 100000000, .look .proceed, .register timer, .wake, .look .proceed]
    ∃ w, Run 0 (new "worker" {}) incidents 10000000 w ∧ w.phase = .waiting 100000000 true ∧
      w.timers.nextDeadline = some 20000000 ∧ w.step 90000000 = (.rest, w) ∧
      ∃ before later, incidents = before ++ .await 100000000 :: later ∧
        .register timer ∈ later := by
  intro timer incidents
  let state (phase : Phase Unit Unit) (timers : TimerSet Unit) : Worker Unit Unit :=
    { room := { queue := { name := "worker" } }, phase, timers }
  have hbegin : Performs 0 (new "worker" {}) .begin (state (.firing 0 []) {}) := .begin rfl
  have hawait : Performs 0 (state (.firing 0 []) {}) (.await 100000000)
      (state (.waiting 100000000 false) {}) := .await rfl
  have hsleep : Performs 0 (state (.waiting 100000000 false) {}) (.look .proceed)
      (state (.waiting 100000000 true) {}) := .look rfl
  have hregister : Performs 10000000 (state (.waiting 100000000 true) {}) (.register timer)
      (state (.waiting 100000000 true) ⟨[timer], 1⟩) := .register (.ofMillis 10) ()
  have hwake : Performs 10000000 (state (.waiting 100000000 true) ⟨[timer], 1⟩) .wake
      (state (.waiting 100000000 false) ⟨[timer], 1⟩) := .wake
  have hagain : Performs 10000000 (state (.waiting 100000000 false) ⟨[timer], 1⟩) (.look .proceed)
      (state (.waiting 100000000 true) ⟨[timer], 1⟩) := .look rfl
  have hrun : Run 0 (new "worker" {}) incidents 10000000
      (state (.waiting 100000000 true) ⟨[timer], 1⟩) :=
    hbegin.run.append <| hawait.run.append <| hsleep.run.append <|
      .step (by decide) hregister <| hwake.run.append hagain.run
  obtain ⟨before, later, hsplit, -, hentries, -⟩ := hrun.wait_keeps_its_deadline rfl
  refine ⟨_, hrun, rfl, rfl, rfl, before, later, hsplit, ?_⟩
  rcases hentries timer (List.mem_singleton_self _) with hearly | ⟨hmem, -⟩
  · exact absurd hearly (by decide)
  · exact hmem

end Worker

end Courier
