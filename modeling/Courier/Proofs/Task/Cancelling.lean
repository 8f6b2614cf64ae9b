import Courier.Proofs.Task.Incidents
import Courier.Proofs.Task.Timing
import Mathlib.Data.List.Induction

/-!
# Timers that are taken away

A pass of the loop finds the timers that are due and then calls them, one after the other. What
they do meanwhile does not change what the pass has found: a timer that is cancelled by another one
of the same pass, and was to be called after it, is called all the same. This happens once, before
the pass ends, and in no other case is a timer called after it was cancelled.
-/

namespace Courier.Worker

variable {α τ : Type} {w w' : Worker α τ} {now now' : Time} {i : Incident α τ}
  {incidents : List (Incident α τ)} {id : Nat}

/-- The timers that the pass under way has found due and has not called yet. -/
def toCall (w : Worker α τ) : List (Timer τ) :=
  match w.phase with
  | .firing _ due => due
  | _ => []

/-- The timer that an incident calls. -/
def Incident.called? : Incident α τ → Option (Timer τ)
  | .fire t => some t
  | _ => none

/-- Whether an incident is that the timer with a number is called. -/
def Incident.calls (id : Nat) (i : Incident α τ) : Bool := i.called?.any (·.id == id)

/-- The timers that were called, in order. -/
def called (incidents : List (Incident α τ)) : List (Timer τ) :=
  incidents.filterMap Incident.called?

/-- Whether an incident concerns the timers. -/
def Incident.timely : Incident α τ → Bool
  | .register _ | .cancel .. | .begin | .fire _ | .await _ | .look (.leave _) => true
  | _ => false

/-- What an incident does to the timers and to those that are still to be called. -/
inductive Affects (now : Time) (w w' : Worker α τ) : Incident α τ → Prop
  | register (period : Duration) (callback : τ) :
      w'.timers = (w.timers.insert now period callback).2 → w'.toCall = w.toCall →
      Affects now w w' (.register ⟨w.timers.nextId, period, now + period.nanos, callback⟩)
  | cancel (id : Nat) : w'.timers = (w.timers.remove id).2 → w'.toCall = w.toCall →
      Affects now w w' (.cancel id (w.timers.contains id))
  | begin : w.toCall = [] → w'.timers = (w.timers.takeDue now).2 →
      w'.toCall = (w.timers.takeDue now).1 → Affects now w w' .begin
  | fire (t : Timer τ) : w'.timers = w.timers → w.toCall = t :: w'.toCall →
      Affects now w w' (.fire t)
  | await (deadline : Time) : w'.timers = w.timers → w.toCall = [] → w'.toCall = [] →
      Affects now w w' (.await deadline)
  | leave (tasks : List (Task α)) : w'.timers = w.timers.clear → w.toCall = [] →
      w'.toCall = [] → Affects now w w' (.look (.leave tasks))
  | aside {i : Incident α τ} : i.timely = false → w'.timers = w.timers → w'.toCall = w.toCall →
      Affects now w w' i

/-- Waking a loop does not change what it has to call. -/
theorem toCall_wake (w : Worker α τ) : w.wake.toCall = w.toCall := by
  unfold wake
  cases hphase : w.phase <;> simp [toCall, hphase]

/-- Everything that happens to a worker does one of these things to its timers. -/
theorem Performs.affects (h : Performs now w i w') : Affects now w w' i := by
  cases h with
  | post | retry | close => exact .aside rfl rfl rfl
  | postOwn =>
    refine .aside rfl ?_ ?_ <;> unfold Worker.postOwn <;> rw [Room.push_fail]
    rfl
  | register period callback => exact .register period callback rfl rfl
  | cancel id => exact .cancel id rfl rfl
  | wake => exact .aside rfl (wake_timers w) (toCall_wake w)
  | begin hphase => refine .begin ?_ ?_ ?_ <;> simp [toCall, step, hphase]
  | fire hphase => refine .fire _ ?_ ?_ <;> simp [toCall, step, hphase]
  | await hphase => refine .await _ ?_ ?_ ?_ <;> simp [toCall, step, hphase]
  | finish panicked hphase => refine .aside rfl ?_ ?_ <;> simp [toCall, hphase]
  | timeOut hphase hle =>
    simp only [step, hphase, if_neg (Nat.not_lt.mpr hle)]
    refine .aside rfl ?_ ?_ <;> split <;> simp [toCall, hphase]
  | look hphase =>
    have hlooks : w.Looks _ (w.step now) := looks_step hphase
    generalize w.step now = result at hlooks
    cases hlooks with
    | start => exact .aside rfl rfl (by simp [toCall, hphase])
    | leave => exact .leave _ rfl (by simp [toCall, hphase]) rfl
    | sleep => exact .aside rfl rfl (by simp [toCall, hphase])

/-- Whatever happens to a worker, its timers change as timers do. -/
theorem Affects.timers (h : Affects now w w' i) :
    w'.timers = w.timers ∨ ∃ e, TimerSet.Performs now w.timers e w'.timers := by
  cases h with
  | register period callback heq =>
    rw [heq]
    exact .inr ⟨_, .insert period callback⟩
  | cancel id heq =>
    rw [heq]
    exact .inr ⟨_, .remove id⟩
  | begin _ heq =>
    rw [heq]
    exact .inr ⟨_, .poll⟩
  | leave _ heq =>
    rw [heq]
    exact .inr ⟨_, .clear⟩
  | fire _ heq | await _ heq | aside _ heq => exact .inl heq

/-! ## Numbers -/

/-- A worker that knows its timers by their numbers, those that are still to be called as well. -/
structure Numbered (w : Worker α τ) : Prop where
  timers : w.timers.Numbered
  ascending : w.toCall.Pairwise (·.id < ·.id)

/-- A new worker has no timers. -/
theorem numbered_new (name : String) (config : QueueConfig) :
    (new name config : Worker α τ).Numbered := ⟨TimerSet.numbered_empty, .nil⟩

/-- Timers keep to their numbers whatever happens. -/
theorem Affects.numbered (h : Affects now w w' i) (hw : w.Numbered) : w'.Numbered := by
  constructor
  · rcases h.timers with heq | ⟨e, hperforms⟩
    · exact heq ▸ hw.timers
    · exact hperforms.numbered hw.timers
  · have hascending := hw.ascending
    cases h with
    | begin _ _ hfound =>
      rw [hfound]
      exact hw.timers.ascending.filter _
    | fire t _ hcons =>
      rw [hcons] at hascending
      exact (List.pairwise_cons.mp hascending).2
    | await _ _ _ hnil | leave _ _ _ hnil => simp [hnil]
    | register _ _ _ hsame | cancel _ _ hsame | aside _ _ hsame => exact hsame ▸ hascending

/-- Timers keep to their numbers throughout a run. -/
theorem Run.numbered (h : Run now w incidents now' w') (hw : w.Numbered) : w'.Numbered := by
  induction h with
  | stop => exact hw
  | step _ hperforms _ ih => exact ih (hperforms.affects.numbered hw)

/-- At most one of the timers that are still to be called has a given number. -/
theorem Numbered.countP_toCall_le (hw : w.Numbered) (id : Nat) :
    w.toCall.countP (·.id == id) ≤ 1 := by
  have hnodup : (w.toCall.map (·.id)).Nodup :=
    List.pairwise_map.mpr (hw.ascending.imp Nat.ne_of_lt)
  have hcount := List.nodup_iff_count_le_one.mp hnodup id
  rwa [List.count, List.countP_map] at hcount

/-- Numbers are issued upwards. -/
theorem Affects.nextId_le (h : Affects now w w' i) :
    w.timers.nextId ≤ w'.timers.nextId ∧ ∀ t, i = .register t → t.id < w'.timers.nextId := by
  cases h with
  | register period callback heq =>
    rw [heq]
    refine ⟨Nat.le_succ _, fun t ht => ?_⟩
    cases ht
    exact Nat.lt_succ_self _
  | cancel _ heq | begin _ heq | fire _ heq | await _ heq | leave _ heq =>
    rw [heq]
    exact ⟨Nat.le_refl _, by simp⟩
  | aside hquiet heq =>
    rw [heq]
    refine ⟨Nat.le_refl _, ?_⟩
    rintro t rfl
    cases hquiet

/-- The number of a timer that was registered is not issued again. -/
theorem Run.issued (h : Run now w incidents now' w') :
    w.timers.nextId ≤ w'.timers.nextId ∧
      ∀ t, .register t ∈ incidents → t.id < w'.timers.nextId := by
  induction h with
  | stop => simp
  | step _ hperforms _ ih =>
    obtain ⟨hnext, hregistered⟩ := hperforms.affects.nextId_le
    obtain ⟨hle, hrest⟩ := ih
    refine ⟨Nat.le_trans hnext hle, fun t ht => ?_⟩
    rcases List.mem_cons.mp ht with heq | ht
    · exact Nat.lt_of_lt_of_le (hregistered t heq.symm) hle
    · exact hrest t ht

/-! ## After a timer was cancelled -/

/-- A worker without a timer of this number, which is not issued again. -/
structure Lacks (w : Worker α τ) (id : Nat) : Prop where
  issued : id < w.timers.nextId
  absent : ∀ t ∈ w.timers.entries, t.id ≠ id

/-- A number that is not there does not come back. -/
theorem Affects.lacks (h : Affects now w w' i) (hw : w.Lacks id) : w'.Lacks id := by
  rcases h.timers with heq | ⟨e, hperforms⟩
  · exact ⟨heq ▸ hw.issued, heq ▸ hw.absent⟩
  · obtain ⟨-, hissued, habsent⟩ := hperforms.absent hw.issued hw.absent
    exact ⟨hissued, habsent⟩

/-- Cancelling a timer takes it out of the set, and that is all. -/
theorem Performs.eq_cancelTimer {removed : Bool} (h : Performs now w (.cancel id removed) w') :
    w' = (w.cancelTimer id).2 := by
  generalize hi : Incident.cancel id removed = i at h
  cases h with
  | cancel =>
    cases hi
    rfl
  | _ => cases hi

/-- After it was cancelled, a timer is not there. -/
theorem lacks_cancelTimer (hissued : id < w.timers.nextId) : (w.cancelTimer id).2.Lacks id :=
  ⟨hissued, fun t ht => by simpa using (List.mem_filter.mp ht).2⟩

/-- A timer that is not registered is called only if it was still to be called. -/
theorem Affects.countP_toCall (h : Affects now w w' i) (hw : w.Lacks id) :
    (if i.calls id then 1 else 0) + w'.toCall.countP (·.id == id) =
      w.toCall.countP (·.id == id) := by
  cases h with
  | fire t _ hcons =>
    rw [hcons, List.countP_cons, Nat.add_comm]
    rfl
  | begin hnil _ hfound =>
    have hnone : w'.toCall.countP (·.id == id) = 0 := by
      rw [hfound, List.countP_eq_zero]
      intro t ht
      simpa using hw.absent t (List.mem_filter.mp ht).1
    rw [hnone, hnil]
    rfl
  | await _ _ hnil hnil' | leave _ _ hnil hnil' =>
    rw [hnil, hnil']
    rfl
  | register _ _ _ hsame | cancel _ _ hsame =>
    rw [hsame]
    exact Nat.zero_add _
  | aside hquiet _ hsame =>
    have hnone : i.calls id = false := by
      cases i with
      | fire => cases hquiet
      | _ => rfl
    rw [hsame, hnone]
    exact Nat.zero_add _

/-- What is not registered cannot be cancelled. -/
theorem Affects.removed_eq_false {removed : Bool} (h : Affects now w w' (.cancel id removed))
    (hw : w.Lacks id) : removed = false := by
  cases h with
  | cancel =>
    simpa [TimerSet.contains] using hw.absent
  | aside hquiet => cases hquiet

/-- When a timer is not registered any more, each time that it is called is one less that it is
still to be called. -/
theorem Run.countP_calls (h : Run now w incidents now' w') (hw : w.Lacks id) :
    incidents.countP (Incident.calls id) + w'.toCall.countP (·.id == id) =
        w.toCall.countP (·.id == id) ∧
      w'.Lacks id ∧ ∀ removed, .cancel id removed ∈ incidents → removed = false := by
  induction h with
  | stop => exact ⟨Nat.zero_add _, hw, by simp⟩
  | step _ hperforms _ ih =>
    have haffects := hperforms.affects
    have hstep := haffects.countP_toCall hw
    obtain ⟨hrest, hw', hcancels⟩ := ih (haffects.lacks hw)
    refine ⟨?_, hw', fun removed hmem => ?_⟩
    · rw [List.countP_cons]
      omega
    · rcases List.mem_cons.mp hmem with rfl | hmem
      · exact haffects.removed_eq_false hw
      · exact hcancels removed hmem

/-- At the end of a pass there is nothing left to call. -/
theorem Performs.toCall_of_await {deadline : Time} (h : Performs now w (.await deadline) w') :
    w.toCall = [] ∧ w'.toCall = [] := by
  cases h.affects with
  | await _ _ hnil hnil' => exact ⟨hnil, hnil'⟩
  | aside hquiet => cases hquiet

/-- A timer that is not registered any more is called in the pass under way, if at all. -/
theorem Run.countP_calls_of_await {pass later : List (Incident α τ)} {deadline : Time}
    (h : Run now w (pass ++ .await deadline :: later) now' w') (hw : w.Lacks id) :
    pass.countP (Incident.calls id) = w.toCall.countP (·.id == id) ∧
      later.countP (Incident.calls id) = 0 := by
  obtain ⟨_, w₁, hpass, hrest⟩ := h.split
  cases hrest with
  | @step _ _ _ _ w₂ _ _ _ _ hawait hlater =>
    obtain ⟨hnil, hnil'⟩ := hawait.toCall_of_await
    obtain ⟨hcount, hw₁, -⟩ := hpass.countP_calls hw
    obtain ⟨hcount', -⟩ := hlater.countP_calls (hawait.affects.lacks hw₁)
    rw [hnil, List.countP_nil] at hcount
    rw [hnil', List.countP_nil] at hcount'
    omega

/-- After some incidents a pass is under way. What it has still to call was found due when it began,
and all else that was found then has been called. -/
def UnderWay (start : Time) (w₀ : Worker α τ) (incidents : List (Incident α τ))
    (w : Worker α τ) : Prop :=
  ∃ earlier pass now₁ began w₁, incidents = earlier ++ .begin :: pass ∧
    Run start w₀ earlier now₁ w₁ ∧ now₁ ≤ began ∧
    (w₁.timers.takeDue began).1 = called pass ++ w.toCall ∧ ∀ deadline, .await deadline ∉ pass

/-- Whatever is neither the beginning nor the end of the pass is a part of it. -/
theorem UnderWay.concat {start : Time} {w₀ : Worker α τ} (h : UnderWay start w₀ incidents w)
    (htoCall : w.toCall = called [i] ++ w'.toCall) (hawait : ∀ deadline, i ≠ .await deadline) :
    UnderWay start w₀ (incidents ++ [i]) w' := by
  obtain ⟨earlier, pass, now₁, began, w₁, rfl, hearlier, hle, hfound, hpass⟩ := h
  refine ⟨earlier, pass ++ [i], now₁, began, w₁, by simp, hearlier, hle, ?_, ?_⟩
  · rw [hfound, htoCall]
    simp [called]
  · intro deadline hmem
    rcases List.mem_append.mp hmem with hmem | hmem
    · exact hpass deadline hmem
    · exact hawait deadline (List.mem_singleton.mp hmem).symm

/-- If something is still to be called, a pass is under way. -/
theorem Run.underWay (h : Run now w incidents now' w') (hw : w.toCall = [])
    (hleft : w'.toCall ≠ []) : UnderWay now w incidents w' := by
  induction incidents using List.reverseRecOn generalizing now' w' with
  | nil =>
    cases h
    exact absurd hw hleft
  | append_singleton incidents i ih =>
    obtain ⟨now₁, w₁, hbefore, hlast⟩ := h.split
    cases hlast with
    | @step _ now₂ _ _ w₂ _ _ _ hle hperforms hstop =>
      cases hstop
      have hinside (htoCall : w₁.toCall = called [i] ++ w'.toCall)
          (hawait : ∀ deadline, i ≠ .await deadline) :
          UnderWay now w (incidents ++ [i]) w' := by
        have hleft₁ : w₁.toCall ≠ [] := by
          rw [htoCall]
          exact List.append_ne_nil_of_right_ne_nil _ hleft
        exact (ih hbefore hleft₁).concat htoCall hawait
      cases hperforms.affects with
      | begin hnil _ hfound =>
        exact ⟨incidents, [], now₁, now', w₁, rfl, hbefore, hle, hfound.symm, by simp⟩
      | fire t _ hcons => exact hinside hcons (by simp)
      | await _ _ _ hnil | leave _ _ _ hnil => exact absurd hnil hleft
      | register _ _ _ hsame | cancel _ _ hsame => exact hinside hsame.symm (by simp)
      | aside hquiet _ hsame =>
        refine hinside ?_ ?_
        · cases i with
          | fire => cases hquiet
          | _ => exact hsame.symm
        · rintro deadline rfl
          cases hquiet

/-- A timer that was cancelled is called once more if the pass under way has found it due and has
not called it yet, before that pass ends, and in no other case: not in a later pass, and not if a
task cancelled it. It cannot be cancelled again. What a pass has still to call is what was due when
it began, less those that it has called, so that a timer which calls itself off is not called
again either. -/
theorem Run.cancelled_timer_ends_with_pass {name : String} {config : QueueConfig} {began : Time}
    {before after : List (Incident α τ)} {removed : Bool}
    (h : Run began (new name config) (before ++ .cancel id removed :: after) now w)
    (hregistered : ∃ t, .register t ∈ before ∧ t.id = id) :
    ∃ now₁ w₁, Run began (new name config) before now₁ w₁ ∧
      w₁.toCall.countP (·.id == id) ≤ 1 ∧
      after.countP (Incident.calls id) + w.toCall.countP (·.id == id) =
        w₁.toCall.countP (·.id == id) ∧
      (∀ pass deadline later, after = pass ++ .await deadline :: later →
        pass.countP (Incident.calls id) = w₁.toCall.countP (·.id == id) ∧
        later.countP (Incident.calls id) = 0) ∧
      (∀ task, w₁.phase = .running task → after.countP (Incident.calls id) = 0) ∧
      (∀ removed, .cancel id removed ∈ after → removed = false) ∧
      (w₁.toCall ≠ [] → ∃ earlier pass now₀ passBegan w₀, before = earlier ++ .begin :: pass ∧
        Run began (new name config) earlier now₀ w₀ ∧ now₀ ≤ passBegan ∧
        (w₀.timers.takeDue passBegan).1 = called pass ++ w₁.toCall ∧
        (∀ t ∈ called pass, ∀ other ∈ w₁.toCall, t.id < other.id) ∧
        ∀ deadline, .await deadline ∉ pass) := by
  obtain ⟨now₁, w₁, hbefore, hrest⟩ := h.split
  obtain ⟨t, hmem, rfl⟩ := hregistered
  have hissued := hbefore.issued.2 t hmem
  have hnew : (new name config : Worker α τ).Numbered := numbered_new name config
  cases hrest with
  | @step _ now₂ _ _ w₂ _ _ _ hle hcancel hafter =>
    obtain rfl := hcancel.eq_cancelTimer
    have hlacks := lacks_cancelTimer hissued
    obtain ⟨hcount, -, hremoved⟩ := hafter.countP_calls hlacks
    have hcount : after.countP (Incident.calls t.id) + w.toCall.countP (·.id == t.id) =
        w₁.toCall.countP (·.id == t.id) := hcount
    refine ⟨now₁, w₁, hbefore, (hbefore.numbered hnew).countP_toCall_le t.id, hcount, ?_, ?_,
      hremoved, fun hleft => ?_⟩
    · rintro pass deadline later rfl
      exact hafter.countP_calls_of_await hlacks
    · intro task hphase
      have hnil : w₁.toCall = [] := by simp [toCall, hphase]
      rw [hnil, List.countP_nil] at hcount
      exact (Nat.add_eq_zero_iff.mp hcount).1
    · obtain ⟨earlier, pass, now₀, passBegan, w₀, hsplit, hearlier, hle₀, hfound, hpass⟩ :=
        hbefore.underWay rfl hleft
      have hascending := (hearlier.numbered hnew).timers.ascending.filter (·.isDue passBegan)
      have hordered : (called pass ++ w₁.toCall).Pairwise (·.id < ·.id) := hfound ▸ hascending
      exact ⟨earlier, pass, now₀, passBegan, w₀, hsplit, hearlier, hle₀, hfound,
        (List.pairwise_append.mp hordered).2.2, hpass⟩

/-- Two timers are due in one pass. The first one cancels the second one, which was registered and
is gone by then, and the second one is called after that. -/
theorem Run.cancelled_timer_ends_with_pass_of_batch :
    let first : Timer String := ⟨0, ⟨10⟩, 10, "first"⟩
    let second : Timer String := ⟨1, ⟨10⟩, 10, "second"⟩
    let before : List (Incident Unit String) :=
      [.register first, .register second, .begin, .fire first]
    let after : List (Incident Unit String) := [.fire second, .await 20]
    ∃ w, Run 0 (new "worker" {}) (before ++ .cancel 1 true :: after) 10 w ∧
      (∃ t, .register t ∈ before ∧ t.id = 1) ∧ w.timers.contains 1 = false ∧
      after.countP (Incident.calls 1) = 1 ∧
      ∃ now₁ w₁, Run 0 (new "worker" {}) before now₁ w₁ ∧ w₁.toCall.countP (·.id == 1) = 1 := by
  intro first second before after
  let state (phase : Phase Unit String) (timers : TimerSet String) : Worker Unit String :=
    { room := { queue := { name := "worker" } }, phase, timers }
  let armed : List (Timer String) := [{ first with nextDue := 20 }, { second with nextDue := 20 }]
  let left : List (Timer String) := [{ first with nextDue := 20 }]
  have hfirst : Performs 0 (new "worker" {}) (.register first) (state .passing ⟨[first], 1⟩) :=
    .register ⟨10⟩ "first"
  have hsecond : Performs 0 (state .passing ⟨[first], 1⟩) (.register second)
      (state .passing ⟨[first, second], 2⟩) := .register ⟨10⟩ "second"
  have hbegin : Performs 10 (state .passing ⟨[first, second], 2⟩) .begin
      (state (.firing 10 [first, second]) ⟨armed, 2⟩) := .begin rfl
  have hfire : Performs 10 (state (.firing 10 [first, second]) ⟨armed, 2⟩) (.fire first)
      (state (.firing 10 [second]) ⟨armed, 2⟩) := .fire rfl
  have hcancel : Performs 10 (state (.firing 10 [second]) ⟨armed, 2⟩) (.cancel 1 true)
      (state (.firing 10 [second]) ⟨left, 2⟩) := .cancel 1
  have hcalled : Performs 10 (state (.firing 10 [second]) ⟨left, 2⟩) (.fire second)
      (state (.firing 10 []) ⟨left, 2⟩) := .fire rfl
  have hawait : Performs 10 (state (.firing 10 []) ⟨left, 2⟩) (.await 20)
      { state (.waiting 20 false) ⟨left, 2⟩ with lastAlive := 10 } := .await rfl
  have hrun : Run 0 (new "worker" {}) (before ++ .cancel 1 true :: after) 10
      { state (.waiting 20 false) ⟨left, 2⟩ with lastAlive := 10 } :=
    hfirst.run.append <| hsecond.run.append <| .step (by decide) hbegin <|
      hfire.run.append <| hcancel.run.append <| hcalled.run.append hawait.run
  have hregistered : ∃ t, .register t ∈ before ∧ t.id = 1 := ⟨second, by simp [before], rfl⟩
  obtain ⟨now₁, w₁, hbefore, -, -, hpass, -⟩ :=
    hrun.cancelled_timer_ends_with_pass hregistered
  obtain ⟨hcount, -⟩ := hpass [.fire second] 20 [] rfl
  exact ⟨_, hrun, hregistered, rfl, rfl, now₁, w₁, hbefore, hcount.symm⟩

end Courier.Worker
