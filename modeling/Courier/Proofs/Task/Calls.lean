import Courier.Proofs.Task.Switchboard

/-!
# What callers are told

A caller is told the truth about its work: a result only if the work has run, once, and has come to
this result; that the work panicked only if it has run, once, and panicked; that it was refused or
dropped only if it has not run and never will; and that it took too long only if it was accepted and
had not come to its end by then.
-/

namespace Courier.Switchboard

variable {α β τ : Type} {name : String} {config : QueueConfig} {began now now' : Time} {n : Nat}
  {s s' : Switchboard α β τ} {e : Event α β τ} {events before after : List (Event α β τ)}
  {c : Caller α β} {i : Worker.Incident (Duty α) τ} {w : Worker (Duty α) τ}

/-! ## The worker and all its callers -/

/-- A worker and its callers at any time. -/
structure Sound (name : String) (config : QueueConfig) (s : Switchboard α β τ) : Prop where
  named : s.worker.name = name
  configured : s.worker.room.queue.config = config
  stands : ∃ closed, s.worker.Stands closed
  distinct : s.worker.room.Distinct
  views : ∀ n, (s.view n).Sound name config

/-- Nobody has called a new worker. -/
theorem sound_new (name : String) (config : QueueConfig) :
    (new name config : Switchboard α β τ).Sound name config where
  named := rfl
  configured := rfl
  stands := ⟨none, Worker.stands_new name config⟩
  distinct := .nil
  views n := ⟨rfl, fun c error hc => by cases hc⟩

/-- Replacing a caller is seen by its own call. -/
@[simp] theorem view_setCaller_self (s : Switchboard α β τ) (n : Nat) (c : Caller α β) :
    (s.setCaller n c).view n = { s.view n with caller := some c } := by
  simp [view, setCaller]

/-- No other call sees it. -/
theorem view_setCaller_of_ne (s : Switchboard α β τ) {m : Nat} (h : n ≠ m) (c : Caller α β) :
    (s.setCaller m c).view n = s.view n := by
  simp [view, setCaller, h]

/-- Nothing is lost of what a worker holds: what comes in is held or goes out again. -/
theorem Sound.held_countP (hs : s.Sound name config) (h : Worker.Performs now s.worker i w)
    (p : Task (Duty α) → Bool) :
    i.parted.countP p + w.room.held.countP p =
      i.brought.countP p + s.worker.room.held.countP p := by
  obtain ⟨closed, hstands⟩ := hs.stands
  have hperm := (h.held_perm hstands hs.distinct).countP_eq p
  rwa [List.countP_append, List.countP_append] at hperm

/-- A task is refused because the queue is full or the thread has stopped. -/
theorem Sound.mem_refusals (hs : s.Sound name config) (h : Worker.Performs now s.worker i w)
    {t : Task (Duty α)} {offer : Offer} (hi : i.deals = [.push t offer]) (error : TaskError)
    (hoffer : offer = .refused error) : error ∈ refusals name config := by
  have hrun := h.deals_run
  rw [hi, hoffer] at hrun
  have hmax : s.worker.room.queue.maxDepth = config.maxDepth.toNat :=
    congrArg (·.maxDepth.toNat) hs.configured
  cases hrun with
  | step hpush _ =>
    have heq := hpush.refused_eq
    rw [hmax, show s.worker.room.queue.name = name from hs.named] at heq
    rcases heq with rfl | rfl <;> simp [refusals]

/-- A call that an incident is not about is not touched by it. -/
theorem Sound.view_worker (hs : s.Sound name config) (h : Worker.Performs now s.worker i w)
    (hnone : ∀ t ∈ i.tasks, ¬ t.isCall n = true) : { s with worker := w }.view n = s.view n := by
  have hheld := hs.held_countP h (Task.isCall n)
  rw [List.countP_eq_zero.mpr fun t ht => hnone t (i.brought_subset ht),
    List.countP_eq_zero.mpr fun t ht => hnone t (i.parted_subset ht), Nat.zero_add,
    Nat.zero_add] at hheld
  simp only [view, hheld]

/-- What is about no call is a turn of none. -/
theorem Sound.turn_other (hs : s.Sound name config) (h : Worker.Performs now s.worker i w)
    (hothers : ∀ t ∈ i.tasks, ∃ work, t.work = .other work) (n : Nat) :
    Turn name config now n (.work i : Event α β τ) (s.view n) ({ s with worker := w }.view n) := by
  have hnone : ∀ t ∈ i.tasks, ¬ t.isCall n = true := by
    intro t ht
    obtain ⟨work, hwork⟩ := hothers t ht
    simp [Task.isCall, hwork]
  rw [hs.view_worker h hnone]
  refine .aside ?_ rfl
  exact List.any_eq_false.mpr fun t ht => hnone t (i.started_subset ht)

/-- A caller that tries again has its turn, and nobody else. -/
theorem Sound.turn_retry {priority : Priority} {m : Nat} {offer : Offer}
    (hs : s.Sound name config)
    (h : Worker.Performs now s.worker (.retry ⟨priority, .call m⟩ offer) w)
    (hc : s.callers m = some c) (n : Nat) :
    Turn name config now n (.work (.retry ⟨priority, .call m⟩ offer) : Event α β τ) (s.view n)
      (({ s with worker := w }.setCaller m (.offered c.delegate now offer)).view n) := by
  by_cases hn : n = m
  · subst hn
    obtain ⟨held, hsplit⟩ : ∃ held, s.worker.room.held.countP (Task.isCall n) = held + 1 :=
      Nat.exists_eq_add_one.mpr
        (List.countP_pos_iff.mpr ⟨_, h.mem_held_of_retry, isCall_self ..⟩)
    have hleft : w.room.held.countP (Task.isCall n) = held + offer.copies := by
      have hheld := hs.held_countP h (Task.isCall n)
      cases offer <;> simp [Worker.Incident.parted, Worker.Incident.brought, Offer.admits,
        Offer.copies, isCall_self] at hheld ⊢ <;> omega
    rw [view_setCaller_self, view, view, hsplit, hleft, hc]
    exact .retry (hs.mem_refusals h rfl)
  · rw [view_setCaller_of_ne _ hn,
      hs.view_worker h (by simp [Worker.Incident.tasks, isCall_of_ne hn])]
    exact .aside rfl rfl

/-- A caller that comes has its turn, and nobody else. -/
theorem Sound.turn_call {m : Nat} {d : WaitDelegate Unit α} {offer : Offer}
    (hs : s.Sound name config) (hnew : s.callers m = none)
    (h : Worker.Performs now s.worker (.post ⟨d.priority, .call m⟩ offer) w) (n : Nat) :
    Turn name config now n (.call m d offer : Event α β τ) (s.view n)
      (({ s with worker := w }.setCaller m (.offered d now offer)).view n) := by
  by_cases hn : n = m
  · subst hn
    have hleft : w.room.held.countP (Task.isCall n) =
        s.worker.room.held.countP (Task.isCall n) + offer.copies := by
      have hheld := hs.held_countP h (Task.isCall n)
      cases offer <;> simp [Worker.Incident.parted, Worker.Incident.brought, Offer.admits,
        Offer.copies, isCall_self] at hheld ⊢ <;> omega
    rw [view_setCaller_self, view, view, hleft, hnew]
    exact .call (hs.mem_refusals h rfl)
  · rw [view_setCaller_of_ne _ hn,
      hs.view_worker h (by simp [Worker.Incident.tasks, isCall_of_ne hn])]
    exact .aside rfl rfl

/-- The call whose work starts has its turn, and no other. -/
theorem Sound.turn_start {priority : Priority} {m : Nat} (hs : s.Sound name config)
    (h : Worker.Performs now s.worker (.look (.start ⟨priority, .call m⟩)) w)
    (hidle : s.active = []) (n : Nat) :
    Turn name config now n (.work (.look (.start ⟨priority, .call m⟩)) : Event α β τ) (s.view n)
      ({ s with worker := w, active := [m] }.view n) := by
  by_cases hn : n = m
  · subst hn
    have hleft : s.worker.room.held.countP (Task.isCall n) =
        w.room.held.countP (Task.isCall n) + 1 := by
      have hheld := hs.held_countP h (Task.isCall n)
      simp [Worker.Incident.parted, Worker.Incident.brought, isCall_self] at hheld
      omega
    rw [view, view, hleft, hidle, List.count_nil, List.count_singleton_self]
    exact .start
  · have hview : { s with worker := w }.view n = s.view n :=
      hs.view_worker h (by simp [Worker.Incident.tasks, isCall_of_ne hn])
    have hactive : { s with worker := w, active := [m] }.view n = s.view n := by
      rw [← hview]
      simp [view, hidle, Ne.symm hn]
    rw [hactive]
    refine .aside ?_ rfl
    simp [Event.starts, Worker.Incident.started, isCall_of_ne hn]

/-- When the loop leaves, each call has its turn whose work is dropped. -/
theorem Sound.turn_leave {dropped : List (Task (Duty α))} (hs : s.Sound name config)
    (h : Worker.Performs now s.worker (.look (.leave dropped)) w) (n : Nat) :
    Turn name config now n (.work (.look (.leave dropped)) : Event α β τ) (s.view n)
      (({ s with worker := w }.dropAll dropped).view n) := by
  cases hlost : dropped.countP (Task.isCall n) with
  | zero =>
    have hnone := List.countP_eq_zero.mp hlost
    have hview : ({ s with worker := w }.dropAll dropped).view n = s.view n := by
      rw [← hs.view_worker h hnone]
      simp only [view, dropAll, List.any_eq_false.mpr hnone]
      rfl
    rw [hview]
    exact .aside rfl rfl
  | succ lost =>
    have hsome : dropped.any (Task.isCall n) = true :=
      List.any_eq_true.mpr (List.countP_pos_iff.mp (by omega))
    have hheld : s.worker.room.held.countP (Task.isCall n) =
        w.room.held.countP (Task.isCall n) + (lost + 1) := by
      have hheld := hs.held_countP h (Task.isCall n)
      simp only [Worker.Incident.parted, Worker.Incident.brought, List.countP_nil, hlost] at hheld
      omega
    rw [view, view, hheld]
    simp only [dropAll, hsome, if_true]
    exact .leave

/-- What an event comes to for each call. -/
theorem Performs.turn (h : Performs now s e s') (hs : s.Sound name config) (n : Nat) :
    Turn name config now n e (s.view n) (s'.view n) := by
  cases h with
  | other hperforms hothers => exact hs.turn_other hperforms hothers n
  | retry hperforms hc => exact hs.turn_retry hperforms hc n
  | start hperforms hidle => exact hs.turn_start hperforms hidle n
  | leave hperforms => exact hs.turn_leave hperforms n
  | call hnew _ hperforms => exact hs.turn_call hnew hperforms n
  | @inline m d _ hnew =>
    by_cases hn : n = m
    · subst hn
      rw [view_setCaller_self, view, view, hnew, List.count_cons_self]
      exact .inline
    · have hother : { s with active := m :: s.active }.view n = s.view n := by
        simp [view, Ne.symm hn]
      rw [view_setCaller_of_ne _ hn, hother]
      exact .aside (by simpa [Event.starts] using Ne.symm hn) rfl
  | @unbound m d hnew =>
    by_cases hn : n = m
    · subst hn
      rw [view_setCaller_self, view, hnew]
      exact .unbound
    · rw [view_setCaller_of_ne _ hn]
      exact .aside rfl rfl
  | @ended m rest c ending hactive hc =>
    by_cases hn : n = m
    · subst hn
      rw [view_setCaller_self, view, view, hc, hactive, List.count_cons_self]
      exact .ended
    · have hother : { s with active := rest }.view n = s.view n := by
        simp [view, hactive, Ne.symm hn]
      rw [view_setCaller_of_ne _ hn, hother]
      exact .aside rfl (if_neg (Ne.symm hn))
  | @answered m c result hc =>
    by_cases hn : n = m
    · subst hn
      rw [view_setCaller_self, view, hc]
      exact .answered
    · rw [view_setCaller_of_ne _ hn]
      exact .aside rfl rfl

/-- What happens to the worker in an event. -/
def Event.incidents : Event α β τ → List (Worker.Incident (Duty α) τ)
  | .work i => [i]
  | .call n d offer => [.post ⟨d.priority, .call n⟩ offer]
  | _ => []

/-- What happens to a worker and its callers happens to the worker. -/
theorem Performs.worker_run (h : Performs now s e s') :
    Worker.Run now s.worker e.incidents now s'.worker := by
  cases h with
  | other hperforms => exact hperforms.run
  | retry hperforms => exact hperforms.run
  | start hperforms => exact hperforms.run
  | leave hperforms => exact hperforms.run
  | call _ _ hperforms => exact hperforms.run
  | _ => exact .stop

/-- The calls are in order after everything that can happen. -/
theorem Performs.sound (h : Performs now s e s') (hs : s.Sound name config) :
    s'.Sound name config := by
  have hrun := h.worker_run
  obtain ⟨hname, hconfig, -⟩ := hrun.deals_run.frame
  obtain ⟨closed, hstands⟩ := hs.stands
  exact ⟨hname.trans hs.named, hconfig.trans hs.configured, hrun.stands hstands,
    hrun.distinct hs.distinct, fun n => (h.turn hs n).sound (hs.views n)⟩

/-! ## From event to event -/

/-- How often the work of a call starts to run. -/
def starts (n : Nat) (events : List (Event α β τ)) : Nat := events.countP (Event.starts n)

/-- How the work of a call ends, each time that it does. -/
def endings (n : Nat) (events : List (Event α β τ)) : List (Ending β) :=
  events.flatMap (Event.endings n)

/-- A run can be divided anywhere. -/
theorem Run.split (h : Run now s (before ++ after) now' s') :
    ∃ now₁ s₁, Run now s before now₁ s₁ ∧ Run now₁ s₁ after now' s' := by
  induction before generalizing now s with
  | nil => exact ⟨now, s, .stop, h⟩
  | cons e before ih =>
    cases h with
    | step hle hperforms hrun =>
      obtain ⟨now₁, s₁, hbefore, hafter⟩ := ih hrun
      exact ⟨now₁, s₁, .step hle hperforms hbefore, hafter⟩

/-- The calls are in order throughout a run. -/
theorem Run.sound (h : Run now s events now' s') (hs : s.Sound name config) :
    s'.Sound name config := by
  induction h with
  | stop => exact hs
  | step _ hperforms _ ih => exact ih (hperforms.sound hs)

/-- The work of a call that is known has started as often as it has ended or still runs, and its
fate tells how it has ended. -/
theorem Run.tally (h : Run now s events now' s') (hs : s.Sound name config) (n : Nat) :
    (s.view n).active + starts n events = (s'.view n).active + (endings n events).length ∧
      (s.view n).fate.endings ++ endings n events = (s'.view n).fate.endings := by
  induction h with
  | stop => exact ⟨rfl, List.append_nil _⟩
  | step _ hperforms _ ih =>
    have hturn := hperforms.turn hs n
    obtain ⟨hstarts, hendings⟩ := ih (hperforms.sound hs)
    have hactive := hturn.active_eq
    constructor
    · simp only [starts, endings, List.countP_cons, List.flatMap_cons, List.length_append]
        at hstarts ⊢
      omega
    · rw [← hendings, ← hturn.endings_eq (hs.views n), List.append_assoc]
      rfl

/-- From the beginning, the work of a call has started as often as it runs or has ended, and its
fate tells how. -/
theorem Run.tally_of_new (h : Run began (new name config) events now s) (n : Nat) :
    starts n events = (s.view n).active + (endings n events).length ∧
      endings n events = (s.view n).fate.endings := by
  obtain ⟨hstarts, hendings⟩ := h.tally (sound_new name config) n
  exact ⟨(Nat.zero_add _).symm.trans hstarts, hendings⟩

/-- What has become of the work of a call stays so. -/
theorem Run.fate_eq (h : Run now s events now' s') (hs : s.Sound name config)
    (hc : s.callers n = some c) (hfate : c.fate ≠ .queued) :
    ∃ c', s'.callers n = some c' ∧ c'.fate = c.fate := by
  induction h generalizing c with
  | stop => exact ⟨c, hc, rfl⟩
  | step _ hperforms _ ih =>
    obtain ⟨c₁, hc₁, hfate₁⟩ := (hperforms.turn hs n).fate_eq (hs.views n) hc hfate
    rw [← hfate₁] at hfate ⊢
    exact ih (hperforms.sound hs) hc₁ hfate

/-- Who waits for a result was accepted in the run, or waited before it. -/
theorem Run.accepted (h : Run now s events now' s') (hs : s.Sound name config) {since : Time}
    (hc : s'.callers n = some c) (hstage : c.stage = .waiting since) :
    events.any (Event.accepts n) = true ∨
      ∃ c₀ since, s.callers n = some c₀ ∧ c₀.stage = .waiting since := by
  induction h with
  | stop => exact .inr ⟨c, since, hc, hstage⟩
  | step _ hperforms _ ih =>
    rcases ih (hperforms.sound hs) hc with haccepted | ⟨c₁, since₁, hc₁, hstage₁⟩
    · exact .inl (by rw [List.any_cons, haccepted, Bool.or_true])
    · rcases (hperforms.turn hs n).accepts_or hc₁ hstage₁ with haccepts | hearlier
      · exact .inl (by rw [List.any_cons, haccepts, Bool.true_or])
      · exact .inr hearlier

/-- A caller was made in the run by a call through its delegate, or was there before. -/
theorem Run.delegate (h : Run now s events now' s') (hs : s.Sound name config)
    (hc : s'.callers n = some c) :
    (∃ e ∈ events, e.delegate? n = some c.delegate) ∨
      ∃ c₀, s.callers n = some c₀ ∧ c₀.delegate = c.delegate := by
  induction h with
  | stop => exact .inr ⟨c, hc, rfl⟩
  | @step _ _ _ _ _ _ e _ _ hperforms _ ih =>
    rcases ih (hperforms.sound hs) hc with ⟨e', he', hmade⟩ | ⟨c₁, hc₁, hsame⟩
    · exact .inl ⟨e', List.mem_cons_of_mem e he', hmade⟩
    · rcases (hperforms.turn hs n).delegate_or hc₁ with hmade | ⟨c₀, hc₀, hsame₀⟩
      · exact .inl ⟨e, List.mem_cons_self, hsame ▸ hmade⟩
      · exact .inr ⟨c₀, hc₀, hsame₀.trans hsame⟩

/-! ## The truth -/

/-- When what a caller is told is true, by what happened before it was told and by all that happens,
also later. -/
inductive Truth (name : String) (config : QueueConfig) (before events : List (Event α β τ))
    (n : Nat) : Except TaskError β → Prop
  /-- Its work has run, once, and returned this. -/
  | returned {value : β} : endings n before = [some value] → endings n events = [some value] →
      starts n events = 1 → Truth name config before events n (.ok value)
  /-- Its work has run, once, and panicked. -/
  | panicked : endings n before = [none] → endings n events = [none] → starts n events = 1 →
      Truth name config before events n (.error (.panicked name))
  /-- Its work never runs. -/
  | refused {error : TaskError} : error ∈ refusals name config → starts n events = 0 →
      Truth name config before events n (.error error)
  /-- Its work was accepted, and had not come to its end. -/
  | late {d : WaitDelegate Unit α} : (∃ e ∈ before, e.delegate? n = some d) →
      before.any (Event.accepts n) = true → endings n before = [] →
      Truth name config before events n
        (.error (.timeout (Call.operation name) d.timeout.millis64.toNat))

/-- On the thread of the worker a caller is told the same as on another one. -/
theorem answer_ofEnding (thread : String) (timeout : Duration) (ending : Ending β) :
    Call.answer thread timeout (.ofEnding ending) = Call.inline thread ending := by
  cases ending <;> rfl

/-- What has ended is not queued. -/
theorem ofEnding_ne_queued (ending : Ending β) : Fate.ofEnding ending ≠ .queued := by
  cases ending <;> simp [Fate.ofEnding]

/-- The fate of the work is the truth about it, if the fate stays. -/
theorem Truth.of_fate {fate : Fate β} (hfate : fate ≠ .queued) (timeout : Duration)
    (hbefore : endings n before = fate.endings) (hendings : endings n events = fate.endings)
    (hstarts : starts n events = fate.endings.length) :
    Truth name config before events n (Call.answer name timeout fate) := by
  cases fate with
  | queued => exact absurd rfl hfate
  | returned value => exact .returned hbefore hendings hstarts
  | panicked => exact .panicked hbefore hendings hstarts
  | dropped => exact .refused (by simp [refusals]) hstarts

/-- Work that has come to its end, or never will, has started as often as it has ended. -/
theorem Run.tally_of_fate (h : Run began (new name config) events now s)
    (hc : s.callers n = some c) (hfate : c.fate ≠ .queued) :
    endings n events = c.fate.endings ∧ starts n events = c.fate.endings.length := by
  have hview := (h.sound (sound_new name config)).views n
  have hsame : (s.view n).fate = c.fate := by rw [View.fate, view, hc]
  obtain ⟨hstarts, hendings⟩ := h.tally_of_new n
  rw [hsame] at hendings
  have hidle : (s.view n).active = 0 := by
    refine Classical.byContradiction fun hruns => hfate ?_
    exact hsame ▸ hview.fate_eq_queued (by omega)
  rw [hidle, hendings, Nat.zero_add] at hstarts
  exact ⟨hendings, hstarts⟩

/-- From the beginning, every answer is the truth about its call. -/
theorem Run.truth {result : Except TaskError β}
    (h : Run began (new name config) (before ++ .answered n result :: after) now s) :
    Truth name config before (before ++ .answered n result :: after) n result := by
  have hnew : (new name config : Switchboard α β τ).Sound name config := sound_new name config
  obtain ⟨now₁, s₁, hbefore, hrest⟩ := h.split
  have hs₁ := hbefore.sound hnew
  generalize hall : before ++ Event.answered n result :: after = events at h
  -- Whatever the caller has heard of its work was so before and stays so.
  have hlasting (c : Caller α β) (hc : s₁.callers n = some c) (hfate : c.fate ≠ .queued) :
      endings n before = c.fate.endings ∧ endings n events = c.fate.endings ∧
        starts n events = c.fate.endings.length := by
    obtain ⟨c', hc', hsame⟩ := hrest.fate_eq hs₁ hc hfate
    rw [← hsame] at hfate
    obtain ⟨hendings, hstarts⟩ := h.tally_of_fate hc' hfate
    rw [hsame] at hendings hstarts
    exact ⟨(hbefore.tally_of_fate hc (hsame ▸ hfate)).1, hendings, hstarts⟩
  cases hrest with
  | step _ hanswered _ =>
    cases hanswered with
    | @answered _ c _ hc hanswers =>
      rw [hs₁.named] at hanswers
      cases hanswers with
      | refused hstage =>
        obtain ⟨hdropped, herror⟩ := (hs₁.views n).refused c _ hc hstage
        obtain ⟨-, -, hstarts⟩ := hlasting c hc (by simp [hdropped])
        rw [hdropped] at hstarts
        exact .refused herror hstarts
      | @inline ending _ hended =>
        obtain ⟨hearlier, hendings, hstarts⟩ :=
          hlasting c hc (hended ▸ ofEnding_ne_queued ending)
        rw [← answer_ofEnding name c.delegate.timeout, ← hended]
        exact .of_fate (hended ▸ ofEnding_ne_queued ending) _ hearlier hendings hstarts
      | @waited since hstage =>
        by_cases hfate : c.fate = .queued
        · have hnone := (hbefore.tally_of_new n).2
          rw [View.fate, view, hc] at hnone
          simp only [hfate] at hnone ⊢
          have haccepted := (hbefore.accepted hnew hc hstage).resolve_right (by simp [new])
          have hmade := (hbefore.delegate hnew hc).resolve_right (by simp [new])
          exact .late hmade haccepted hnone
        · obtain ⟨hearlier, hendings, hstarts⟩ := hlasting c hc hfate
          exact .of_fate hfate _ hearlier hendings hstarts

/-- The work of a call starts at most once. -/
theorem Run.starts_le_one (h : Run began (new name config) events now s) (n : Nat) :
    starts n events ≤ 1 := by
  have hcopies := ((h.sound (sound_new name config)).views n).copies
  obtain ⟨hstarts, hendings⟩ := h.tally_of_new n
  have hle : (s.view n).fate.copies + (s.view n).fate.endings.length ≤ 1 := by
    cases (s.view n).fate <;> simp [Fate.copies, Fate.endings]
  rw [hendings] at hstarts
  omega

/-- What happens to the worker is a run of it. -/
theorem Run.worker_run (h : Run now s events now' s') :
    ∃ last, last ≤ now' ∧
      Worker.Run now s.worker (events.flatMap Event.incidents) last s'.worker := by
  induction h with
  | @stop now s => exact ⟨now, Nat.le_refl now, .stop⟩
  | step hle hperforms _ ih =>
    obtain ⟨last, hlast, hrun⟩ := ih
    obtain ⟨last', hlast', hall⟩ := (hperforms.worker_run.append hrun).of_le hle
    exact ⟨last', Nat.le_trans hlast' hlast, hall⟩

/-! ## Other ends -/

/-- The fate of work that comes to another end, if it comes to one. -/
def retoldFate (ending : Ending β) : Fate β → Fate β
  | .returned _ | .panicked => .ofEnding ending
  | fate => fate

/-- A caller whose work comes to another end. -/
def retoldCaller (ending : Ending β) (c : Caller α β) : Caller α β :=
  { c with fate := retoldFate ending c.fate }

/-- What a caller is told whose work comes to another end. -/
def retoldResult (thread : String) (ending : Ending β) :
    Except TaskError β → Except TaskError β
  | .ok _ | .error (.panicked _) => Call.inline thread ending
  | .error error => .error error

/-- What happens if the work of calls comes to other ends. -/
def Event.retold (thread : String) (others : Nat → Ending β) : Event α β τ → Event α β τ
  | .ended n _ => .ended n (others n)
  | .answered n result => .answered n (retoldResult thread (others n) result)
  | e => e

/-- A worker and its callers if the work of calls has come to other ends. -/
def retold (others : Nat → Ending β) (s : Switchboard α β τ) : Switchboard α β τ :=
  { s with callers := fun n => (s.callers n).map (retoldCaller (others n)) }

variable {others : Nat → Ending β}

/-- What has ended comes to the other end. -/
@[simp] theorem retoldFate_ofEnding (ending other : Ending β) :
    retoldFate ending (.ofEnding other) = .ofEnding ending := by
  cases other <;> rfl

/-- Another end does not bring anything back. -/
theorem retoldFate_eq_queued_iff (ending : Ending β) (fate : Fate β) :
    retoldFate ending fate = .queued ↔ fate = .queued := by
  cases fate <;> simp [retoldFate, ofEnding_ne_queued]

/-- A caller that has just come knows of no end. -/
theorem retoldCaller_offered (ending : Ending β) (d : WaitDelegate Unit α) (now : Time)
    (offer : Offer) :
    retoldCaller ending (.offered d now offer : Caller α β) = .offered d now offer := by
  cases offer <;> rfl

/-- The caller is told of the other end. -/
theorem retoldResult_answer (ending : Ending β) (thread : String) (timeout : Duration)
    (fate : Fate β) :
    retoldResult thread ending (Call.answer thread timeout fate) =
      Call.answer thread timeout (retoldFate ending fate) := by
  cases fate with
  | returned => exact (answer_ofEnding thread timeout ending).symm
  | panicked => exact (answer_ofEnding thread timeout ending).symm
  | queued => rfl
  | dropped => rfl

/-- A refusal stays as it is. -/
theorem retoldResult_refused {error : TaskError} (ending : Ending β)
    (h : error ∈ refusals name config) :
    retoldResult name ending (.error error) = .error error := by
  simp only [refusals, List.mem_cons, List.not_mem_nil, or_false] at h
  rcases h with rfl | rfl | rfl <;> rfl

/-- Replacing a caller is the same whatever ends come after it. -/
theorem retold_setCaller (s : Switchboard α β τ) (n : Nat) (c : Caller α β) :
    (s.setCaller n c).retold others =
      (s.retold others).setCaller n (retoldCaller (others n) c) := by
  simp only [retold, setCaller]
  congr 1
  funext m
  by_cases hm : m = n
  · subst hm
    simp
  · simp [hm]

/-- Dropping work is the same whatever ends come after it. -/
theorem retold_dropAll (s : Switchboard α β τ) (dropped : List (Task (Duty α))) :
    (s.dropAll dropped).retold others = (s.retold others).dropAll dropped := by
  simp only [retold, dropAll]
  congr 1
  funext n
  cases s.callers n <;> cases dropped.any (Task.isCall n) <;> rfl

/-- The caller of work that comes to another end is told of that end. -/
theorem answers_retold {result : Except TaskError β} (ending : Ending β)
    (h : c.Answers name now result)
    (hrefused : ∀ error, c.stage = .refused error → error ∈ refusals name config) :
    (retoldCaller ending c).Answers name now (retoldResult name ending result) := by
  cases h with
  | refused hstage =>
    rw [retoldResult_refused ending (hrefused _ hstage)]
    exact .refused hstage
  | waited hstage hlong =>
    rw [retoldResult_answer]
    exact .waited hstage fun hfate => hlong ((retoldFate_eq_queued_iff ending c.fate).mp hfate)
  | @inline other hstage hfate =>
    rw [← answer_ofEnding name c.delegate.timeout, retoldResult_answer, retoldFate_ofEnding,
      answer_ofEnding]
    refine .inline hstage ?_
    rw [retoldCaller, hfate, retoldFate_ofEnding]

/-- Whatever ends the work comes to, everything else goes the same way. -/
theorem Performs.retold (h : Performs now s e s') (hs : s.Sound name config)
    (others : Nat → Ending β) :
    Performs now (s.retold others) (e.retold name others) (s'.retold others) := by
  have hknown {n : Nat} {caller : Option (Caller α β)} (hc : s.callers n = caller) :
      (s.retold others).callers n = caller.map (retoldCaller (others n)) :=
    congrArg (Option.map _) hc
  cases h with
  | other hperforms hothers hown => exact .other hperforms hothers hown
  | retry hperforms hc =>
    rw [retold_setCaller, retoldCaller_offered]
    exact .retry (c := retoldCaller (others _) _) hperforms (hknown hc)
  | start hperforms hidle => exact .start hperforms hidle
  | leave hperforms hidle =>
    rw [retold_dropAll]
    exact .leave hperforms hidle
  | call hnew hbound hperforms =>
    rw [retold_setCaller, retoldCaller_offered]
    exact .call (hknown hnew) hbound hperforms
  | inline hnew hbound hphase =>
    rw [retold_setCaller]
    exact .inline (hknown hnew) hbound hphase
  | unbound hnew hbound =>
    rw [retold_setCaller]
    exact .unbound (hknown hnew) hbound
  | @ended n rest c ending hactive hc =>
    have hended : retoldCaller (others n) { c with fate := .ofEnding ending } =
        { retoldCaller (others n) c with fate := .ofEnding (others n) } := by
      simp [retoldCaller]
    rw [retold_setCaller, hended]
    exact .ended (others n) hactive (hknown hc)
  | @answered n c result hc hanswers =>
    have hnamed : (s.retold others).worker.name = name := hs.named
    rw [hs.named] at hanswers
    rw [retold_setCaller]
    refine .answered (hknown hc) ?_
    rw [hnamed]
    exact answers_retold (others n) hanswers fun error hstage =>
      ((hs.views n).refused c error hc hstage).2

/-- Whatever ends the work of calls comes to, the run is the same but for what their callers are
told. -/
theorem Run.retold (h : Run now s events now' s') (hs : s.Sound name config)
    (others : Nat → Ending β) :
    Run now (s.retold others) (events.map (Event.retold name others)) now'
      (s'.retold others) := by
  induction h with
  | stop => exact .stop
  | step hle hperforms _ ih =>
    exact .step hle (hperforms.retold hs others) (ih (hperforms.sound hs))

/-! ## What callers hear -/

/-- The work of a call starts at most once, and whatever its caller is told of it is true. The work
of calls does not disturb the worker: what happens to it is a run of a worker like any other, and
had the work of calls come to other ends, by panics or not, all would have gone the same way but for
what the callers of this work are told. -/
theorem Run.callers_hear_truth (h : Run began (new name config) events now s) :
    (∀ n, starts n events ≤ 1) ∧
      (∀ before n result after, events = before ++ .answered n result :: after →
        Truth name config before events n result) ∧
      (∃ last, last ≤ now ∧
        Worker.Run began (.new name config) (events.flatMap Event.incidents) last s.worker) ∧
      ∀ others : Nat → Ending β,
        Run began (new name config) (events.map (Event.retold name others)) now
          (s.retold others) := by
  refine ⟨h.starts_le_one, ?_, h.worker_run, h.retold (sound_new name config)⟩
  rintro before n result after rfl
  exact h.truth

/-- There is room for one task. While the work of one call runs another call is accepted and a third
one is refused. The first one panics, the second caller does not wait, and its work runs all the
same. -/
theorem Run.callers_hear_truth_of_panic :
    let config : QueueConfig := { maxDepth := 1, fullPolicy := .fail }
    let d : WaitDelegate Unit String := { binding := .of () "target", timeout := ⟨0⟩ }
    let before : List (Event String Nat Unit) :=
      [.call 0 d .accepted, .work .begin, .work (.await 100000000),
        .work (.look (.start ⟨.normal, .call 0⟩)), .call 1 d .accepted,
        .call 2 d (.refused (.queueFull "worker" 1)),
        .answered 2 (.error (.queueFull "worker" 1)), .ended 0 none]
    let after : List (Event String Nat Unit) :=
      [.answered 1 (.error (.timeout (Call.operation "worker") 0)), .work (.finish false),
        .work .begin, .work (.await 100000000), .work (.look (.start ⟨.normal, .call 1⟩)),
        .ended 1 (some 7)]
    let events := before ++ .answered 0 (.error (.panicked "worker")) :: after
    ∃ s, Run 0 (new "worker" config) events 0 s ∧
      Truth "worker" config before events 0 (.error (.panicked "worker")) ∧
      starts 1 events ≤ 1 ∧ endings 1 events = [some 7] := by
  intro config d before after events
  let state (phase : Phase (Duty String) Unit) (entries : List (Entry (Duty String)))
      (nextTicket depth : Nat) : Worker (Duty String) Unit :=
    { room := { queue := { name := "worker", config, entries, nextTicket, depth } }, phase }
  let first : Task (Duty String) := ⟨.normal, .call 0⟩
  let second : Task (Duty String) := ⟨.normal, .call 1⟩
  have hcall : Worker.Performs 0 (.new "worker" config) (.post first .accepted)
      (state .passing [⟨2, 0, some first⟩] 1 1) := .post 0 first (by simp [Worker.new])
  have hbegin : Worker.Performs 0 (state .passing [⟨2, 0, some first⟩] 1 1) .begin
      (state (.firing 0 []) [⟨2, 0, some first⟩] 1 1) := .begin rfl
  have hawait : Worker.Performs 0 (state (.firing 0 []) [⟨2, 0, some first⟩] 1 1)
      (.await 100000000) (state (.waiting 100000000 false) [⟨2, 0, some first⟩] 1 1) := .await rfl
  have hstart : Worker.Performs 0 (state (.waiting 100000000 false) [⟨2, 0, some first⟩] 1 1)
      (.look (.start first)) (state (.running first) [] 1 0) := .look rfl
  have hcall₂ : Worker.Performs 0 (state (.running first) [] 1 0) (.post second .accepted)
      (state (.running first) [⟨2, 1, some second⟩] 2 1) := .post 0 second (by simp [state])
  have hfull : Worker.Performs 0 (state (.running first) [⟨2, 1, some second⟩] 2 1)
      (.post ⟨.normal, .call 2⟩ (.refused (.queueFull "worker" 1)))
      (state (.running first) [⟨2, 1, some second⟩] 2 1) := .post 0 _ (by simp [state])
  have hfinish : Worker.Performs 0 (state (.running first) [⟨2, 1, some second⟩] 2 1)
      (.finish false) (state .passing [⟨2, 1, some second⟩] 2 1) := .finish false rfl
  have hbegin₂ : Worker.Performs 0 (state .passing [⟨2, 1, some second⟩] 2 1) .begin
      (state (.firing 0 []) [⟨2, 1, some second⟩] 2 1) := .begin rfl
  have hawait₂ : Worker.Performs 0 (state (.firing 0 []) [⟨2, 1, some second⟩] 2 1)
      (.await 100000000) (state (.waiting 100000000 false) [⟨2, 1, some second⟩] 2 1) :=
    .await rfl
  have hstart₂ : Worker.Performs 0 (state (.waiting 100000000 false) [⟨2, 1, some second⟩] 2 1)
      (.look (.start second)) (state (.running second) [] 2 0) := .look rfl
  have hrefused : (⟨d, .dropped, .refused (.queueFull "worker" 1)⟩ : Caller String Nat).Answers
      "worker" 0 (.error (.queueFull "worker" 1)) := .refused rfl
  have hpanicked : (⟨d, .panicked, .waiting 0⟩ : Caller String Nat).Answers "worker" 0
      (.error (.panicked "worker")) := .waited rfl nofun
  have hlate : (⟨⟨.of () "target", .normal, ⟨0⟩⟩, .queued, .waiting 0⟩ : Caller String Nat).Answers
      "worker" 0 (.error (.timeout (Call.operation "worker") 0)) :=
    .waited rfl fun _ => Nat.le_refl 0
  have hrun : ∃ s, Run 0 (new "worker" config) events 0 s :=
    ⟨_, .step (Nat.le_refl 0) (.call rfl rfl hcall) <|
      .step (Nat.le_refl 0) (.other hbegin (by simp [Worker.Incident.tasks]) fun _ => rfl) <|
      .step (Nat.le_refl 0) (.other hawait (by simp [Worker.Incident.tasks]) fun _ => rfl) <|
      .step (Nat.le_refl 0) (.start hstart rfl) <|
      .step (Nat.le_refl 0) (.call rfl rfl hcall₂) <|
      .step (Nat.le_refl 0) (.call rfl rfl hfull) <|
      .step (Nat.le_refl 0) (.answered rfl hrefused) <|
      .step (Nat.le_refl 0) (.ended none rfl rfl) <|
      .step (Nat.le_refl 0) (.answered rfl hpanicked) <|
      .step (Nat.le_refl 0) (.answered rfl hlate) <|
      .step (Nat.le_refl 0) (.other hfinish (by simp [Worker.Incident.tasks]) fun _ => rfl) <|
      .step (Nat.le_refl 0) (.other hbegin₂ (by simp [Worker.Incident.tasks]) fun _ => rfl) <|
      .step (Nat.le_refl 0) (.other hawait₂ (by simp [Worker.Incident.tasks]) fun _ => rfl) <|
      .step (Nat.le_refl 0) (.start hstart₂ rfl) <|
      .step (Nat.le_refl 0) (.ended (some 7) rfl rfl) .stop⟩
  obtain ⟨s, hrun⟩ := hrun
  obtain ⟨honce, htruth, -⟩ := hrun.callers_hear_truth
  exact ⟨s, hrun, htruth before 0 _ after rfl, honce 1, rfl⟩

end Courier.Switchboard
