import Courier.Task.Timer
import Mathlib.Data.List.Nodup

/-!
# Timers keep time

A timer is called at most once each time the timers are asked, and is then due again later than
the clock. If it is never asked a whole period late its deadlines stay on the grid that begins
where it was registered; in any case it is called no more often than its period fits into the time
since then.
-/

namespace Courier

namespace Timer

variable {τ : Type} {t : Timer τ} {now : Time}

/-- The timer after it was asked at a clock reading whether it is due. -/
def asked (t : Timer τ) (now : Time) : Timer τ := if t.isDue now then t.rearm now else t

/-- A timer is due from its deadline on. -/
@[simp] theorem isDue_iff : t.isDue now = true ↔ t.nextDue ≤ now := by simp [isDue]

/-- Asking a timer does not change its number. -/
@[simp] theorem id_asked : (t.asked now).id = t.id := by
  unfold asked
  split <;> rfl

/-- Asking a timer does not change its period. -/
@[simp] theorem period_asked : (t.asked now).period = t.period := by
  unfold asked
  split <;> rfl

/-- Asking a timer does not change its callback. -/
@[simp] theorem callback_asked : (t.asked now).callback = t.callback := by
  unfold asked
  split <;> rfl

/-- A timer that is asked too early keeps its deadline. -/
theorem asked_of_lt (h : now < t.nextDue) : t.asked now = t := by
  rw [asked, if_neg (by simpa using h)]

/-- The next deadline lies a period after the last one, or after the clock if that would have
passed already. -/
theorem nextDue_asked_of_le (h : t.nextDue ≤ now) :
    (t.asked now).nextDue =
      if t.nextDue + t.period.nanos ≤ now then now + t.period.nanos
      else t.nextDue + t.period.nanos := by
  rw [asked, if_pos (isDue_iff.mpr h)]
  rfl

/-- The next deadline lies a period after the last one, or farther off. -/
theorem le_nextDue_asked (h : t.nextDue ≤ now) :
    t.nextDue + t.period.nanos ≤ (t.asked now).nextDue := by
  rw [nextDue_asked_of_le h]
  split <;> lia

/-- A timer that is asked less than a period late keeps to its grid. -/
theorem nextDue_asked_of_lt (h : t.nextDue ≤ now) (hlate : now < t.nextDue + t.period.nanos) :
    (t.asked now).nextDue = t.nextDue + t.period.nanos := by
  rw [nextDue_asked_of_le h, if_neg (Nat.not_le.mpr hlate)]

/-- A timer with a period is not due again until the clock goes on. -/
theorem lt_nextDue_asked (hperiod : 0 < t.period.nanos) : now < (t.asked now).nextDue := by
  by_cases hdue : t.nextDue ≤ now
  · rw [nextDue_asked_of_le hdue]
    split <;> lia
  · rw [asked_of_lt (Nat.not_le.mp hdue)]
    exact Nat.not_le.mp hdue

end Timer

namespace TimerSet

variable {τ : Type} {s s' s₁ : TimerSet τ} {began now now' now₁ start : Time} {id : Nat}
  {period : Duration} {callback : τ} {t : Timer τ}

/-! ## What is done to the timers -/

/-- Something that is done to the timers, with what comes of it. -/
inductive Event (τ : Type) where
  | insert (now : Time) (id : Nat) (period : Duration) (callback : τ)
  | remove (id : Nat) (removed : Bool)
  /-- The timers are asked which of them are due. -/
  | poll (now : Time) (due : List (Timer τ))
  | clear

/-- How the timers change with what is done to them at a clock reading. -/
inductive Performs (now : Time) (s : TimerSet τ) : Event τ → TimerSet τ → Prop
  | insert (period : Duration) (callback : τ) :
      Performs now s (.insert now (s.insert now period callback).1 period callback)
        (s.insert now period callback).2
  | remove (id : Nat) : Performs now s (.remove id (s.remove id).1) (s.remove id).2
  | poll : Performs now s (.poll now (s.takeDue now).1) (s.takeDue now).2
  | clear : Performs now s .clear s.clear

/-- Things done to the timers one after the other, while the clock goes on. -/
inductive Run : Time → TimerSet τ → List (Event τ) → Time → TimerSet τ → Prop
  | stop {now : Time} {s : TimerSet τ} : Run now s [] now s
  | step {now now₁ now' : Time} {s s₁ s' : TimerSet τ} {e : Event τ} {events : List (Event τ)} :
      now ≤ now₁ → Performs now₁ s e s₁ → Run now₁ s₁ events now' s' →
      Run now s (e :: events) now' s'

/-- A run can be taken apart after any of its events. -/
theorem Run.split {before after : List (Event τ)} (h : Run now s (before ++ after) now' s') :
    ∃ now₁ s₁, Run now s before now₁ s₁ ∧ Run now₁ s₁ after now' s' := by
  induction before generalizing now s with
  | nil => exact ⟨now, s, .stop, h⟩
  | cons e before ih =>
    cases h with
    | step hle hperforms hrun =>
      obtain ⟨now₁, s₁, hbefore, hafter⟩ := ih hrun
      exact ⟨now₁, s₁, .step hle hperforms hbefore, hafter⟩

/-! ## Who is registered -/

/-- Timers that are numbered in the order of their registration. -/
structure Numbered (s : TimerSet τ) : Prop where
  ascending : s.entries.Pairwise (·.id < ·.id)
  issued : ∀ t ∈ s.entries, t.id < s.nextId

/-- A set without timers is numbered. -/
theorem numbered_empty : ({} : TimerSet τ).Numbered := ⟨.nil, by simp⟩

/-- To ask the timers is to ask each of them, in its place. -/
theorem entries_takeDue (s : TimerSet τ) (now : Time) :
    (s.takeDue now).2.entries = s.entries.map (·.asked now) := rfl

/-- A new timer gets a number beyond all others. -/
theorem Numbered.insert (h : s.Numbered) (now : Time) (period : Duration) (callback : τ) :
    (s.insert now period callback).2.Numbered where
  ascending := by
    refine List.pairwise_append.mpr ⟨h.ascending, List.pairwise_singleton _ _, ?_⟩
    intro t ht new hnew
    rw [List.mem_singleton.mp hnew]
    exact h.issued t ht
  issued t ht := by
    rcases List.mem_append.mp ht with hold | hnew
    · exact Nat.lt_succ_of_lt (h.issued t hold)
    · rw [List.mem_singleton.mp hnew]
      exact Nat.lt_succ_self _

/-- Taking a timer away leaves the others in their order. -/
theorem Numbered.remove (h : s.Numbered) (id : Nat) : (s.remove id).2.Numbered where
  ascending := h.ascending.filter _
  issued t ht := h.issued t (List.mem_filter.mp ht).1

/-- Asking changes no number. -/
theorem Numbered.takeDue (h : s.Numbered) (now : Time) : (s.takeDue now).2.Numbered where
  ascending := by
    rw [entries_takeDue, List.pairwise_map]
    simpa using h.ascending
  issued t ht := by
    rw [entries_takeDue] at ht
    obtain ⟨t, hold, rfl⟩ := List.mem_map.mp ht
    rw [Timer.id_asked]
    exact h.issued t hold

/-- No timer is left when all of them are taken away. -/
theorem numbered_clear (s : TimerSet τ) : s.clear.Numbered := ⟨.nil, by simp [clear]⟩

/-- Whatever is done to the timers leaves them numbered in their order. -/
theorem Performs.numbered {e : Event τ} (h : Performs now s e s') (hs : s.Numbered) :
    s'.Numbered := by
  cases h with
  | insert period callback => exact hs.insert now period callback
  | remove id => exact hs.remove id
  | poll => exact hs.takeDue now
  | clear => exact s.numbered_clear

/-- Timers stay numbered in their order throughout a run. -/
theorem Run.numbered {events : List (Event τ)} (h : Run now s events now' s') (hs : s.Numbered) :
    s'.Numbered := by
  induction h with
  | stop => exact hs
  | step _ hperforms _ ih => exact ih (hperforms.numbered hs)

/-- A registered timer is the only one with its number. -/
theorem Numbered.filter_id (h : s.Numbered) (ht : t ∈ s.entries) :
    s.entries.filter (·.id == t.id) = [t] := by
  obtain ⟨front, back, hsplit⟩ := List.append_of_mem ht
  have hascending := h.ascending
  rw [hsplit, List.pairwise_append, List.pairwise_cons] at hascending
  obtain ⟨-, ⟨hback, -⟩, hfront⟩ := hascending
  have hnone (other : Timer τ) (hother : other ∈ front ∨ other ∈ back) :
      ¬ (other.id == t.id) = true := by
    rw [beq_iff_eq]
    rcases hother with hother | hother
    · exact Nat.ne_of_lt (hfront other hother t List.mem_cons_self)
    · exact Nat.ne_of_gt (hback other hother)
  rw [hsplit, List.filter_append, List.filter_cons_of_pos (by simp),
    List.filter_eq_nil_iff.mpr fun other hother => hnone other (.inl hother),
    List.filter_eq_nil_iff.mpr fun other hother => hnone other (.inr hother)]
  rfl

/-- Under the number of a registered timer there is, after the timers were asked, that timer after
it was asked. -/
theorem Numbered.eq_asked {u : Timer τ} (h : s.Numbered) (ht : t ∈ s.entries)
    (hu : u ∈ (s.takeDue now).2.entries) (hid : u.id = t.id) : u = t.asked now := by
  rw [entries_takeDue] at hu
  obtain ⟨u, hold, rfl⟩ := List.mem_map.mp hu
  have hmem : u ∈ s.entries.filter (·.id == t.id) :=
    List.mem_filter.mpr ⟨hold, by simpa using hid⟩
  rw [h.filter_id ht] at hmem
  rw [List.mem_singleton.mp hmem]

/-- What stays the same about a timer. -/
def Event.registers (timers : List (Nat × Duration × τ)) : Event τ → List (Nat × Duration × τ)
  | .insert _ id period callback => timers ++ [(id, period, callback)]
  | .remove id _ => timers.filter (·.1 ≠ id)
  | .poll .. => timers
  | .clear => []

/-- The timers that are registered after a run: their numbers, periods and callbacks. -/
def registered (events : List (Event τ)) : List (Nat × Duration × τ) :=
  events.foldl Event.registers []

/-- The number under which an event registers a timer. -/
def Event.inserted? : Event τ → Option Nat
  | .insert _ id _ _ => some id
  | _ => none

/-- The numbers under which timers were registered. -/
def inserted (events : List (Event τ)) : List Nat := events.filterMap Event.inserted?

/-- What is done to the timers changes who is registered in the way its event says. -/
theorem Performs.registers {e : Event τ} (h : Performs now s e s') :
    s'.entries.map (fun t => (t.id, t.period, t.callback)) =
      e.registers (s.entries.map fun t => (t.id, t.period, t.callback)) := by
  cases h with
  | insert period callback => exact List.map_append
  | remove id => simp [TimerSet.remove, Event.registers, List.filter_map, Function.comp_def]
  | poll => simp [entries_takeDue, Event.registers, Function.comp_def]
  | clear => rfl

/-- Who is registered after a run can be told from its events. -/
theorem Run.entries_eq {events : List (Event τ)} (h : Run now s events now' s') :
    s'.entries.map (fun t => (t.id, t.period, t.callback)) =
      events.foldl Event.registers (s.entries.map fun t => (t.id, t.period, t.callback)) := by
  induction h with
  | stop => rfl
  | step _ hperforms _ ih => rw [ih, hperforms.registers, List.foldl_cons]

/-- Numbers are issued one after the other. -/
theorem Run.inserted_eq {events : List (Event τ)} (h : Run now s events now' s') :
    inserted events = List.range' s.nextId (inserted events).length ∧
      s'.nextId = s.nextId + (inserted events).length := by
  induction h with
  | stop => exact ⟨rfl, rfl⟩
  | step _ hperforms _ ih =>
    cases hperforms with
    | insert period callback =>
      obtain ⟨hrest, hnext⟩ := ih
      refine ⟨congrArg (_ :: ·) hrest, hnext.trans ?_⟩
      simp only [TimerSet.insert, inserted, List.filterMap_cons, Event.inserted?, List.length_cons]
      omega
    | remove | poll | clear => exact ih

/-! ## When a timer is called -/

/-- The calls of a timer that an event asks for. -/
def Event.calls (id : Nat) : Event τ → List (Timer τ)
  | .poll _ due => due.filter (·.id == id)
  | _ => []

/-- The calls of a timer in the course of a run, each with the deadline that it was made for. -/
def calls (id : Nat) (events : List (Event τ)) : List (Timer τ) := events.flatMap (Event.calls id)

/-- A timer is never asked a whole period late. -/
def OnTime (id : Nat) (events : List (Event τ)) : Prop :=
  ∀ now due, .poll now due ∈ events → ∀ t ∈ due, t.id = id → now < t.nextDue + t.period.nanos

/-- Whether an event takes a timer away. -/
def Event.ends (id : Nat) : Event τ → Prop
  | .remove other _ => other = id
  | .clear => True
  | _ => False

/-- A timer that is asked in time in a run was so in its beginning. -/
theorem OnTime.of_append {before after : List (Event τ)} (h : OnTime id (before ++ after)) :
    OnTime id before := fun now due hmem => h now due (List.mem_append_left _ hmem)

/-- A timer that is not registered is not called. -/
theorem calls_poll_of_absent (h : ∀ t ∈ s.entries, t.id ≠ id) (now : Time) :
    (Event.poll now (s.takeDue now).1).calls id = [] := by
  refine List.filter_eq_nil_iff.mpr fun t ht => ?_
  rw [beq_iff_eq]
  exact h t (List.mem_filter.mp ht).1

/-- A timer that is registered is called once if it is due. -/
theorem Numbered.calls_poll (h : s.Numbered) (ht : t ∈ s.entries) (now : Time) :
    (Event.poll now (s.takeDue now).1).calls t.id = if t.nextDue ≤ now then [t] else [] := by
  have hdue : (Event.poll now (s.takeDue now).1).calls t.id =
      (s.entries.filter (·.id == t.id)).filter (·.isDue now) := List.filter_comm ..
  rw [hdue, h.filter_id ht, List.filter_singleton]
  simp

/-- A timer that was taken away does not come back, for its number is not issued again. -/
theorem Performs.absent {e : Event τ} (h : Performs now s e s') (hissued : id < s.nextId)
    (habsent : ∀ t ∈ s.entries, t.id ≠ id) :
    e.calls id = [] ∧ id < s'.nextId ∧ ∀ t ∈ s'.entries, t.id ≠ id := by
  cases h with
  | insert period callback =>
    refine ⟨rfl, Nat.lt_succ_of_lt hissued, fun t ht => ?_⟩
    rcases List.mem_append.mp ht with hold | hnew
    · exact habsent t hold
    · rw [List.mem_singleton.mp hnew]
      exact Nat.ne_of_gt hissued
  | remove other =>
    exact ⟨rfl, hissued, fun t ht => habsent t (List.mem_filter.mp ht).1⟩
  | poll =>
    refine ⟨calls_poll_of_absent habsent now, hissued, fun t ht => ?_⟩
    rw [entries_takeDue] at ht
    obtain ⟨t, hold, rfl⟩ := List.mem_map.mp ht
    rw [Timer.id_asked]
    exact habsent t hold
  | clear => exact ⟨rfl, hissued, by simp [TimerSet.clear]⟩

/-- A timer that is gone is not called in any run. -/
theorem Run.absent {events : List (Event τ)} (h : Run now s events now' s')
    (hissued : id < s.nextId) (habsent : ∀ t ∈ s.entries, t.id ≠ id) : calls id events = [] := by
  induction h with
  | stop => rfl
  | step _ hperforms _ ih =>
    obtain ⟨hnone, hissued', habsent'⟩ := hperforms.absent hissued habsent
    rw [calls, List.flatMap_cons, hnone]
    exact ih hissued' habsent'

/-- An event that takes a timer away leaves none under its number. -/
theorem Performs.absent_of_ends {e : Event τ} (h : Performs now s e s') (hends : e.ends id) :
    s'.nextId = s.nextId ∧ ∀ t ∈ s'.entries, t.id ≠ id := by
  cases h with
  | remove other =>
    obtain rfl : other = id := hends
    refine ⟨rfl, fun t ht => ?_⟩
    simpa using (List.mem_filter.mp ht).2
  | clear => exact ⟨rfl, by simp [TimerSet.clear]⟩
  | insert | poll => exact hends.elim

/-- What is known of a timer from what was done since it was registered. -/
structure Traced (start : Time) (id : Nat) (period : Duration) (past : List (Event τ)) (now : Time)
    (s : TimerSet τ) : Prop where
  issued : id < s.nextId
  same : ∀ t ∈ s.entries, t.id = id → t.period = period
  /-- The calls so far fit into the time. -/
  spent : start + (calls id past).length * period.nanos ≤ now
  /-- The next call fits into the time until it is due. -/
  upcoming : ∀ t ∈ s.entries, t.id = id →
    start + ((calls id past).length + 1) * period.nanos ≤ t.nextDue
  grid : OnTime id past →
    (calls id past).map (·.nextDue) =
        (List.range (calls id past).length).map (fun k => start + (k + 1) * period.nanos) ∧
      ∀ t ∈ s.entries, t.id = id → t.nextDue = start + ((calls id past).length + 1) * period.nanos

/-- A timer that was just registered has not been called, and is due after one period. -/
theorem traced_insert (hs : s.Numbered) (now : Time) (period : Duration) (callback : τ) :
    Traced now s.nextId period [] now (s.insert now period callback).2 := by
  have honly (t : Timer τ) (ht : t ∈ (s.insert now period callback).2.entries)
      (hid : t.id = s.nextId) : t = ⟨s.nextId, period, now + period.nanos, callback⟩ := by
    rcases List.mem_append.mp ht with hold | hnew
    · exact absurd hid (Nat.ne_of_lt (hs.issued t hold))
    · exact List.mem_singleton.mp hnew
  refine ⟨Nat.lt_succ_self _, ?_, by simp [calls], ?_, fun _ => ⟨rfl, ?_⟩⟩
  · intro t ht hid
    rw [honly t ht hid]
  · intro t ht hid
    rw [honly t ht hid]
    simp [calls]
  · intro t ht hid
    rw [honly t ht hid]
    simp [calls]

/-- Nothing changes for a timer that is not called. -/
theorem Traced.of_calls_eq_nil {past : List (Event τ)} {e : Event τ}
    (h : Traced start id period past now s) (hle : now ≤ now₁)
    (hcalls : e.calls id = []) (hissued : id < s₁.nextId)
    (hentries : ∀ t ∈ s₁.entries, t.id = id → t ∈ s.entries) :
    Traced start id period (past ++ [e]) now₁ s₁ := by
  have hsame : calls id (past ++ [e]) = calls id past := by simp [calls, hcalls]
  refine ⟨hissued, ?_, ?_, ?_, fun honTime => ?_⟩
  · intro t ht hid
    exact h.same t (hentries t ht hid) hid
  · rw [hsame]
    exact Nat.le_trans h.spent hle
  · intro t ht hid
    rw [hsame]
    exact h.upcoming t (hentries t ht hid) hid
  · obtain ⟨hgrid, hnext⟩ := h.grid honTime.of_append
    rw [hsame]
    exact ⟨hgrid, fun t ht hid => hnext t (hentries t ht hid) hid⟩

/-- A timer that is due is called and gets its next deadline. -/
theorem Traced.of_due {past : List (Event τ)} (h : Traced start t.id period past now s)
    (hs : s.Numbered) (ht : t ∈ s.entries) (hdue : t.nextDue ≤ now₁) :
    Traced start t.id period (past ++ [.poll now₁ (s.takeDue now₁).1]) now₁
      (s.takeDue now₁).2 := by
  have hcalls : calls t.id (past ++ [.poll now₁ (s.takeDue now₁).1]) = calls t.id past ++ [t] := by
    have hone := hs.calls_poll ht now₁
    rw [if_pos hdue] at hone
    simp [calls, hone]
  have hperiod := h.same t ht rfl
  have hupcoming := h.upcoming t ht rfl
  have hlength : (calls t.id past ++ [t]).length = (calls t.id past).length + 1 := by simp
  refine ⟨h.issued, ?_, ?_, ?_, fun honTime => ⟨?_, ?_⟩⟩
  · intro u hu hid
    rw [hs.eq_asked ht hu hid, Timer.period_asked, hperiod]
  · rw [hcalls, hlength]
    exact Nat.le_trans hupcoming hdue
  · intro u hu hid
    rw [hs.eq_asked ht hu hid, hcalls, hlength, Nat.succ_mul, ← Nat.add_assoc]
    have hle := Timer.le_nextDue_asked hdue
    rw [hperiod] at hle
    exact Nat.le_trans (Nat.add_le_add_right hupcoming _) hle
  · obtain ⟨hgrid, hnext⟩ := h.grid honTime.of_append
    rw [hcalls, List.map_append, hgrid, hlength, List.range_succ, List.map_append,
      List.map_singleton, List.map_singleton, hnext t ht rfl]
  · intro u hu hid
    obtain ⟨-, hnext⟩ := h.grid honTime.of_append
    have hlate := honTime now₁ _ (List.mem_append_right _ (List.mem_singleton_self _)) t
      (List.mem_filter.mpr ⟨ht, Timer.isDue_iff.mpr hdue⟩) rfl
    rw [hs.eq_asked ht hu hid, Timer.nextDue_asked_of_lt hdue hlate, hnext t ht rfl, hperiod,
      hcalls, hlength]
    lia

/-- What is known of a timer stays true, whatever is done. Only asking for a timer that is due
changes anything for it. -/
theorem Traced.performs {past : List (Event τ)} {e : Event τ}
    (h : Traced start id period past now s) (hs : s.Numbered) (hle : now ≤ now₁)
    (hperforms : Performs now₁ s e s₁) :
    Traced start id period (past ++ [e]) now₁ s₁ := by
  cases hperforms with
  | insert =>
    refine h.of_calls_eq_nil hle rfl (Nat.lt_succ_of_lt h.issued) fun t ht hid => ?_
    rcases List.mem_append.mp ht with hold | hnew
    · exact hold
    · rw [List.mem_singleton.mp hnew] at hid
      exact absurd hid (Nat.ne_of_gt h.issued)
  | remove => exact h.of_calls_eq_nil hle rfl h.issued fun t ht _ => (List.mem_filter.mp ht).1
  | clear => exact h.of_calls_eq_nil hle rfl h.issued (by simp [TimerSet.clear])
  | poll =>
    by_cases hregistered : ∃ t ∈ s.entries, t.id = id
    · obtain ⟨t, ht, rfl⟩ := hregistered
      by_cases hdue : t.nextDue ≤ now₁
      · exact h.of_due hs ht hdue
      · have hcalls := hs.calls_poll ht now₁
        rw [if_neg hdue] at hcalls
        refine h.of_calls_eq_nil hle hcalls h.issued fun u hu hid => ?_
        rwa [hs.eq_asked ht hu hid, Timer.asked_of_lt (Nat.not_le.mp hdue)]
    · have habsent (t : Timer τ) (ht : t ∈ s.entries) : t.id ≠ id :=
        fun hid => hregistered ⟨t, ht, hid⟩
      have hcalls := calls_poll_of_absent habsent now₁
      refine h.of_calls_eq_nil hle hcalls h.issued fun u hu hid => ?_
      rw [entries_takeDue] at hu
      obtain ⟨u, hold, rfl⟩ := List.mem_map.mp hu
      rw [Timer.id_asked] at hid
      exact absurd hid (habsent u hold)

/-- What is known of a timer stays true in a run. -/
theorem Run.traced {past events : List (Event τ)} (h : Run now s events now' s')
    (hs : s.Numbered) (htraced : Traced start id period past now s) :
    Traced start id period (past ++ events) now' s' := by
  induction h generalizing past with
  | stop =>
    rw [List.append_nil]
    exact htraced
  | step hle hperforms _ ih =>
    have hrest := ih (hperforms.numbered hs) (htraced.performs hs hle hperforms)
    rwa [List.append_assoc] at hrest

/-- What is known of a timer when it has been registered in the course of a run. -/
theorem Run.traced_since {before after : List (Event τ)}
    (h : Run now s (before ++ .insert start id period callback :: after) now' s')
    (hs : s.Numbered) :
    Traced start id period after now' s' := by
  obtain ⟨_, s₁, hbefore, hrest⟩ := h.split
  have hs₁ := hbefore.numbered hs
  cases hrest with
  | step _ hinsert hafter =>
    cases hinsert with
    | insert =>
      have htraced := hafter.traced (hs₁.insert start period callback)
        (traced_insert hs₁ start period callback)
      rwa [List.nil_append] at htraced

/-- A timer is not called any more once it was taken away. -/
theorem Run.calls_after_end {past later : List (Event τ)} {e : Event τ}
    (h : Run now s (past ++ e :: later) now' s') (hissued : id < s.nextId) (hends : e.ends id) :
    calls id later = [] := by
  obtain ⟨_, s₁, hpast, hrest⟩ := h.split
  cases hrest with
  | step _ hend hlater =>
    obtain ⟨hnext, habsent⟩ := hend.absent_of_ends hends
    refine hlater.absent ?_ habsent
    rw [hnext, hpast.inserted_eq.2]
    exact Nat.lt_add_right _ hissued

/-- Every timer has the period that it was registered with. -/
theorem Run.period_pos {events : List (Event τ)} (h : Run now s events now' s')
    (hs : ∀ t ∈ s.entries, 0 < t.period.nanos)
    (hperiods : ∀ start id period callback, .insert start id period callback ∈ events →
      0 < period.nanos) :
    ∀ t ∈ s'.entries, 0 < t.period.nanos := by
  induction h with
  | stop => exact hs
  | step _ hperforms _ ih =>
    refine ih ?_ fun start id period callback hmem =>
      hperiods start id period callback (List.mem_cons_of_mem _ hmem)
    cases hperforms with
    | insert period callback =>
      intro t ht
      rcases List.mem_append.mp ht with hold | hnew
      · exact hs t hold
      · rw [List.mem_singleton.mp hnew]
        exact hperiods _ _ period callback List.mem_cons_self
    | remove => exact fun t ht => hs t (List.mem_filter.mp ht).1
    | clear => simp [TimerSet.clear]
    | poll =>
      intro t ht
      rw [entries_takeDue] at ht
      obtain ⟨t, hold, rfl⟩ := List.mem_map.mp ht
      rw [Timer.period_asked]
      exact hs t hold

/-- Whatever is done to the timers, those are registered that were inserted and not taken away
since, and no number is issued twice. Whenever they are asked, each that is due is called once and
no other, and after that none is due. A timer is called no more often than its period fits into the
time since it was registered. As long as it is not asked a whole period late its deadlines are
whole periods from when it was registered. It is not called any more once it was taken away. -/
theorem Run.timers_keep_time {events : List (Event τ)} (h : Run began {} events now s)
    (hperiods : ∀ start id period callback, .insert start id period callback ∈ events →
      0 < period.nanos) :
    s.entries.map (fun t => (t.id, t.period, t.callback)) = registered events ∧
      inserted events = List.range (inserted events).length ∧
      (∀ reading,
        ((s.takeDue reading).1.map (·.id)).Nodup ∧
        (∀ t, t ∈ (s.takeDue reading).1 ↔ t ∈ s.entries ∧ t.nextDue ≤ reading) ∧
        (s.takeDue reading).2.entries.map (fun t => (t.id, t.period, t.callback)) =
          registered events ∧
        ∀ t ∈ (s.takeDue reading).2.entries, reading < t.nextDue) ∧
      ∀ before start id period callback after,
        events = before ++ .insert start id period callback :: after →
        (calls id after).length ≤ (now - start) / period.nanos ∧
        (OnTime id after →
          (calls id after).map (·.nextDue) =
              (List.range (calls id after).length).map (fun k => start + (k + 1) * period.nanos) ∧
            ∀ t ∈ s.entries, t.id = id →
              t.nextDue = start + ((calls id after).length + 1) * period.nanos) ∧
        ∀ past e later, after = past ++ e :: later → e.ends id → calls id later = [] := by
  have hnumbered : s.Numbered := h.numbered numbered_empty
  have hregistered : s.entries.map (fun t => (t.id, t.period, t.callback)) = registered events :=
    h.entries_eq
  refine ⟨hregistered, ?_, fun reading => ⟨?_, ?_, ?_, ?_⟩, ?_⟩
  · rw [List.range_eq_range']
    exact h.inserted_eq.1
  · have hdue : (s.takeDue reading).1.Pairwise (·.id < ·.id) := hnumbered.ascending.filter _
    exact List.pairwise_map.mpr (hdue.imp Nat.ne_of_lt)
  · intro t
    simp [takeDue]
  · have hpoll : Performs reading s (.poll reading (s.takeDue reading).1) _ := .poll
    rw [← hregistered]
    exact hpoll.registers
  · intro t ht
    rw [entries_takeDue] at ht
    obtain ⟨t, hold, rfl⟩ := List.mem_map.mp ht
    exact Timer.lt_nextDue_asked (h.period_pos (by simp) hperiods t hold)
  · rintro before start id period callback after rfl
    have htraced := h.traced_since numbered_empty
    have hperiod := hperiods start id period callback (by simp)
    refine ⟨?_, htraced.grid, ?_⟩
    · rw [Nat.le_div_iff_mul_le hperiod]
      exact Nat.le_sub_of_add_le' htraced.spent
    · rintro past e later rfl hends
      obtain ⟨_, s₁, hbefore, hrest⟩ := h.split
      cases hrest with
      | step _ hinsert hafter =>
        cases hinsert with
        | insert => exact hafter.calls_after_end (Nat.lt_succ_self _) hends

/-- Two timers are registered. The first time that they are asked when both are due they are on
time, and the second one is taken away then. The first one is not asked again for three and a half
periods: it is called once then, and its deadlines leave the grid. -/
theorem Run.timers_keep_time_of_late_poll :
    let first : Timer String := ⟨0, ⟨10⟩, 10, "first"⟩
    let second : Timer String := ⟨1, ⟨7⟩, 10, "second"⟩
    let before : List (Event String) := [.insert 0 0 ⟨10⟩ "first"]
    let after : List (Event String) :=
      [.poll 9 [], .poll 10 [first, second], .remove 1 true,
        .poll 45 [{ first with nextDue := 20 }]]
    ∃ s, Run 0 {} (before ++ .insert 3 1 ⟨7⟩ "second" :: after) 45 s ∧
      s.entries.map (fun t => (t.id, t.nextDue)) = [(0, 55)] ∧
      (s.takeDue 54).1 = [] ∧ (calls 1 after).length ≤ (45 - 3) / 7 ∧
      OnTime 1 after ∧ (calls 1 after).map (·.nextDue) = [3 + 1 * 7] ∧
      ¬ OnTime 0 after ∧ (calls 0 after).map (·.nextDue) = [10, 20] := by
  intro first second before after
  have hrun : Run 0 {} (before ++ .insert 3 1 ⟨7⟩ "second" :: after) 45
      ⟨[{ first with nextDue := 55 }], 2⟩ :=
    .step (Nat.le_refl 0) (.insert ⟨10⟩ "first") <|
    .step (by decide) (.insert ⟨7⟩ "second") <|
    .step (by decide) (.poll (s := ⟨[first, second], 2⟩)) <|
    .step (by decide) (.poll (s := ⟨[first, second], 2⟩)) <|
    .step (Nat.le_refl 10)
      (.remove (s := ⟨[{ first with nextDue := 20 }, { second with nextDue := 17 }], 2⟩) 1) <|
    .step (by decide) (.poll (s := ⟨[{ first with nextDue := 20 }], 2⟩)) .stop
  have hperiods (start : Time) (id : Nat) (period : Duration) (callback : String)
      (hmem : .insert start id period callback ∈
        before ++ Event.insert 3 1 ⟨7⟩ "second" :: after) : 0 < period.nanos := by
    simp only [before, after, List.cons_append, List.nil_append, List.mem_cons, List.not_mem_nil,
      Event.insert.injEq, reduceCtorEq, or_false] at hmem
    rcases hmem with ⟨-, -, rfl, -⟩ | ⟨-, -, rfl, -⟩ <;> decide
  have honTime : OnTime 1 after := by
    intro now due hmem t ht hid
    simp only [after, List.mem_cons, List.not_mem_nil, Event.poll.injEq, reduceCtorEq, or_false,
      false_or] at hmem
    rcases hmem with ⟨rfl, rfl⟩ | ⟨rfl, rfl⟩ | ⟨rfl, rfl⟩
    · cases ht
    · rcases List.mem_pair.mp ht with rfl | rfl
      · cases hid
      · decide
    · rw [List.mem_singleton.mp ht] at hid
      cases hid
  have hlate : ¬ OnTime 0 after := by
    intro h
    have hless := h 45 [{ first with nextDue := 20 }] (by simp [after]) _
      (List.mem_singleton_self _) rfl
    exact absurd hless (by decide)
  obtain ⟨-, -, hpolls, htimers⟩ := hrun.timers_keep_time hperiods
  obtain ⟨hbound, hgrid, -⟩ := htimers before 3 1 ⟨7⟩ "second" after rfl
  refine ⟨_, hrun, rfl, ?_, hbound, honTime, (hgrid honTime).1, hlate, rfl⟩
  refine List.eq_nil_iff_forall_not_mem.mpr fun t ht => ?_
  obtain ⟨hmem, hdue⟩ := ((hpolls 54).2.1 t).mp ht
  rw [List.mem_singleton.mp hmem] at hdue
  exact absurd hdue (by decide)

end TimerSet

end Courier
