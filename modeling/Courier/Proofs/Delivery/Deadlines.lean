import Courier.Config.Engine
import Courier.Proofs.Delivery.Outcomes

/-!
# How long a delivery may take

A frame is found late by the first scan that comes after its deadline, and there is a scan in
every period. Each try thus lasts at most the wait for an acknowledgment and one period, counted
from the scan that sent the frame again, and the settings of an engine add this up to a budget.
What is carried through a run is how much of the budget is left to a frame in flight, and that no
scan has come after its deadline yet.
-/

namespace Courier

namespace EngineConfig

variable {config : EngineConfig}

/-- The time that one try of a send may take, in nanoseconds. -/
def tryNanos (config : EngineConfig) : Nat :=
  (millis config.ackTimeout).nanos + (millis config.processInterval).nanos

/-- Settings with which an engine can work have a period. -/
theorem processInterval_pos (hvalid : config.validate = .ok ()) :
    0 < (millis config.processInterval).nanos := by
  have hpositive : config.positiveSettings.find? (·.2 = 0) = none := by
    unfold validate at hvalid
    split at hvalid
    · cases hvalid
    · assumption
  have hne : config.processInterval ≠ 0 := by
    simpa using List.find?_eq_none.mp hpositive ("process_interval_ms", config.processInterval)
      (by simp [positiveSettings])
  have hpos : 0 < config.processInterval.toNat :=
    Nat.pos_of_ne_zero fun h => hne (UInt64.toNat_inj.mp h)
  simpa [millis, Duration.ofMillis] using hpos

/-- Unless the settings go beyond what can be counted, the budget is that of all tries. -/
theorem deliveryBudget_eq (hretries : config.maxRetries.toNat < UInt32.size - 1)
    (hproduct : config.tryNanos * (config.maxRetries.toNat + 1) ≤ Duration.limit.nanos) :
    config.deliveryBudget.nanos = (config.maxRetries.toNat + 1) * config.tryNanos := by
  have hattempts : config.budgetedAttempts = config.maxRetries.toNat + 1 :=
    Nat.min_eq_left hretries
  rw [deliveryBudget, hattempts, Nat.mul_comm]
  exact Nat.min_eq_left hproduct

end EngineConfig

namespace Outbound

/-- The clock reading as of which an operation looks for late frames. -/
def Operation.reading? : Operation → Option Nat
  | .scan now _ => some now
  | .send .. | .acknowledge .. => none

/-- Whatever a scan sends again counts as sent at the reading of the scan. -/
def Operation.Stamped : Operation → Prop
  | .scan now clock => ∀ seq, clock seq = now
  | .send .. | .acknowledge .. => True

/-- The readings of the scans among some events. -/
def readings (events : List Event) : List Nat := events.filterMap (·.operation.reading?)

/-- Each reading comes at most a period after the one before it, and the first at most a period
after `last`. -/
def Paced (period : Nat) : Nat → List Nat → Prop
  | _, [] => True
  | last, now :: rest => now ≤ last + period ∧ Paced period now rest

instance decidablePaced (period : Nat) :
    ∀ (last : Nat) (times : List Nat), Decidable (Paced period last times)
  | _, [] => inferInstanceAs (Decidable True)
  | _, now :: rest =>
    have := decidablePaced period now rest
    inferInstanceAs (Decidable (_ ∧ _))

end Outbound

namespace Slice

variable {timeout : Duration} {seq : UInt16} {op : Outbound.Operation} {v v' : Slice}
  {period finish last : Nat}

/-- A frame in flight that can be tried to the end of its retries by the time `finish`, at the
pace of the scans of which `last` was the reading of the latest. -/
def OnTime (timeout : Duration) (period finish last : Nat) (v : Slice) : Prop :=
  ∀ record copy, v.record = some record → v.copy = some copy →
    (copy.remaining.toNat + 1) * (timeout.nanos + period) + record.sentAt ≤ finish ∧
      last ≤ timeout.nanos + record.sentAt

/-- What is not in flight cannot come too late. -/
theorem onTime_of_record_eq_none (h : v.record = none) : v.OnTime timeout period finish last := by
  intro record copy hrecord
  rw [h] at hrecord
  cases hrecord

/-- A scan leaves a frame in flight only if it does not come after the deadline, and sends one
again a period after the deadline at the latest. -/
theorem OnTime.evolves (h : v.OnTime timeout period finish last)
    (he : v.Evolves timeout seq op v') (hstamped : op.Stamped)
    (hpaced : ∀ now ∈ op.reading?, now ≤ last + period) :
    v'.OnTime timeout period finish (op.reading?.getD last) := by
  cases he with
  | same hidle =>
    intro record copy hrecord hcopy
    obtain ⟨hfinish, hlast⟩ := h record copy hrecord hcopy
    refine ⟨hfinish, ?_⟩
    cases op with
    | send => exact hlast
    | acknowledge => exact hlast
    | scan now clock =>
      have hwaited : ¬timeout.nanos < now - record.sentAt :=
        of_decide_eq_false (hidle record hrecord)
      simp only [Outbound.Operation.reading?, Option.getD_some]
      omega
  | acknowledged => exact onTime_of_record_eq_none rfl
  | @late now clock record _ hrecord hwaited hlate =>
    cases hlate with
    | untracked => exact onTime_of_record_eq_none rfl
    | exhausted => exact onTime_of_record_eq_none rfl
    | abandoned => exact onTime_of_record_eq_none rfl
    | @resent copy hcopy hpos =>
      obtain rfl : clock seq = now := hstamped seq
      obtain ⟨hfinish, hlast⟩ := h record copy hrecord hcopy
      have hnow := hpaced (clock seq) rfl
      have hless : (copy.remaining - 1).toNat + 1 = copy.remaining.toNat := by
        have : copy.remaining.toNat ≠ 0 := fun h => hpos (UInt32.toNat_inj.mp h)
        rw [UInt32.toNat_sub_of_le _ _ (UInt32.le_iff_toNat_le.mpr (by simp; omega))]
        simp
        omega
      rintro _ _ ⟨⟩ ⟨⟩
      refine ⟨?_, Nat.le_add_left _ _⟩
      rw [Nat.add_mul, Nat.one_mul] at hfinish
      dsimp only
      rw [hless]
      omega

end Slice

namespace Outbound

variable {σ κ : Type} [DecidableEq κ] {k : κ} {o o' o₀ : Outbound (Watched σ) κ} {c : Carrier σ}
  {period finish last : Nat}

/-- The readings of the scans are listed in the order of the events. -/
theorem readings_cons (e : Event) (events : List Event) :
    readings (e :: events) = e.operation.reading?.toList ++ readings events := by
  cases h : e.operation.reading? <;> simp [readings, h]

/-- Scans keep their pace through two stretches if they do so through each, the second one from
where the first has left off. -/
theorem paced_append {before after : List Nat} :
    Paced period last (before ++ after) ↔
      Paced period last before ∧ Paced period (before.getLastD last) after := by
  induction before generalizing last with
  | nil => simp [Paced]
  | cons now before ih => rw [List.cons_append, Paced, Paced, ih, List.getLastD_cons, and_assoc]

/-- At the pace of the scans, a frame in flight stays on time for as long as its number is not used
again. -/
theorem Run.onTime {events : List Event} {seq : UInt16} (hrun : Run c k o events o')
    (hready : o.Ready k) (hown : ∀ e ∈ events, e.sendsUnder seq = false)
    (hstamped : ∀ e ∈ events, e.operation.Stamped) (hpaced : Paced period last (readings events))
    (hstart : (o.slices k seq).OnTime o.setup.timeout period finish last) :
    (o'.slices k seq).OnTime o.setup.timeout period finish ((readings events).getLastD last) := by
  induction hrun generalizing last with
  | stop => exact hstart
  | @step o o₁ o' e events hop _ _ hrest ih =>
    rw [readings_cons, paced_append] at hpaced
    have hnext := hstart.evolves (hop.evolves hready (hown e List.mem_cons_self))
      (hstamped e List.mem_cons_self) (fun now hnow => by
        rw [Option.mem_def.mp hnow] at hpaced
        exact hpaced.1.1)
    rw [← hop.setup_eq] at hnext ⊢
    have hrestPaced : Paced period (e.operation.reading?.getD last) (readings events) := by
      cases h : e.operation.reading? <;> simpa [h] using hpaced.2
    have hlater := ih (hop.ready hready) (fun e he => hown e (List.mem_cons_of_mem _ he))
      (fun e he => hstamped e (List.mem_cons_of_mem _ he)) hrestPaced hnext
    rw [readings_cons]
    cases h : e.operation.reading? with
    | none => simpa [h] using hlater
    | some now =>
      rw [h] at hlater
      rwa [Option.toList_some, List.singleton_append, List.getLastD_cons]

/-- One outcome was published about the frame that was sent under a number before some events, and
unless the number was used again, nothing is left of the frame. -/
def Concluded (o : Outbound (Watched σ) κ) (header : Header) (sending : Event)
    (events : List Event) : Prop :=
  ∃ outcome, toldUnder header.seq (sending :: untilReused header.seq events) =
      [⟨header.id, header.seq, outcome⟩] ∧
    (untilReused header.seq events = events → o.Forgets header.seq)

/-- A frame that was taken starts on time. -/
theorem Performs.onTime {n : UInt32} {listeners : List κ} {sent : Time} {header : Header}
    {payload : Bytes} (period : Nat) (hr : o.setup.retry = some (n, listeners))
    (hop : Performs c o (.send sent header payload true) o') :
    (o'.slices k header.seq).OnTime o.setup.timeout period
      ((n.toNat + 1) * (o.setup.timeout.nanos + period) + sent) sent := by
  rw [hop.slice_of_send, hr]
  rintro _ _ ⟨⟩ ⟨⟩
  exact ⟨Nat.le_refl _, Nat.le_add_left _ _⟩

/-- At the pace of the scans, a frame is concluded when a scan comes so late that every try would
have ended. -/
theorem Run.concluded {n : UInt32} {before after : List Event} {sending : Event} {sent : Time}
    {header : Header} {payload : Bytes} {reading : Nat} (hfresh : Fresh k n o₀)
    (hrun : Run c k o₀ (before ++ sending :: after) o)
    (hsending : sending.operation = .send sent header payload true)
    (hstamped : ∀ e ∈ after, e.operation.Stamped) (hpaced : Paced period sent (readings after))
    (hlast : (readings after).getLastD sent = reading) (hperiod : 0 < period)
    (hlate : (n.toNat + 1) * (o₀.tracker.timeout.nanos + period) + sent ≤ reading) :
    o.Concluded header sending after := by
  obtain ⟨o₁, o₂, hready, ⟨listeners, hr⟩, hown, hcut⟩ := hrun.window hfresh header.seq
  have hfree : ∀ e ∈ untilReused header.seq after, e.sendsUnder header.seq = false :=
    fun e he => sendsUnder_of_mem_untilReused he
  have hcourse := hown.course hready hr hsending hfree
  rcases hcourse.told_eq (hown.told_slices header.seq) with
    ⟨-, ⟨sentAt, hrecord⟩, remaining, hcopy⟩ | ⟨outcome, htold, hgone⟩
  · -- A frame still in flight would be in time for its deadline at the last scan.
    exfalso
    rcases hcut with ⟨hall, rfl⟩ | ⟨-, hnone⟩
    · have htimeout : o₁.setup.timeout = o₀.tracker.timeout := by
        rw [← hown.setup_eq, hrun.setup_eq]
        rfl
      rw [hall] at hown hfree
      cases hown with
      | step hop _ _ hrest =>
        have hready' := hop.ready hready
        rw [hsending] at hop
        have hstart := hop.onTime (k := k) period hr
        rw [← hop.setup_eq] at hstart
        obtain ⟨hfinish, hdeadline⟩ :=
          hrest.onTime hready' hfree hstamped hpaced hstart _ _ hrecord hcopy
        rw [hlast] at hdeadline
        rw [hop.setup_eq, htimeout] at hfinish hdeadline
        rw [Nat.add_mul, Nat.one_mul] at hfinish
        dsimp only at hfinish hdeadline
        omega
    · rw [hnone] at hrecord
      cases hrecord
  · refine ⟨outcome, htold, fun hcurrent => ?_⟩
    rcases hcut with ⟨-, rfl⟩ | ⟨hreused, -⟩
    · exact hgone
    · exact absurd hcurrent hreused

/-- The budget of the settings bounds the retries of every frame that was taken: a scan that comes
no earlier finds it concluded, and if a waiting caller outlasts the budget, then no frame is left
open at the end of the wait. -/
theorem delivery_budget_bounds_retries (config : EngineConfig) (before after : List Event)
    {sending scan : Event} {sent reading : Time} {header : Header} {payload : Bytes}
    (hvalid : config.validate = .ok ()) (hretries : config.maxRetries.toNat < UInt32.size - 1)
    (hproduct : config.tryNanos * (config.maxRetries.toNat + 1) ≤ Duration.limit.nanos)
    (hfresh : Fresh k config.maxRetries o₀)
    (htimeout : o₀.tracker.timeout = EngineConfig.millis config.ackTimeout)
    (hrun : Run c k o₀ (before ++ sending :: (after ++ [scan])) o)
    (hsending : sending.operation = .send sent header payload true)
    (hscan : scan.operation = .scan reading fun _ => reading)
    (hstamped : ∀ e ∈ after, e.operation.Stamped)
    (hpaced : Paced (EngineConfig.millis config.processInterval).nanos sent
      (readings (after ++ [scan]))) :
    (sent + config.deliveryBudget.nanos ≤ reading →
      o.Concluded header sending (after ++ [scan])) ∧
    (config.waitCoversDelivery = true →
      sent + (EngineConfig.millis config.waitTimeout).nanos ≤ reading →
      o.Concluded header sending (after ++ [scan])) := by
  have hlast : (readings (after ++ [scan])).getLastD sent = reading := by
    simp [readings, hscan, Operation.reading?]
  have hall : ∀ e ∈ after ++ [scan], e.operation.Stamped := by
    intro e he
    rcases List.mem_append.mp he with he | he
    · exact hstamped e he
    · rw [List.mem_singleton.mp he, hscan]
      exact fun _ => rfl
  have hbudget : sent + config.deliveryBudget.nanos ≤ reading →
      o.Concluded header sending (after ++ [scan]) := by
    intro hlate
    refine hrun.concluded hfresh hsending hall hpaced hlast (config.processInterval_pos hvalid) ?_
    rw [EngineConfig.deliveryBudget_eq hretries hproduct] at hlate
    rw [htimeout]
    exact Nat.le_trans (Nat.le_of_eq (Nat.add_comm _ _)) hlate
  refine ⟨hbudget, fun hcovers hlate => hbudget ?_⟩
  have hless : config.deliveryBudget.nanos ≤ (EngineConfig.millis config.waitTimeout).nanos :=
    of_decide_eq_true hcovers
  exact Nat.le_trans (Nat.add_le_add_left hless sent) hlate

/-- Nobody acknowledges a frame, and each scan that could find it late comes as early as it must
not: the frame is open until the budget of two tries is used up, which is also when a caller stops
to wait. -/
theorem delivery_budget_bounds_retries_of_silence :
    let ms := 1000000
    let config : EngineConfig :=
      { ackTimeout := 1, processInterval := 1, maxRetries := 1, waitTimeout := 4 }
    let header := Header.new 3 7 1
    let start := recorded (EngineConfig.millis config.ackTimeout) 1 (⟨{}, []⟩ : Watched MemoryLink)
    let sending : Event := ⟨.send 0 header [9] true, [], [⟨header, [9], true⟩]⟩
    let after : List Event :=
      [⟨.scan ms fun _ => ms, [], []⟩, ⟨.scan (2 * ms) fun _ => 2 * ms, [], [⟨header, [9], true⟩]⟩,
        ⟨.scan (3 * ms) fun _ => 3 * ms, [], []⟩]
    let last : Event := ⟨.scan (4 * ms) fun _ => 4 * ms, [⟨3, 7, .timeout⟩], []⟩
    config.validate = .ok () ∧ config.waitCoversDelivery = true ∧
      config.deliveryBudget.nanos = 4 * ms ∧ Fresh .outcomes 1 start ∧
      (∃ o, Run (MemoryLink.carrier .near) .outcomes start (sending :: after) o ∧
        toldUnder 7 (sending :: after) = []) ∧
      ∃ o, Run (MemoryLink.carrier .near) .outcomes start (sending :: (after ++ [last])) o ∧
        o.Concluded header sending (after ++ [last]) := by
  intro ms config header start sending after last
  have hfresh : Fresh .outcomes 1 start := fresh_recorded _ _ _
  let c := MemoryLink.carrier .near
  let o₁ := (start.sendReliable c.watched 0 header [9]).2
  let o₂ := o₁.expireAll c.watched (fun _ => ms) []
  let o₃ := o₂.expireAll c.watched (fun _ => 2 * ms) [(7, ⟨3, 0⟩)]
  let o₄ := o₃.expireAll c.watched (fun _ => 3 * ms) []
  let o := o₄.expireAll c.watched (fun _ => 4 * ms) [(7, ⟨3, 2 * ms⟩)]
  have hsend : Performs c start (.send 0 header [9] true) o₁ := .send rfl rfl
  have hscan₁ : Performs c o₁ (.scan ms fun _ => ms) o₂ := .scan (.of_eq (by decide +kernel))
  have hscan₂ : Performs c o₂ (.scan (2 * ms) fun _ => 2 * ms) o₃ :=
    .scan (.of_eq (by decide +kernel))
  have hscan₃ : Performs c o₃ (.scan (3 * ms) fun _ => 3 * ms) o₄ :=
    .scan (.of_eq (by decide +kernel))
  have hscan₄ : Performs c o₄ (.scan (4 * ms) fun _ => 4 * ms) o :=
    .scan (.of_eq (by decide +kernel))
  have hopen : Run c .outcomes start (sending :: after) o₄ :=
    .step hsend rfl rfl (.step hscan₁ rfl rfl (.step hscan₂ rfl rfl (.step hscan₃ rfl rfl .stop)))
  have hrun : Run c .outcomes start (sending :: (after ++ [last])) o :=
    run_append.mpr ⟨o₄, hopen, .step hscan₄ (by decide +kernel) (by decide +kernel) .stop⟩
  refine ⟨rfl, by decide, by decide, hfresh, ⟨o₄, hopen, rfl⟩, o, hrun, ?_⟩
  have hstamped : ∀ e ∈ after, e.operation.Stamped := by simp [after, Operation.Stamped]
  exact (delivery_budget_bounds_retries config [] after rfl (by decide) (by decide) hfresh rfl hrun
    rfl rfl hstamped (by decide)).1 (by decide)

end Outbound

end Courier
