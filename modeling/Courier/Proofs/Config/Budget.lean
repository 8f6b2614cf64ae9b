import Courier.Proofs.Delivery.Deadlines
import Courier.Proofs.Engine.Soundness

/-!
# The arithmetic of a retry budget

A machine keeps a duration as 64 bits of seconds and the nanoseconds that are left. It makes sums
and multiples part by part, with a carry, and may run out of seconds. The sum that a budget is made
from never does. Its multiple may, and is then cut to the longest duration, but that is longer than
any wait. What a budget says about a wait is thus what unbounded numbers say, as long as the number
of tries itself can be counted.
-/

namespace Courier

namespace Duration

/-- A duration as a machine keeps it: whole seconds, and the nanoseconds that are left. -/
structure Parts where
  seconds : UInt64
  nanos : UInt32
  nanos_lt : nanos.toNat < 1000000000

namespace Parts

variable {a b p : Parts} {x y z : UInt64} {factor : UInt32}

/-- The duration that is kept. -/
def toDuration (p : Parts) : Duration := .ofParts p.seconds.toNat p.nanos.toNat

/-- The longest duration. -/
def longest : Parts := ⟨18446744073709551615, 999999999, by decide⟩

/-- A sum, unless it is beyond 64 bits. -/
def sum? (x y : UInt64) : Option UInt64 :=
  if x.toNat + y.toNat < UInt64.size then some (x + y) else none

/-- A product, unless it is beyond 64 bits. -/
def product? (x y : UInt64) : Option UInt64 :=
  if x.toNat * y.toNat < UInt64.size then some (x * y) else none

/-- What is left of nanoseconds beside whole seconds fits 32 bits. -/
theorem toNat_toUInt32_mod (nanos : UInt64) :
    (nanos % 1000000000).toUInt32.toNat = nanos.toNat % 1000000000 := by
  have hlt : nanos.toNat % 1000000000 < 1000000000 := Nat.mod_lt _ (by decide)
  exact Nat.mod_eq_of_lt (Nat.lt_trans hlt (by decide))

/-- Parts whose nanoseconds are what is left of some nanoseconds, with some seconds. -/
def leaving (seconds nanos : UInt64) : Parts where
  seconds
  nanos := (nanos % 1000000000).toUInt32
  nanos_lt := by
    rw [toNat_toUInt32_mod]
    exact Nat.mod_lt _ (by decide)

/-- A number of milliseconds. -/
def ofMillis (millis : UInt64) : Parts := leaving (millis / 1000) (millis % 1000 * 1000000)

/-- A sum, made part by part. Full nanoseconds carry a second. -/
def add? (a b : Parts) : Option Parts := do
  let seconds ← sum? a.seconds b.seconds
  let nanos := a.nanos.toUInt64 + b.nanos.toUInt64
  if nanos < 1000000000 then return leaving seconds nanos
  else return leaving (← sum? seconds 1) nanos

/-- A multiple, made part by part. -/
def times? (p : Parts) (factor : UInt32) : Option Parts := do
  let nanos := p.nanos.toUInt64 * factor.toUInt64
  let seconds ← product? p.seconds factor.toUInt64
  return leaving (← sum? seconds (nanos / 1000000000)) nanos

/-- A multiple, or the longest duration in its place. -/
def timesOrLongest (p : Parts) (factor : UInt32) : Parts := (p.times? factor).getD longest

/-- Whether a duration is no longer than another: the seconds decide, or else the nanoseconds. -/
def atMost (a b : Parts) : Bool :=
  a.seconds < b.seconds || a.seconds == b.seconds && a.nanos ≤ b.nanos

/-- What an operation gives whose result would be some nanoseconds: that, unless it is beyond the
longest duration. -/
inductive Checks (nanos : Nat) : Option Parts → Prop
  | exact {p : Parts} : p.toDuration.nanos = nanos → Checks nanos (some p)
  | overflow : limit.nanos < nanos → Checks nanos none

/-- The nanoseconds in the parts of a duration. -/
theorem nanos_toDuration (p : Parts) :
    p.toDuration.nanos = p.seconds.toNat * 1000000000 + p.nanos.toNat := rfl

/-- One nanosecond more than the longest duration would be another second too many. -/
theorem limit_eq : limit.nanos + 1 = UInt64.size * 1000000000 := by decide

/-- No parts are longer than the longest duration. -/
theorem nanos_le_limit (p : Parts) : p.toDuration.nanos ≤ limit.nanos := by
  have hseconds := p.seconds.toNat_lt_size
  have hnanos := p.nanos_lt
  have hlimit := limit_eq
  rw [nanos_toDuration]
  omega

/-- The longest parts make the longest duration. -/
theorem toDuration_longest : longest.toDuration = limit := rfl

/-- Of nanoseconds only those are left that do not make a whole second. -/
theorem toNat_nanos_leaving (seconds nanos : UInt64) :
    (leaving seconds nanos).nanos.toNat = nanos.toNat % 1000000000 :=
  toNat_toUInt32_mod nanos

/-- The nanoseconds of seconds and of what is left beside them. -/
theorem nanos_leaving (seconds nanos : UInt64) : (leaving seconds nanos).toDuration.nanos =
    seconds.toNat * 1000000000 + nanos.toNat % 1000000000 := by
  rw [nanos_toDuration, toNat_nanos_leaving]
  rfl

/-- Milliseconds that are split into parts are the milliseconds that they were. -/
theorem toDuration_ofMillis (millis : UInt64) :
    (ofMillis millis).toDuration = .ofMillis millis.toNat := by
  have hnanos : (ofMillis millis).toDuration.nanos = millis.toNat * 1000000 := by
    have hrest : (millis % 1000 * 1000000).toNat = millis.toNat % 1000 * 1000000 := by
      rw [UInt64.toNat_mul]
      exact Nat.mod_eq_of_lt (by simp; omega)
    rw [ofMillis, nanos_leaving, hrest, UInt64.toNat_div]
    simp
    omega
  exact congrArg Duration.mk hnanos

/-! ### Checked operations -/

/-- A sum of two words of 64 bits is found exactly if it fits. -/
theorem sum?_cases (x y : UInt64) :
    (∃ z, sum? x y = some z ∧ z.toNat = x.toNat + y.toNat) ∨
      sum? x y = none ∧ UInt64.size ≤ x.toNat + y.toNat := by
  unfold sum?
  split
  · next hlt => exact .inl ⟨_, rfl, (UInt64.toNat_add x y).trans (Nat.mod_eq_of_lt hlt)⟩
  · next hge => exact .inr ⟨rfl, Nat.le_of_not_lt hge⟩

/-- A product of two words of 64 bits is found exactly if it fits. -/
theorem product?_cases (x y : UInt64) :
    (∃ z, product? x y = some z ∧ z.toNat = x.toNat * y.toNat) ∨
      product? x y = none ∧ UInt64.size ≤ x.toNat * y.toNat := by
  unfold product?
  split
  · next hlt => exact .inl ⟨_, rfl, (UInt64.toNat_mul x y).trans (Nat.mod_eq_of_lt hlt)⟩
  · next hge => exact .inr ⟨rfl, Nat.le_of_not_lt hge⟩

/-- A sum is exact or overflows. -/
theorem checks_add? (a b : Parts) :
    Checks (a.toDuration.add b.toDuration).nanos (a.add? b) := by
  have ha := a.nanos_lt
  have hb := b.nanos_lt
  have hnanos : (a.nanos.toUInt64 + b.nanos.toUInt64).toNat = a.nanos.toNat + b.nanos.toNat := by
    rw [UInt64.toNat_add]
    exact Nat.mod_eq_of_lt (by simp; omega)
  have hexact : (a.toDuration.add b.toDuration).nanos =
      (a.seconds.toNat + b.seconds.toNat) * 1000000000 + (a.nanos.toNat + b.nanos.toNat) := by
    change a.toDuration.nanos + b.toDuration.nanos = _
    rw [nanos_toDuration, nanos_toDuration]
    omega
  have hlimit := limit_eq
  rw [hexact, add?]
  rcases sum?_cases a.seconds b.seconds with ⟨seconds, hsum, hseconds⟩ | ⟨hsum, hbeyond⟩
  · rw [hsum, Option.bind_eq_bind, Option.bind_some]
    by_cases hfew : a.nanos.toUInt64 + b.nanos.toUInt64 < 1000000000
    · rw [if_pos hfew]
      rw [UInt64.lt_iff_toNat_lt, hnanos] at hfew
      refine .exact ?_
      rw [nanos_leaving, hnanos, hseconds]
      exact congrArg _ (Nat.mod_eq_of_lt hfew)
    · rw [if_neg hfew]
      rw [UInt64.lt_iff_toNat_lt, hnanos] at hfew
      simp only [UInt64.reduceToNat, Nat.not_lt] at hfew
      rcases sum?_cases seconds 1 with ⟨carried, hsum', hcarried⟩ | ⟨hsum', hbeyond⟩
      · rw [hsum', Option.bind_some]
        refine .exact ?_
        rw [nanos_leaving, hnanos, hcarried, hseconds]
        simp only [UInt64.reduceToNat]
        omega
      · rw [hsum']
        refine .overflow ?_
        simp only [UInt64.reduceToNat] at hbeyond
        omega
  · rw [hsum]
    exact .overflow (by omega)

/-- A multiple is exact or overflows. -/
theorem checks_times? (p : Parts) (factor : UInt32) :
    Checks (p.toDuration.nanos * factor.toNat) (p.times? factor) := by
  have hp := p.nanos_lt
  have hfactor := factor.toNat_lt
  have hlimit := limit_eq
  have hnanos : (p.nanos.toUInt64 * factor.toUInt64).toNat = p.nanos.toNat * factor.toNat := by
    rw [UInt64.toNat_mul]
    refine Nat.mod_eq_of_lt ?_
    have hproduct : p.nanos.toNat * factor.toNat < 1000000000 * 4294967296 :=
      Nat.mul_lt_mul'' hp hfactor
    simp
    omega
  rw [nanos_toDuration, Nat.add_mul, Nat.mul_right_comm, times?]
  rcases product?_cases p.seconds factor.toUInt64 with ⟨seconds, hproduct, hseconds⟩ |
    ⟨hproduct, hbeyond⟩
  · rw [hproduct, Option.bind_eq_bind, Option.bind_some]
    rw [UInt32.toNat_toUInt64] at hseconds
    rcases sum?_cases seconds (p.nanos.toUInt64 * factor.toUInt64 / 1000000000) with
      ⟨carried, hsum, hcarried⟩ | ⟨hsum, hbeyond⟩
    · rw [hsum, Option.bind_some]
      refine .exact ?_
      rw [UInt64.toNat_div, hnanos, hseconds] at hcarried
      rw [nanos_leaving, hnanos, hcarried]
      simp only [UInt64.reduceToNat]
      omega
    · rw [hsum]
      refine .overflow ?_
      rw [UInt64.toNat_div, hnanos, hseconds] at hbeyond
      simp only [UInt64.reduceToNat] at hbeyond
      omega
  · rw [hproduct]
    rw [UInt32.toNat_toUInt64] at hbeyond
    exact .overflow (by omega)

/-- A duration cannot be multiplied exactly if it would become longer than the longest. -/
theorem times?_eq_none_iff :
    p.times? factor = none ↔ limit.nanos < p.toDuration.nanos * factor.toNat := by
  have hchecks := p.checks_times? factor
  generalize p.times? factor = result at hchecks ⊢
  cases hchecks with
  | exact hexact => simp [← hexact, nanos_le_limit]
  | overflow hbeyond => simp [hbeyond]

/-- A multiple that overflows is cut to the longest duration. -/
theorem toDuration_timesOrLongest (p : Parts) (factor : UInt32) :
    (p.timesOrLongest factor).toDuration = p.toDuration.times factor.toNat := by
  have hchecks := p.checks_times? factor
  rw [timesOrLongest, Duration.times]
  generalize p.times? factor = result at hchecks
  cases hchecks with
  | @exact q hexact => rw [← hexact, Nat.min_eq_left q.nanos_le_limit, Option.getD_some]
  | overflow hbeyond =>
    rw [Nat.min_eq_right (Nat.le_of_lt hbeyond), Option.getD_none, toDuration_longest]

/-- Durations are compared part by part. -/
theorem atMost_iff : a.atMost b = true ↔ a.toDuration.nanos ≤ b.toDuration.nanos := by
  have ha := a.nanos_lt
  have hb := b.nanos_lt
  simp only [atMost, Bool.or_eq_true, Bool.and_eq_true, decide_eq_true_eq, beq_iff_eq,
    nanos_toDuration, UInt64.lt_iff_toNat_lt, UInt32.le_iff_toNat_le, ← UInt64.toNat_inj]
  omega

end Parts
end Duration

namespace EngineConfig

open Duration (Parts)

variable {config : EngineConfig}

/-- The number of tries per send in 32 bits, which stops at the highest number. -/
def triesInBudget (config : EngineConfig) : UInt32 :=
  if config.maxRetries.toNat + 1 < UInt32.size then config.maxRetries + 1 else config.maxRetries

/-- Whether a wait covers a delivery, as a machine finds out: nothing, if the time of a try
overflows. -/
def coversInParts? (config : EngineConfig) : Option Bool := do
  let each ← (Parts.ofMillis config.ackTimeout).add? (Parts.ofMillis config.processInterval)
  return (each.timesOrLongest config.triesInBudget).atMost (Parts.ofMillis config.waitTimeout)

/-- The time that one try may take, in milliseconds. -/
def tryMillis (config : EngineConfig) : Nat :=
  config.ackTimeout.toNat + config.processInterval.toNat

/-- How long one try takes, in nanoseconds. -/
theorem tryNanos_eq (config : EngineConfig) : config.tryNanos = config.tryMillis * 1000000 := by
  simp only [tryNanos, tryMillis, millis, Duration.ofMillis]
  omega

/-- As many tries are budgeted for as 32 bits can count. -/
theorem toNat_triesInBudget (config : EngineConfig) :
    config.triesInBudget.toNat = config.budgetedAttempts := by
  have hretries := config.maxRetries.toNat_lt_size
  have hlast : Nat.pow 2 32 - 1 + 1 = UInt32.size := by decide
  unfold triesInBudget budgetedAttempts
  split
  · next hcounted =>
    rw [UInt32.toNat_add, Nat.min_eq_left (by omega)]
    exact Nat.mod_eq_of_lt hcounted
  · next hbeyond => rw [Nat.min_eq_right (by omega)]; omega

/-- With fewer retries than 32 bits can count, each try is budgeted for. -/
theorem budgetedAttempts_eq (hretries : config.maxRetries.toNat < UInt32.size - 1) :
    config.budgetedAttempts = config.maxRetries.toNat + 1 := Nat.min_eq_left hretries

/-- No wait and no sum of two settings is as long as the longest duration. -/
theorem millis_lt_limit (setting other : UInt64) :
    (millis setting).nanos + (millis other).nanos < Duration.limit.nanos := by
  have hsetting := setting.toNat_lt
  have hother := other.toNat_lt
  have hlimit : Duration.limit.nanos = 18446744073709551615999999999 := by decide
  simp only [millis, Duration.ofMillis]
  omega

/-- The time of a try does not overflow. -/
theorem tryParts (config : EngineConfig) : ∃ each : Parts,
    (Parts.ofMillis config.ackTimeout).add? (Parts.ofMillis config.processInterval) = some each ∧
      each.toDuration = (millis config.ackTimeout).add (millis config.processInterval) := by
  have hchecks := (Parts.ofMillis config.ackTimeout).checks_add?
    (Parts.ofMillis config.processInterval)
  rw [Parts.toDuration_ofMillis, Parts.toDuration_ofMillis] at hchecks
  generalize (Parts.ofMillis config.ackTimeout).add? _ = result at hchecks ⊢
  cases hchecks with
  | exact hexact => exact ⟨_, rfl, congrArg Duration.mk hexact⟩
  | overflow hbeyond =>
    exact absurd hbeyond (Nat.lt_asymm (millis_lt_limit config.ackTimeout config.processInterval))

/-- A machine finds out the same in parts. -/
theorem coversInParts?_eq (config : EngineConfig) :
    config.coversInParts? = some config.waitCoversDelivery := by
  obtain ⟨each, hadd, heach⟩ := config.tryParts
  rw [coversInParts?, hadd, Option.bind_eq_bind, Option.bind_some]
  refine congrArg some (Bool.eq_iff_iff.mpr ?_)
  rw [Parts.atMost_iff, Parts.toDuration_timesOrLongest, Parts.toDuration_ofMillis,
    toNat_triesInBudget, heach]
  exact decide_eq_true_iff.symm

/-- Cutting a budget to the longest duration does not make it short enough for any wait. -/
theorem waitCoversDelivery_iff (config : EngineConfig) : config.waitCoversDelivery = true ↔
    config.tryMillis * config.budgetedAttempts ≤ config.waitTimeout.toNat := by
  have hwait := millis_lt_limit config.waitTimeout 0
  have hbudget : config.deliveryBudget.nanos =
      min (config.tryNanos * config.budgetedAttempts) Duration.limit.nanos := rfl
  have hwaitNanos : (millis config.waitTimeout).nanos = config.waitTimeout.toNat * 1000000 := rfl
  rw [waitCoversDelivery, decide_eq_true_iff, hbudget, tryNanos_eq, Nat.mul_right_comm]
  omega

end EngineConfig

namespace Engine

variable {σ ρ : Type} {config : EngineConfig} {e e' start : Engine (Watched σ) ρ} {c : Carrier σ}
  {nothing : Watched σ} {outside : ρ} {s s' : Carrier σ × Engine (Watched σ) ρ}

/-- An engine with some settings, by which its retry layer goes, if it has one. -/
structure GoesBy (config : EngineConfig) (e : Engine (Watched σ) ρ) : Prop where
  config_eq : e.config = config
  retries_eq : ∀ r, e.outbound.retry = some r → r.maxRetries = config.maxRetries

/-- A new engine goes by the settings it was made with. -/
theorem goesBy_new (hnew : Engine.new config nothing outside = .ok e) : e.GoesBy config := by
  obtain rfl := eq_of_new hnew
  exact ⟨rfl, nofun⟩

/-- Publishing a failure does not change the settings. -/
@[simp] theorem config_reported {α : Type} (id : UInt16) (result : Except NetworkError α)
    (e : Engine (Watched σ) ρ) : (e.reported id result).2.config = e.config := by
  cases result <;> rfl

/-- Nothing that an engine does changes its settings. -/
theorem Does.config_eq {d : Deed} (hdoes : Does c e d e') : e'.config = e.config := by
  cases hdoes with
  | send => exact config_reported _ _ _
  | @beginWait clock id payload =>
    obtain ⟨sent, -, ⟨-, hbegin⟩ | ⟨error, -, hbegin⟩⟩ :=
      Hall.beginWait_cases (c := c.watched) e clock id payload <;> rw [hbegin] <;> rfl
  | scan => rfl
  | @handle clock frame =>
    cases hack : frame.header.isAck with
    | true => rw [handleFrame, if_pos hack]; rfl
    | false =>
      obtain ⟨errors, outside, duplicates, heq⟩ := handleFrame_eq (e := e) (c := c) clock hack
      rw [heq]
      rcases sendAck_eq (e := e) (c := c) frame.header with hsame | ⟨errors', hsent⟩
      · rw [hsame]
      · rw [hsent]
  | aside => rfl

/-- What an engine does leaves its retry layer the number of retries. -/
theorem Does.retries_eq {d : Deed} (hsteady : e.Steady) (hdoes : Does c e d e') :
    e'.outbound.retry.map (·.maxRetries) = e.outbound.retry.map (·.maxRetries) := by
  rcases hsteady.detached_or_attached with hdetached | hattached
  · have hbefore : e.outbound.bare.retry = none := hdetached.linked.2
    have hafter : e'.outbound.bare.retry = none := (hdetached.does hdoes).detached.linked.2
    rw [Option.map_eq_none_iff.mp hbefore, Option.map_eq_none_iff.mp hafter]
  · have hsame := congrArg (fun o => o.retry.map (·.maxRetries)) (hdoes.bare_eq hattached).1
    simpa [Outbound.bare, Function.comp_def] using hsame

/-- An engine goes by its settings whatever is done with it. -/
theorem GoesBy.step (h : s.2.GoesBy config) (hsound : s.2.Sound) (hstep : Step s s') :
    s'.2.GoesBy config := by
  cases hstep with
  | attach hattach =>
    cases attaches_attach hsound.linked hattach with
    | tracked => exact ⟨h.config_eq, nofun⟩
    | reliable =>
      refine ⟨h.config_eq, ?_⟩
      rintro _ ⟨⟩
      exact congrArg EngineConfig.maxRetries h.config_eq
  | register => exact ⟨h.config_eq, h.retries_eq⟩
  | @does c e e' d hdoes =>
    refine ⟨hdoes.config_eq.trans h.config_eq, fun r hr => ?_⟩
    have hsame := hdoes.retries_eq hsound.steady
    rw [hr] at hsame
    obtain ⟨r₀, hr₀, heq⟩ := Option.map_eq_some_iff.mp hsame.symm
    exact heq.symm.trans (h.retries_eq r₀ hr₀)

/-- An engine goes by its settings in every state that it comes to. -/
theorem goesBy_of_steps (hnew : Engine.new config nothing outside = .ok start)
    (hsteps : Relation.ReflTransGen Step (c, start) s) : s.2.GoesBy config := by
  induction hsteps with
  | refl => exact goesBy_new hnew
  | tail hbefore hstep ih => exact ih.step (sound_of_steps hnew hbefore) hstep

/-- With a retry layer each send is tried once and as often again as the settings say, if that many
tries can be counted. -/
theorem GoesBy.attemptsPerSend_eq (h : e.GoesBy config) (hretry : e.outbound.retry.isSome)
    (hretries : config.maxRetries.toNat < UInt32.size - 1) :
    e.attemptsPerSend.toNat = config.maxRetries.toNat + 1 := by
  obtain ⟨r, hr⟩ := Option.isSome_iff_exists.mp hretry
  simp only [attemptsPerSend, hr]
  rw [h.retries_eq r hr, UInt32.toNat_add]
  exact Nat.mod_eq_of_lt (Nat.add_lt_of_lt_sub hretries)

end Engine

namespace EngineConfig

open Duration (Parts)

/-- The time of a try does not overflow. Its multiple may, and is cut to the longest duration then,
which changes nothing about what is found out in parts: a wait covers a delivery exactly if the
unbounded product is no longer than it, where the number of tries stops at the highest number of 32
bits. Below that number it is one more than the retries, and so many tries are what every engine
plans for which a retry layer is in place. -/
theorem budget_is_exact {σ ρ : Type} (config : EngineConfig) (c : Carrier σ) (nothing : Watched σ)
    (outside : ρ) :
    (∃ each : Parts,
      (Parts.ofMillis config.ackTimeout).add? (Parts.ofMillis config.processInterval) = some each ∧
      each.toDuration.nanos = config.tryNanos ∧
      (each.times? config.triesInBudget = none ↔
        Duration.limit.nanos < config.tryNanos * config.triesInBudget.toNat) ∧
      (each.timesOrLongest config.triesInBudget).toDuration = config.deliveryBudget ∧
      config.coversInParts? = some config.waitCoversDelivery) ∧
    (config.waitCoversDelivery = true ↔
      config.tryMillis * min (config.maxRetries.toNat + 1) (UInt32.size - 1) ≤
        config.waitTimeout.toNat) ∧
    (config.maxRetries.toNat < UInt32.size - 1 →
      (config.waitCoversDelivery = true ↔
        config.tryMillis * (config.maxRetries.toNat + 1) ≤ config.waitTimeout.toNat) ∧
      ∀ (start : Engine (Watched σ) ρ) (s : Carrier σ × Engine (Watched σ) ρ),
        Engine.new config nothing outside = .ok start →
        Relation.ReflTransGen Engine.Step (c, start) s → s.2.outbound.retry.isSome →
        s.2.attemptsPerSend.toNat = config.maxRetries.toNat + 1) := by
  refine ⟨?_, config.waitCoversDelivery_iff, fun hretries => ⟨?_, ?_⟩⟩
  · obtain ⟨each, hadd, heach⟩ := config.tryParts
    have hnanos : each.toDuration.nanos = config.tryNanos := congrArg Duration.nanos heach
    refine ⟨each, hadd, hnanos, ?_, ?_, config.coversInParts?_eq⟩
    · rw [← hnanos, Parts.times?_eq_none_iff]
    · rw [Parts.toDuration_timesOrLongest, heach, toNat_triesInBudget, deliveryBudget]
  · rw [waitCoversDelivery_iff, budgetedAttempts_eq hretries]
  · intro start s hnew hsteps hretry
    exact (Engine.goesBy_of_steps hnew hsteps).attemptsPerSend_eq hretry hretries

/-- The highest number of tries that can be counted, and a wait that is just long enough. -/
theorem budget_is_exact_of_most_tries :
    let config : EngineConfig :=
      { ackTimeout := 1, processInterval := 1, waitTimeout := 8589934590, maxRetries := 4294967294 }
    let c := MemoryLink.carrier .near
    config.waitCoversDelivery = true ∧
    ∃ (start : Engine (Watched MemoryLink) Unit)
      (s : Carrier MemoryLink × Engine (Watched MemoryLink) Unit),
      Engine.new config ⟨{}, []⟩ () = .ok start ∧
      Relation.ReflTransGen Engine.Step (c, start) s ∧ s.2.attemptsPerSend.toNat = 4294967295 := by
  intro config c
  have hvalid : config.validate = .ok () := rfl
  obtain ⟨start, hnew, hattach⟩ := Engine.exists_attach_onLink hvalid .near ()
  have hattached : Engine.Step (c, start) (c, Engine.onLink config .near ()) := .attach hattach
  obtain ⟨-, -, hcounted⟩ := budget_is_exact config c ⟨{}, []⟩ ()
  obtain ⟨hcovers, hattempts⟩ := hcounted (by decide)
  exact ⟨hcovers.mpr (by decide), start, _, hnew, .single hattached,
    hattempts start _ hnew (.single hattached) rfl⟩

/-- The highest number of retries is one less than the tries, which cannot be counted. A wait that
is just too short counts as long enough. -/
theorem wait_covers_uncounted_try :
    let config : EngineConfig :=
      { ackTimeout := 1, processInterval := 1, waitTimeout := 8589934590, maxRetries := 4294967295 }
    config.validate = .ok () ∧ ¬(config.waitCoversDelivery = true ↔
      config.tryMillis * (config.maxRetries.toNat + 1) ≤ config.waitTimeout.toNat) := by
  refine ⟨rfl, ?_⟩
  decide

end EngineConfig

end Courier
