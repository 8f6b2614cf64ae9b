/-!
# Durations and clock readings

Time is counted in nanoseconds, exactly. A duration has an upper limit at which
multiplication stops instead of overflowing, and a millisecond count keeps 64 bits.
-/

namespace Courier

/-- A reading of a clock that never goes back, in nanoseconds since it was started. -/
abbrev Time := Nat

/-- A span of time in nanoseconds. -/
structure Duration where
  nanos : Nat
deriving DecidableEq, Repr

namespace Duration

/-- The longest duration: 64 bits of seconds and all but one nanosecond of the next. -/
def limit : Duration := ⟨(Nat.pow 2 64 - 1) * 1000000000 + 999999999⟩

/-- A whole number of milliseconds. -/
def ofMillis (millis : Nat) : Duration := ⟨millis * 1000000⟩

/-- Seconds and nanoseconds together. -/
def ofParts (seconds nanos : Nat) : Duration := ⟨seconds * 1000000000 + nanos⟩

/-- The completed milliseconds. -/
def wholeMillis (d : Duration) : Nat := d.nanos / 1000000

/-- The completed milliseconds as far as 64 bits go; higher bits are lost. -/
def millis64 (d : Duration) : UInt64 := UInt64.ofNat d.wholeMillis

/-- The sum of two durations. -/
def add (a b : Duration) : Duration := ⟨a.nanos + b.nanos⟩

/-- A multiple of a duration, or the limit when the multiple lies beyond it. -/
def times (d : Duration) (factor : Nat) : Duration := ⟨min (d.nanos * factor) limit.nanos⟩

/-- A duration of at least `least`. -/
def atLeast (d least : Duration) : Duration := ⟨max d.nanos least.nanos⟩

/-- A quarter of a duration, in completed nanoseconds. -/
def quarter (d : Duration) : Duration := ⟨d.nanos / 4⟩

/-- The digits of a fraction of `unit`, with the zeros at its end left out. -/
def fractionDigits (unit part : Nat) : List Char :=
  let width := (toString unit).length - 1
  let digits := (toString part).toList
  let padded := List.replicate (width - digits.length) '0' ++ digits
  (padded.reverse.dropWhile (· == '0')).reverse

/-- A number of units with as many decimal places as it needs. -/
def inUnits (nanos unit : Nat) (suffix : String) : String :=
  match fractionDigits unit (nanos % unit) with
  | [] => s!"{nanos / unit}{suffix}"
  | digits => s!"{nanos / unit}.{String.ofList digits}{suffix}"

/-- A duration in the largest of seconds, milliseconds, microseconds and nanoseconds that
it fills at least once. -/
def describe (d : Duration) : String :=
  if 1000000000 ≤ d.nanos then inUnits d.nanos 1000000000 "s"
  else if 1000000 ≤ d.nanos then inUnits d.nanos 1000000 "ms"
  else if 1000 ≤ d.nanos then inUnits d.nanos 1000 "µs"
  else s!"{d.nanos}ns"

end Duration

end Courier
