import Courier.Decimal.Numeral

/-!
# Binary numbers of 64 bits

A 64-bit pattern holds a sign, an exponent and a significand. Here a pattern is taken
apart into a whole number and a power of two, and a quotient of whole numbers is rounded
to the nearest pattern, ties going to the even one. All of it is exact arithmetic on
natural numbers.
-/

namespace Courier

/-- A binary number of 64 bits, given by its bit pattern. -/
structure Binary64 where
  bits : UInt64
deriving DecidableEq, Repr

namespace Binary64

/-- The sign bit. -/
def negative (x : Binary64) : Bool := Nat.pow 2 63 ≤ x.bits.toNat

/-- The eleven exponent bits. -/
def exponentField (x : Binary64) : Nat := x.bits.toNat / Nat.pow 2 52 % Nat.pow 2 11

/-- The fifty-two fraction bits. -/
def fractionField (x : Binary64) : Nat := x.bits.toNat % Nat.pow 2 52

/-- All exponent bits set mark the infinities and the patterns that are no numbers. -/
def isFinite (x : Binary64) : Bool := x.exponentField < 2047

/-- The whole number whose multiple by `2 ^ (scale - 1074)` is the magnitude. -/
def significand (x : Binary64) : Nat :=
  if x.exponentField = 0 then x.fractionField else Nat.pow 2 52 + x.fractionField

/-- How far the significand is shifted above the least power of two, which is the one with
exponent -1074. -/
def scale (x : Binary64) : Nat := x.exponentField - 1

/-- The same magnitude with the given sign. -/
def withSign (negative : Bool) (x : Binary64) : Binary64 :=
  ⟨UInt64.ofNat (x.bits.toNat % Nat.pow 2 63 + if negative then Nat.pow 2 63 else 0)⟩

/-- The positive infinity. -/
def infinity : Binary64 := ⟨0x7FF0000000000000⟩

/-- The number of binary digits of a natural number; zero has none. -/
def bitLength (n : Nat) : Nat := if n = 0 then 0 else n.log2 + 1

/-- The quotient rounded to the nearest whole number, ties to the even one. -/
def roundedQuotient (num den : Nat) : Nat :=
  let q := num / den
  let twice := 2 * (num % den)
  if den < twice ∨ (twice = den ∧ q % 2 = 1) then q + 1 else q

/-- The shift at which `num / den`, measured in units of `2 ^ (shift - 1074)`, has at most
53 binary digits before the point. It is an estimate that may be one too small. -/
def shiftFor (num den : Nat) : Nat := (bitLength num + 1074) - (bitLength den + 53)

/-- The number of units `2 ^ (shift - 1074)` nearest to a quotient. -/
def unitsAt (num den shift : Nat) : Nat :=
  if 1074 ≤ shift then roundedQuotient num (den * Nat.pow 2 (shift - 1074))
  else roundedQuotient (num * Nat.pow 2 (1074 - shift)) den

/-- The pattern of `units` times `2 ^ (shift - 1074)`, where `units` has at most 53 binary
digits, and has exactly 53 when `shift` is positive. -/
def assemble (units shift : Nat) : Binary64 :=
  let bits := if units < Nat.pow 2 52 then units else units + shift * Nat.pow 2 52
  if 2047 * Nat.pow 2 52 ≤ bits then infinity else ⟨UInt64.ofNat bits⟩

/-- The pattern nearest to a quotient, ties to the even one; what lies beyond the largest
number by half a unit or more becomes infinite. -/
def ofQuotient (num den : Nat) : Binary64 :=
  let shift := shiftFor num den
  let units := unitsAt num den shift
  if units < Nat.pow 2 53 then assemble units shift
  else if units = Nat.pow 2 53 then assemble (Nat.pow 2 52) (shift + 1)
  else
    let units := unitsAt num den (shift + 1)
    if units < Nat.pow 2 53 then assemble units (shift + 1) else assemble (Nat.pow 2 52) (shift + 2)

/-- The magnitude as a quotient of whole numbers. -/
def quotient (x : Binary64) : Nat × Nat :=
  if 1074 ≤ x.scale then (x.significand * Nat.pow 2 (x.scale - 1074), 1)
  else (x.significand, Nat.pow 2 (1074 - x.scale))

/-- The pattern nearest to the product of two magnitudes. -/
def timesNearest (x y : Binary64) : Binary64 :=
  ofQuotient (x.quotient.1 * y.quotient.1) (x.quotient.2 * y.quotient.2)

/-- The pattern nearest to the quotient of two magnitudes. -/
def dividedNearest (x y : Binary64) : Binary64 :=
  ofQuotient (x.quotient.1 * y.quotient.2) (x.quotient.2 * y.quotient.1)

/-- The pattern nearest to a power of ten. -/
def powerOfTen (n : Nat) : Binary64 := ofQuotient (Nat.pow 10 n) 1

/-- Whether the magnitude is zero. -/
def isZero (x : Binary64) : Bool := x.exponentField = 0 && x.fractionField = 0

end Binary64

end Courier
