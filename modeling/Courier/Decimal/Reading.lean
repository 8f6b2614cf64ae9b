import Courier.Decimal.Binary64

/-!
# Reading decimals as binary numbers

A decimal is read in two rounded steps. Its digits are taken together into one whole
number as long as that fits 64 bits; the whole number is rounded, and then multiplied or
divided by a rounded power of ten, which rounds once more. The result can be a neighbour
of the nearest number. The other reading rounds once.
-/

namespace Courier.Decimal

/-- The digits that are kept: their value and the power of ten that goes with it. -/
structure Kept where
  significand : Nat
  exponent : Int
deriving DecidableEq, Repr

/-- Takes digits before the point. From the first digit that does not fit on, digits only
count for the exponent. -/
def Kept.whole (k : Kept) : List Digit → Kept
  | [] => k
  | d :: rest =>
    if k.significand * 10 + d.val < Nat.pow 2 64 then
      Kept.whole ⟨k.significand * 10 + d.val, k.exponent⟩ rest
    else ⟨k.significand, k.exponent + (rest.length + 1)⟩

/-- Takes digits after the point, up to the first one that does not fit. -/
def Kept.fraction (k : Kept) : List Digit → Kept
  | [] => k
  | d :: rest =>
    if k.significand * 10 + d.val < Nat.pow 2 64 then
      Kept.fraction ⟨k.significand * 10 + d.val, k.exponent - 1⟩ rest
    else k

/-- The digits of a numeral that are kept, with the exponent of ten. -/
def Kept.ofNumeral (n : Numeral) : Kept :=
  let kept := ((⟨0, 0⟩ : Kept).whole n.whole).fraction (n.fraction.getD [])
  ⟨kept.significand, kept.exponent + n.exponent.getD 0⟩

/-- The greatest power of ten that a multiplication or division takes at once. -/
def largestPower : Nat := 308

/-- Divides by a power of ten, at most `largestPower` at a time, until nothing is left. -/
def dividedByPower (x : Binary64) (n : Nat) : Binary64 :=
  if x.isZero then x
  else if _h : n ≤ largestPower then x.dividedNearest (.powerOfTen n)
  else dividedByPower (x.dividedNearest (.powerOfTen largestPower)) (n - largestPower)
termination_by n
decreasing_by simp only [largestPower] at *; omega

/-- Multiplies by a power of ten; a result that is too large is refused. -/
def multipliedByPower? (x : Binary64) (n : Nat) : Option Binary64 :=
  if x.isZero then some x
  else if n ≤ largestPower then
    let product := x.timesNearest (.powerOfTen n)
    if product.isFinite then some product else none
  else none

/-- Reads a numeral in two rounded steps; a number that is too large is refused. -/
def readTwice? (n : Numeral) : Option Binary64 :=
  let kept := Kept.ofNumeral n
  let start := Binary64.ofQuotient kept.significand 1
  let magnitude? :=
    if 0 ≤ kept.exponent then multipliedByPower? start kept.exponent.toNat
    else some (dividedByPower start (-kept.exponent).toNat)
  magnitude?.map (Binary64.withSign n.negative)

/-- Whether the nearest binary number to a numeral is infinite. Exponents far beyond the
range of numbers are decided by the count of digits alone. -/
def isTooLarge (n : Numeral) : Bool :=
  let digits := n.whole ++ n.fraction.getD []
  let significand := digitsValue 0 digits
  let exponent := n.exponent.getD 0 - (n.fraction.getD []).length
  if significand = 0 then false
  else if 400 < exponent + digits.length ∧ 400 < exponent + (natDigits significand).length then true
  else if exponent < 0 then
    if exponent + digits.length < 0 then false
    else !(Binary64.ofQuotient significand (Nat.pow 10 (-exponent).toNat)).isFinite
  else !(Binary64.ofQuotient (significand * Nat.pow 10 exponent.toNat) 1).isFinite

end Courier.Decimal
