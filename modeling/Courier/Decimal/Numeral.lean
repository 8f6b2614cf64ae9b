import Courier.Bytes

/-!
# Decimal numerals

A decimal numeral is kept as it was written: a sign, the digits before the point, the
digits after it and an exponent of ten. Whether it stands for a whole number, and which
binary number lies near it, is decided from these parts.
-/

namespace Courier

/-- A decimal digit. -/
abbrev Digit := Fin 10

/-- The byte that spells a digit. -/
def Digit.byte (d : Digit) : UInt8 := UInt8.ofNat (48 + d.val)

/-- The digit that a byte spells. -/
def Digit.ofByte? (b : UInt8) : Option Digit :=
  if h : 48 ≤ b.toNat ∧ b.toNat < 58 then some ⟨b.toNat - 48, by omega⟩ else none

@[simp] theorem Digit.ofByte?_byte (d : Digit) : Digit.ofByte? d.byte = some d := by
  have h := d.isLt
  have hb : d.byte.toNat = 48 + d.val := by
    simp only [Digit.byte, UInt8.toNat_ofNat']
    omega
  simp [Digit.ofByte?, hb]
  omega

/-- The digit that stands for nothing. -/
def Digit.zero : Digit := ⟨0, by omega⟩

/-- The number that digits spell when they follow the digits of `start`. -/
def digitsValue (start : Nat) (digits : List Digit) : Nat :=
  digits.foldl (fun n d => n * 10 + d.val) start

/-- The last digit of a number. -/
def Digit.last (n : Nat) : Digit := ⟨n % 10, by omega⟩

/-- The digits of a number, most significant first; zero has one. -/
def natDigits (n : Nat) : List Digit :=
  if h : n < 10 then [⟨n, h⟩] else natDigits (n / 10) ++ [.last n]
termination_by n
decreasing_by omega

/-- A decimal numeral as it was written. -/
structure Numeral where
  negative : Bool
  /-- The digits before the point. -/
  whole : List Digit
  /-- The digits after the point, if there is a point. -/
  fraction : Option (List Digit)
  /-- The exponent of ten, if one is written. -/
  exponent : Option Int
deriving DecidableEq, Repr

namespace Numeral

/-- The numeral of a natural number. -/
def ofNat (n : Nat) : Numeral := ⟨false, natDigits n, none, none⟩

/-- The numeral of an integer. -/
def ofInt (n : Int) : Numeral := ⟨n < 0, natDigits n.natAbs, none, none⟩

/-- Whether the numeral is written as an integer: no point and no exponent. -/
def isPlain (n : Numeral) : Bool := n.fraction.isNone && n.exponent.isNone

/-- The value of a numeral that is written as an integer. A negative zero is not one: it
can only be meant as a fractional number that keeps its sign. -/
def toInt? (n : Numeral) : Option Int :=
  let value := digitsValue 0 n.whole
  if !n.isPlain then none
  else if n.negative then if value = 0 then none else some (-(value : Int))
  else some value

/-- An exponent as it is written: its sign always, and no zeros in front. -/
def exponentBytes (e : Int) : Bytes :=
  (if e < 0 then 0x2D else 0x2B) :: (natDigits e.natAbs).map Digit.byte

/-- The numeral as text. -/
def bytes (n : Numeral) : Bytes :=
  (if n.negative then [0x2D] else []) ++ n.whole.map Digit.byte
    ++ (match n.fraction with
        | some digits => 0x2E :: digits.map Digit.byte
        | none => [])
    ++ (match n.exponent with
        | some e => 0x65 :: exponentBytes e
        | none => [])

end Numeral

end Courier
