/-!
# Hexadecimal numerals

A number in base sixteen, padded on the left to a least width, with the letters in
either case.
-/

namespace Courier.Text

/-- The digit of a value below sixteen, from `a` on in lower case. -/
def lowerHexDigit (value : Nat) : Char :=
  if value < 10 then Char.ofNat (48 + value) else Char.ofNat (87 + value)

/-- The digit of a value below sixteen, from `A` on in upper case. -/
def upperHexDigit (value : Nat) : Char :=
  if value < 10 then Char.ofNat (48 + value) else Char.ofNat (55 + value)

/-- The digits of a number in base sixteen, most significant first and without
leading zeros; zero has none. -/
def hexValues (n : Nat) : List Nat :=
  if n = 0 then [] else hexValues (n / 16) ++ [n % 16]
termination_by n
decreasing_by omega

/-- A numeral of at least `width` digits, each written by `digit`. -/
def hexNumeral (digit : Nat → Char) (width n : Nat) : String :=
  let values := hexValues n
  String.ofList ((List.replicate (width - values.length) 0 ++ values).map digit)

/-- Four upper-case digits, enough for any 16-bit word. -/
def upperHex4 (word : UInt16) : String := hexNumeral upperHexDigit 4 word.toNat

end Courier.Text
