import Courier.Decimal.Binary64

/-!
# The shortest decimal of a binary number

Of all decimals that round to a given binary number the one with the fewest digits is
written, and of those the one nearest to the number. Whether it is written positionally
or with an exponent is up to the format.
-/

namespace Courier.Decimal

/-- A decimal `digits * 10 ^ exponent`. -/
structure Scaled where
  digits : Nat
  exponent : Int
deriving DecidableEq, Repr

/-- The interval of magnitudes that round to a number. Its ends and the number itself are
numerators over one denominator. -/
structure Interval where
  low : Nat
  center : Nat
  high : Nat
  /-- Whether the ends themselves round to the number. -/
  closed : Bool
  denominator : Nat
deriving DecidableEq, Repr

/-- The interval of magnitudes that round to a positive finite number. Below a power of
two the neighbour is only half as far away. -/
def Interval.ofBinary (x : Binary64) : Interval :=
  let m := x.significand
  let narrow := x.fractionField = 0 ∧ 1 < x.exponentField
  let low := if narrow then 4 * m - 1 else 4 * m - 2
  let up := if 1076 ≤ x.scale then Nat.pow 2 (x.scale - 1076) else 1
  let down := if 1076 ≤ x.scale then 1 else Nat.pow 2 (1076 - x.scale)
  ⟨low * up, 4 * m * up, (4 * m + 2) * up, m % 2 = 0, down⟩

/-- Whether `n * num / den` lies in the interval. -/
def Interval.holds (i : Interval) (n num den : Nat) : Bool :=
  let value := n * num * i.denominator
  if i.closed then i.low * den ≤ value && value ≤ i.high * den
  else i.low * den < value && value < i.high * den

/-- The position of the point, counted from before the first digit that is not zero: the
quotient lies below `10 ^ position`, and not below `10 ^ (position - 1)`. The search starts
at `guess` and goes up. -/
def pointFrom (num den : Nat) : Nat → Int → Int
  | 0, guess => guess
  | fuel + 1, guess =>
    let below :=
      if 0 ≤ guess then num < den * Nat.pow 10 guess.toNat
      else num * Nat.pow 10 (-guess).toNat < den
    if below then guess else pointFrom num den fuel (guess + 1)

/-- The candidates with exponent `exponent`: the two neighbours of the number on that grid
that round to it, the nearer one first, the even one first when both are equally near. -/
def candidates (i : Interval) (exponent : Int) : List Nat :=
  let num := if 0 ≤ exponent then Nat.pow 10 exponent.toNat else 1
  let den := if 0 ≤ exponent then 1 else Nat.pow 10 (-exponent).toNat
  -- The number divided by the grid's unit, as a quotient.
  let top := i.center * den
  let bottom := i.denominator * num
  let floor := top / bottom
  let twice := 2 * (top % bottom)
  let upper := bottom < twice ∨ (twice = bottom ∧ floor % 2 = 1)
  let ordered := if upper then [floor + 1, floor] else [floor, floor + 1]
  ordered.filter fun n => 0 < n && i.holds n num den

/-- Tries one digit, two digits and so on, up to `fuel` more than already tried. -/
def search (i : Interval) (magnitude : Int) : Nat → Nat → Scaled
  | 0, _ => ⟨0, 0⟩
  | fuel + 1, digits =>
    let exponent := magnitude - digits
    match candidates i exponent with
    | n :: _ => ⟨n, exponent⟩
    | [] => search i magnitude fuel (digits + 1)

/-- Moves zeros at the end of the digits into the exponent. -/
def Scaled.trimmed (fuel : Nat) (s : Scaled) : Scaled :=
  match fuel with
  | 0 => s
  | fuel + 1 =>
    if s.digits ≠ 0 ∧ s.digits % 10 = 0 then Scaled.trimmed fuel ⟨s.digits / 10, s.exponent + 1⟩
    else s

/-- The shortest decimal that rounds to a finite number, without its sign. Seventeen digits
always suffice. -/
def shortest (x : Binary64) : Scaled :=
  if x.isZero then ⟨0, 0⟩
  else
    let i := Interval.ofBinary x
    let magnitude := pointFrom i.center i.denominator 700 (-330)
    (search i magnitude 18 1).trimmed 18

/-- How decimals are laid out: which positions of the point are written positionally. -/
structure Layout where
  /-- The least position of the point, counted from before the first digit, that is still
  written with zeros after the point. -/
  least : Int
  /-- The greatest position of the point that is still written positionally. -/
  greatest : Int

/-- Lays out a decimal as a numeral with at least one digit after the point, or as one
digit, the others after the point and an exponent. -/
def Layout.numeral (layout : Layout) (negative : Bool) (s : Scaled) : Numeral :=
  let digits := natDigits s.digits
  let point : Int := digits.length + s.exponent
  if s.digits = 0 then ⟨negative, [.zero], some [.zero], none⟩
  else if layout.least ≤ point ∧ point ≤ layout.greatest then
    if point ≤ 0 then
      ⟨negative, [.zero], some (List.replicate (-point).toNat Digit.zero ++ digits), none⟩
    else
      let fraction := digits.drop point.toNat
      ⟨negative, digits.take point.toNat
          ++ List.replicate (point.toNat - digits.length) Digit.zero,
        some (if fraction.isEmpty then [.zero] else fraction), none⟩
  else
    let fraction := digits.drop 1
    ⟨negative, digits.take 1, if fraction.isEmpty then none else some fraction, some (point - 1)⟩

end Courier.Decimal
