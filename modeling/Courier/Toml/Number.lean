import Courier.Decimal.Reading
import Courier.Toml.Scan

/-!
# Numbers and dates in TOML

Integers are decimal with an optional sign, or hexadecimal, octal or binary without one,
and fit 64 bits. Fractional numbers and dates are checked, but as no setting is made of
them their values are not kept.
-/

namespace Courier.Toml

/-- The value of a digit in a base of at most sixteen. -/
def digitValue? (base : Nat) (c : Char) : Option Nat :=
  let value :=
    if '0' ≤ c ∧ c ≤ '9' then c.toNat - 48
    else if 'a' ≤ c ∧ c ≤ 'f' then c.toNat - 87
    else if 'A' ≤ c ∧ c ≤ 'F' then c.toNat - 55
    else base
  if value < base then some value else none

/-- Whether a digit of a base starts here. -/
def startsDigit (base : Nat) : List Char → Bool
  | c :: _ => (digitValue? base c).isSome
  | [] => false

/-- Continues a number with digits and single underscores, each between two digits. -/
def moreDigits (base : Nat) : List Char → Scan (List Nat)
  | '_' :: rest =>
    if startsDigit base rest then moreDigits base rest else .error (.unexpected rest)
  | c :: rest =>
    match digitValue? base c with
    | some d => (moreDigits base rest).map fun (ds, rest) => (d :: ds, rest)
    | none => .ok ([], c :: rest)
  | [] => .ok ([], [])

/-- Reads digits and single underscores between them; zeros may stand in front. -/
def digitGroup (base : Nat) (cs : List Char) : Scan (List Nat) :=
  if startsDigit base cs then moreDigits base cs else .error (.unexpected cs)

/-- The number that digits of a base spell. -/
def ofDigits (base : Nat) (digits : List Nat) : Nat :=
  digits.foldl (fun n d => n * base + d) 0

/-- Reads a sign, if one stands here, and says whether it is a minus. -/
def sign : List Char → Bool × List Char
  | '-' :: rest => (true, rest)
  | '+' :: rest => (false, rest)
  | cs => (false, cs)

/-- Reads the digits before the point, of which a zero in front is the only one. -/
def wholePart : List Char → Scan (List Nat)
  | '0' :: rest => .ok ([0], rest)
  | cs => digitGroup 10 cs

/-- Reads a point and digits, if a point stands here. -/
def fractionPart : List Char → Scan (Option (List Nat))
  | '.' :: rest => (digitGroup 10 rest).map fun (ds, rest) => (some ds, rest)
  | cs => .ok (none, cs)

/-- Reads an exponent, if one stands here. -/
def exponentPart : List Char → Scan (Option Int)
  | [] => .ok (none, [])
  | c :: rest =>
    if c = 'e' ∨ c = 'E' then
      let (negative, rest) := sign rest
      (digitGroup 10 rest).map fun (ds, rest) =>
        let n : Int := ofDigits 10 ds
        (some (if negative then -n else n), rest)
    else .ok (none, c :: rest)

/-- A number as far as settings can tell. -/
inductive Number where
  | integer (n : Int)
  /-- A number with a point or an exponent, or one of the special ones. -/
  | fractional
deriving DecidableEq, Repr

/-- What a numeral stands for: an integer has to fit 64 bits, and a fractional number may
not be too large, unless it is negative. -/
def Number.ofNumeral (n : Numeral) : Except Fault Number :=
  if n.isPlain then
    let value : Int := digitsValue 0 n.whole
    let value := if n.negative then -value else value
    if -(Nat.pow 2 63 : Int) ≤ value ∧ value < Nat.pow 2 63 then .ok (.integer value)
    else .error .outOfRange
  else if !n.negative && Decimal.isTooLarge n then .error .outOfRange
  else .ok .fractional

/-- Reads a decimal number, or a special one, after an optional sign. -/
def decimal (cs : List Char) : Scan Number :=
  let (negative, rest) := sign cs
  if (literal? ['i', 'n', 'f'] rest).isSome ∨ (literal? ['n', 'a', 'n'] rest).isSome then
    .ok (.fractional, rest.drop 3)
  else
    (wholePart rest).bind fun (whole, rest) =>
    (fractionPart rest).bind fun (fraction, rest) =>
    (exponentPart rest).bind fun (exponent, rest) =>
    let numeral : Numeral :=
      ⟨negative, whole.map .last, fraction.map (·.map .last), exponent⟩
    (Number.ofNumeral numeral).map (·, rest)

/-- Reads the digits of a number in another base. -/
def based (base : Nat) (cs : List Char) : Scan Number :=
  (digitGroup base cs).bind fun (ds, rest) =>
    let n := ofDigits base ds
    if n < Nat.pow 2 63 then .ok (.integer n, rest) else .error .outOfRange

/-- Reads a number. -/
def number : List Char → Scan Number
  | '0' :: 'x' :: rest => based 16 rest
  | '0' :: 'o' :: rest => based 8 rest
  | '0' :: 'b' :: rest => based 2 rest
  | cs => decimal cs

/-! ## Dates -/

/-- Reads exactly `count` decimal digits. -/
def fixedDigits? : Nat → Nat → List Char → Option (Nat × List Char)
  | 0, n, cs => some (n, cs)
  | count + 1, n, c :: rest =>
    (digitValue? 10 c).bind fun d => fixedDigits? count (n * 10 + d) rest
  | _ + 1, _, [] => none

/-- Reads two digits within bounds. -/
def twoDigits (least greatest : Nat) (cs : List Char) : Scan Nat :=
  match fixedDigits? 2 0 cs with
  | some (n, rest) => if least ≤ n ∧ n ≤ greatest then .ok (n, rest) else .error .outOfRange
  | none => .error (.unexpected cs)

/-- The number of days of a month. -/
def daysIn (year month : Nat) : Nat :=
  if month = 2 then
    if year % 4 = 0 ∧ (year % 100 ≠ 0 ∨ year % 400 = 0) then 29 else 28
  else if month = 4 ∨ month = 6 ∨ month = 9 ∨ month = 11 then 30
  else 31

/-- Drops a point and the digits after it, if they stand here. -/
def secondFraction : List Char → List Char
  | '.' :: c :: rest => if (digitValue? 10 c).isSome then rest.dropWhile (·.isDigit)
      else '.' :: c :: rest
  | cs => cs

/-- Whether a time of day starts here: two digits of an hour and a colon. -/
def startsTime (cs : List Char) : Bool :=
  match twoDigits 0 23 cs with
  | .ok (_, ':' :: _) => true
  | _ => false

/-- Drops a time of day, once its hour is known to stand here. -/
def timeOfDay (cs : List Char) : Except Fault (List Char) := do
  let (_, rest) ← twoDigits 0 23 cs
  let rest ← expect ':' rest
  let (_, rest) ← twoDigits 0 59 rest
  let rest ← expect ':' rest
  let (_, rest) ← twoDigits 0 60 rest
  return secondFraction rest

/-- Drops the distance from universal time, if one stands here. -/
def zone : List Char → Except Fault (List Char)
  | 'Z' :: rest => .ok rest
  | 'z' :: rest => .ok rest
  | c :: rest =>
    if c = '+' ∨ c = '-' then do
      let (_, rest) ← twoDigits 0 23 rest
      let rest ← expect ':' rest
      let (_, rest) ← twoDigits 0 59 rest
      return rest
    else .ok (c :: rest)
  | [] => .ok []

/-- Drops a date and, if one follows, the time of day on it. -/
def date (cs : List Char) : Except Fault (List Char) :=
  match fixedDigits? 4 0 cs with
  | some (year, '-' :: rest) => do
    let (month, rest) ← twoDigits 1 12 rest
    let rest ← expect '-' rest
    let (day, rest) ← twoDigits 1 31 rest
    if daysIn year month < day then throw .outOfRange
    match rest with
    | c :: time =>
      if (c = 'T' ∨ c = 't' ∨ c = ' ') ∧ startsTime time then zone (← timeOfDay time)
      else return rest
    | [] => return []
  | _ => .error (.unexpected cs)

/-- Whether a date or a time of day starts here. -/
def startsDate (cs : List Char) : Bool :=
  startsTime cs ||
    match fixedDigits? 4 0 cs with
    | some (_, '-' :: _) => true
    | _ => false

end Courier.Toml
