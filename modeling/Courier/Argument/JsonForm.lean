import Courier.Argument.Codec
import Courier.Argument.Shape
import Courier.Decimal.Reading
import Courier.Decimal.Shortest
import Courier.Json.Printer
import Courier.Json.Reader

/-!
# The JSON form of arguments

Numbers, texts and lists are what they look like, pairs are lists of two, and an optional
item that is missing is `null`. Reading takes the whole text: nothing but blanks may follow
the argument.
-/

namespace Courier.JsonForm

open Json (Value)

/-- Fractional numbers are positional while the point lies at most four zeros before the
first digit and at most sixteen digits after it. -/
def floatLayout : Decimal.Layout := ⟨-4, 16⟩

/-- A fractional number as a value; infinities and patterns that are no numbers have no
numeral. -/
def ofFloat (x : Binary64) : Value :=
  if x.isFinite then .number (floatLayout.numeral x.negative (Decimal.shortest x)) else .null

/-- The value of an argument. -/
def ofArgument : (s : Shape) → s.Value → Value
  | .unsigned _, v => .number (.ofNat v.toNat)
  | .signed _, v => .number (.ofInt v.toInt)
  | .bool, v => .bool v
  | .char, v => .ofString (String.singleton v)
  | .unit, _ => .null
  | .float, v => ofFloat v
  | .text, v => .ofString v
  | .priority, v => .ofString v.name
  | .list item, vs => .list (vs.map (ofArgument item))
  | .option _, none => .null
  | .option item, some v => ofArgument item v
  | .pair first second, (a, b) => .list [ofArgument first a, ofArgument second b]

/-- An integer literal. -/
def int? : Value → Option Int
  | .number n => n.toInt?
  | _ => none

/-- An integer literal that fits an unsigned width. -/
def unsigned? (bits : Nat) (v : Value) : Option (BitVec bits) := do
  let n ← int? v
  if 0 ≤ n ∧ n < Nat.pow 2 bits then some (BitVec.ofInt bits n) else none

/-- An integer literal that fits a signed width. -/
def signed? (bits : Nat) (v : Value) : Option (BitVec bits) := do
  let n ← int? v
  if -(Nat.pow 2 (bits - 1) : Int) ≤ n ∧ n < Nat.pow 2 (bits - 1) then some (BitVec.ofInt bits n)
  else none

/-- A fractional number: any number that is not too large. -/
def float? : Value → Option Binary64
  | .number n => Decimal.readTwice? n
  | _ => none

/-- A string that means a text. -/
def text? : Value → Option String
  | .text t => t.content?
  | _ => none

/-- The name of a variant: a string, or a record whose only field has that name and holds
`null`. -/
def variantName? : Value → Option String
  | .text t => t.content?
  | .record [(name, .null)] => Json.Text.content? name
  | _ => none

/-- The argument that a value stands for. -/
def toArgument? : (s : Shape) → Value → Option s.Value
  | .unsigned w, v => unsigned? w.bits v
  | .signed w, v => signed? w.bits v
  | .bool, .bool b => some b
  | .bool, _ => none
  | .char, v => do
    let s ← text? v
    match s.toList with
    | [c] => some c
    | _ => none
  | .unit, .null => some ()
  | .unit, _ => none
  | .float, v => float? v
  | .text, v => text? v
  | .priority, v => (variantName? v).bind Priority.ofName?
  | .list item, .list vs => vs.mapM (toArgument? item)
  | .list _, _ => none
  | .option _, .null => some none
  | .option item, v => (toArgument? item v).map some
  | .pair first second, .list [a, b] => do
    let a ← toArgument? first a
    let b ← toArgument? second b
    return (a, b)
  | .pair _ _, _ => none

/-- Reads a value off the front of a text and takes it for what it stands for, or tells where
it cannot. -/
def front {α : Type} (read? : Value → Option α) (bytes : Bytes) : Except String (α × Bytes) :=
  match Json.front bytes with
  | .error rest => .error (Json.failureText bytes rest)
  | .ok (value, rest) =>
    match read? value with
    | some a => .ok (a, rest)
    | none => .error (Json.failureText bytes [])

/-- The form in which things are written down as values. Nothing but blanks may follow the value
that is read. -/
def codecOf {α : Type} (write : α → Value) (read? : Value → Option α) : Codec α where
  encode a := .ok (write a).write
  decode bytes := do
    let (a, rest) ← front read? bytes
    match Json.skipBlanks rest with
    | [] => return a
    | rest => throw (Json.failureText bytes rest)

/-- The JSON form of arguments of a shape. -/
def codec (s : Shape) : Codec s.Value := codecOf (ofArgument s) (toArgument? s)

end Courier.JsonForm
