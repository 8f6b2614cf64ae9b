import Courier.Json.Value

/-!
# Reading JSON

A strict reader: one value, with blanks allowed around its parts and nothing after it.
Reading something off the front of some bytes gives the thing and what is left of the
bytes, or what was left when reading failed, from which the line and the column are told.
-/

namespace Courier.Json

/-- The bytes that may stand between the parts of a value: space, tab, line feed and
carriage return. -/
def isBlank (b : UInt8) : Bool := b = 0x20 || b = 0x09 || b = 0x0A || b = 0x0D

/-- Drops blanks. -/
def skipBlanks (bytes : Bytes) : Bytes := bytes.dropWhile isBlank

/-- Reads digits as far as they go. -/
def takeDigits : Bytes → List Digit × Bytes
  | [] => ([], [])
  | b :: rest =>
    match Digit.ofByte? b with
    | some d => let (digits, rest) := takeDigits rest; (d :: digits, rest)
    | none => ([], b :: rest)

/-- Reads at least one digit. -/
def someDigits (bytes : Bytes) : Except Bytes (List Digit × Bytes) :=
  match takeDigits bytes with
  | ([], rest) => .error rest
  | (digits, rest) => .ok (digits, rest)

/-- Reads the digits before the point: a zero stands alone. -/
def wholeDigits (bytes : Bytes) : Except Bytes (List Digit × Bytes) := do
  let (digits, rest) ← someDigits bytes
  if digits.head? = some Digit.zero ∧ 1 < digits.length then throw rest
  return (digits, rest)

/-- Reads a point and digits, if a point stands there. -/
def fractionPart : Bytes → Except Bytes (Option (List Digit) × Bytes)
  | 0x2E :: rest => do
    let (digits, rest) ← someDigits rest
    return (some digits, rest)
  | bytes => .ok (none, bytes)

/-- Reads an exponent, if one stands there. -/
def exponentPart : Bytes → Except Bytes (Option Int × Bytes)
  | e :: rest =>
    if e = 0x65 ∨ e = 0x45 then do
      let (negative, rest) := match rest with
        | 0x2D :: rest => (true, rest)
        | 0x2B :: rest => (false, rest)
        | rest => (false, rest)
      let (digits, rest) ← someDigits rest
      let value : Int := digitsValue 0 digits
      return (some (if negative then -value else value), rest)
    else .ok (none, e :: rest)
  | [] => .ok (none, [])

/-- Reads a number. -/
def numeral (bytes : Bytes) : Except Bytes (Numeral × Bytes) := do
  let (negative, rest) := match bytes with
    | 0x2D :: rest => (true, rest)
    | rest => (false, rest)
  let (whole, rest) ← wholeDigits rest
  let (fraction, rest) ← fractionPart rest
  let (exponent, rest) ← exponentPart rest
  return (⟨negative, whole, fraction, exponent⟩, rest)

/-- The value of a hexadecimal digit in either case. -/
def hexValue? (b : UInt8) : Option Nat :=
  if 0x30 ≤ b ∧ b ≤ 0x39 then some (b.toNat - 48)
  else if 0x41 ≤ b ∧ b ≤ 0x46 then some (b.toNat - 55)
  else if 0x61 ≤ b ∧ b ≤ 0x66 then some (b.toNat - 87)
  else none

/-- The unit that four hexadecimal digits spell. -/
def hexUnit? (a b c d : UInt8) : Option UInt16 := do
  let a ← hexValue? a
  let b ← hexValue? b
  let c ← hexValue? c
  let d ← hexValue? d
  return UInt16.ofNat (((a * 16 + b) * 16 + c) * 16 + d)

/-- Reads the pieces of a string up to its closing quote. Control characters have to be
escaped. -/
def textBody : Bytes → Except Bytes (Text × Bytes)
  | 0x22 :: rest => .ok ([], rest)
  | 0x5C :: 0x75 :: a :: b :: c :: d :: rest =>
    match hexUnit? a b c d with
    | some u => (textBody rest).map fun (t, rest) => (.unit u :: t, rest)
    | none => .error rest
  | 0x5C :: letter :: rest =>
    match shortEscapes.find? (·.1 = letter) with
    | some (_, value) => (textBody rest).map fun (t, rest) => (.short letter value :: t, rest)
    | none => .error rest
  | b :: rest =>
    if b < 0x20 ∨ b = 0x5C then .error rest
    else (textBody rest).map fun (t, rest) => (.byte b :: t, rest)
  | [] => .error []

/-- Reads a given word. -/
def word (expected : List Char) (value : Value) (bytes : Bytes) : Except Bytes (Value × Bytes) :=
  let spelled := expected.map fun c => UInt8.ofNat c.toNat
  if spelled.isPrefixOf bytes then .ok (value, bytes.drop spelled.length)
  else .error bytes

mutual

/-- Reads one value after blanks. Every value inside another one costs one unit of `fuel`,
and so does every further item. -/
def value (fuel : Nat) (bytes : Bytes) : Except Bytes (Value × Bytes) :=
  match fuel with
  | 0 => .error bytes
  | fuel + 1 =>
    match skipBlanks bytes with
    | [] => .error []
    | 0x22 :: rest => (textBody rest).map fun (t, rest) => (.text t, rest)
    | 0x5B :: rest =>
      match skipBlanks rest with
      | 0x5D :: rest => .ok (.list [], rest)
      | rest => (items fuel rest).map fun (vs, rest) => (.list vs, rest)
    | 0x7B :: rest =>
      match skipBlanks rest with
      | 0x7D :: rest => .ok (.record [], rest)
      | rest => (fields fuel rest).map fun (fs, rest) => (.record fs, rest)
    | 0x6E :: rest => word "null".toList .null (0x6E :: rest)
    | 0x74 :: rest => word "true".toList (.bool true) (0x74 :: rest)
    | 0x66 :: rest => word "false".toList (.bool false) (0x66 :: rest)
    | rest => (numeral rest).map fun (n, rest) => (.number n, rest)

/-- Reads the items of a list up to its closing bracket. -/
def items (fuel : Nat) (bytes : Bytes) : Except Bytes (List Value × Bytes) :=
  match fuel with
  | 0 => .error bytes
  | fuel + 1 => do
    let (v, rest) ← value fuel bytes
    match skipBlanks rest with
    | 0x2C :: rest => (items fuel rest).map fun (vs, rest) => (v :: vs, rest)
    | 0x5D :: rest => return ([v], rest)
    | rest => throw rest

/-- Reads the fields of a record up to its closing brace. -/
def fields (fuel : Nat) (bytes : Bytes) : Except Bytes ((List (Text × Value)) × Bytes) :=
  match fuel with
  | 0 => .error bytes
  | fuel + 1 =>
    match skipBlanks bytes with
    | 0x22 :: rest => do
      let (name, rest) ← textBody rest
      match skipBlanks rest with
      | 0x3A :: rest =>
        let (v, rest) ← value fuel rest
        match skipBlanks rest with
        | 0x2C :: rest => (fields fuel rest).map fun (fs, rest) => ((name, v) :: fs, rest)
        | 0x7D :: rest => return ([(name, v)], rest)
        | rest => throw rest
      | rest => throw rest
    | rest => throw rest

end

/-- Reads one value off the front of some bytes. A value nests at most as deep as its text is
long. -/
def front (bytes : Bytes) : Except Bytes (Value × Bytes) := value (bytes.length + 1) bytes

/-- Reads bytes that hold one value and, blanks apart, nothing else. -/
def read (bytes : Bytes) : Except Bytes Value := do
  let (v, rest) ← front bytes
  match skipBlanks rest with
  | [] => return v
  | rest => throw rest

/-- The line and the column, both counted from 1, of the last byte of `consumed`. -/
def position (consumed : Bytes) : Nat × Nat :=
  consumed.foldl (fun ((line, column) : Nat × Nat) (b : UInt8) =>
    if b = 0x0A then (line + 1, 0) else (line, column + 1))
    (1, 0)

/-- Says where in `bytes` reading failed when `rest` was left. -/
def failureText (bytes rest : Bytes) : String :=
  let (line, column) := position (bytes.take (bytes.length - rest.length))
  s!"unexpected input at line {line} column {column}"

end Courier.Json
