import Courier.Toml.Scan

/-!
# Texts in TOML

A text stands between quotation marks, where a backslash starts an escape, or between
apostrophes, where nothing does. Three marks on either side allow line breaks and single
marks inside.
-/

namespace Courier.Toml

/-- The value of a hexadecimal digit in either case. -/
def hexDigit? (c : Char) : Option Nat :=
  if '0' ≤ c ∧ c ≤ '9' then some (c.toNat - 48)
  else if 'A' ≤ c ∧ c ≤ 'F' then some (c.toNat - 55)
  else if 'a' ≤ c ∧ c ≤ 'f' then some (c.toNat - 87)
  else none

/-- The number that exactly `count` hexadecimal digits spell. -/
def hexNumber? : Nat → Nat → List Char → Option (Nat × List Char)
  | 0, n, cs => some (n, cs)
  | count + 1, n, c :: rest => (hexDigit? c).bind fun d => hexNumber? count (n * 16 + d) rest
  | _ + 1, _, [] => none

/-- Whether a number is that of a character. -/
def isScalar (n : Nat) : Bool := n < 0xD800 || (0xDFFF < n && n < 0x110000)

/-- Reads an escape after its backslash. -/
def escape (cs : List Char) : Scan Char :=
  let numbered (count : Nat) (rest : List Char) : Scan Char :=
    match hexNumber? count 0 rest with
    | some (n, rest) => if isScalar n then .ok (Char.ofNat n, rest) else .error .outOfRange
    | none => .error (.unexpected rest)
  match cs with
  | 'b' :: rest => .ok (Char.ofNat 8, rest)
  | 't' :: rest => .ok ('\t', rest)
  | 'n' :: rest => .ok ('\n', rest)
  | 'f' :: rest => .ok (Char.ofNat 12, rest)
  | 'r' :: rest => .ok ('\r', rest)
  | '"' :: rest => .ok ('"', rest)
  | '\\' :: rest => .ok ('\\', rest)
  | 'u' :: rest => numbered 4 rest
  | 'U' :: rest => numbered 8 rest
  | rest => .error (.unexpected rest)

/-- Drops blanks and line ends. -/
def skipBreaks : List Char → List Char
  | [] => []
  | '\r' :: '\n' :: rest => skipBreaks rest
  | c :: rest => if isBlank c ∨ c = '\n' then skipBreaks rest else c :: rest

/-- The kinds of texts. -/
structure Quoting where
  /-- The mark on either side. -/
  mark : Char
  /-- Whether a backslash starts an escape. -/
  hasEscapes : Bool
  /-- Whether the text has three marks on either side. -/
  isLong : Bool

/-- Reads the inside of a text and the marks that end it. A long text may end with one or
two marks of its own before the three that close it, and in it a backslash at the end of
a line joins the line to the next text. -/
def inside (q : Quoting) : Nat → List Char → Scan (List Char)
  | 0, cs => .error (.unexpected cs)
  | _ + 1, [] => .error (.unexpected [])
  | fuel + 1, c :: rest =>
    if c = q.mark then
      if !q.isLong then .ok ([], rest)
      else if (c :: rest).take 5 = List.replicate 5 c then .ok ([c, c], rest.drop 4)
      else if (c :: rest).take 4 = List.replicate 4 c then .ok ([c], rest.drop 3)
      else if (c :: rest).take 3 = List.replicate 3 c then .ok ([], rest.drop 2)
      else (inside q fuel rest).map fun (cs, rest) => (c :: cs, rest)
    else if c = '\\' ∧ q.hasEscapes then
      match if q.isLong then newline? (skipBlanks rest) else none with
      | some rest => inside q fuel (skipBreaks rest)
      | none =>
        (escape rest).bind fun (c, rest) =>
          (inside q fuel rest).map fun (cs, rest) => (c :: cs, rest)
    else
      match if q.isLong then newline? (c :: rest) else none with
      | some rest => (inside q fuel rest).map fun (cs, rest) => ('\n' :: cs, rest)
      | none =>
        if isPrintable c then (inside q fuel rest).map fun (cs, rest) => (c :: cs, rest)
        else .error (.unexpected (c :: rest))

/-- Reads a text that does not span lines, from its first mark on. -/
def shortText : List Char → Scan String
  | '"' :: rest => (inside ⟨'"', true, false⟩ (rest.length + 1) rest).map fun (cs, rest) =>
      (String.ofList cs, rest)
  | '\'' :: rest => (inside ⟨'\'', false, false⟩ (rest.length + 1) rest).map fun (cs, rest) =>
      (String.ofList cs, rest)
  | cs => .error (.unexpected cs)

/-- Reads a text of either length, from its first mark on. A line end right after three
marks is not part of the text. -/
def text (cs : List Char) : Scan String :=
  let long (mark : Char) (hasEscapes : Bool) (rest : List Char) : Scan String :=
    let body := (newline? rest).getD rest
    (inside ⟨mark, hasEscapes, true⟩ (body.length + 1) body).map fun (cs, rest) =>
      (String.ofList cs, rest)
  match cs with
  | '"' :: '"' :: '"' :: rest => long '"' true rest
  | '\'' :: '\'' :: '\'' :: rest => long '\'' false rest
  | cs => shortText cs

end Courier.Toml
