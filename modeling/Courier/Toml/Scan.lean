/-!
# Scanning TOML

Reading something off the front of a text gives the thing and what follows it, or the
reason why it cannot be read. Here are the reasons, the blanks, the line ends and the
comments.
-/

namespace Courier.Toml

/-- Why a text is not a TOML document. -/
inductive Fault where
  /-- Something else should stand where this remainder starts. -/
  | unexpected (rest : List Char)
  /-- A key is defined twice, or a table in two ways that exclude each other. -/
  | redefined (key : String)
  /-- Something other than a table is used as one. -/
  | notATable (key : String)
  /-- A number is too large, or a date does not exist. -/
  | outOfRange
  /-- Values, or keys, nest too deeply. -/
  | tooDeep
deriving DecidableEq, Repr

/-- The text that reports a fault in a document. -/
def Fault.message : Fault → String
  | unexpected [] => "unexpected end of document"
  | unexpected (c :: _) => s!"unexpected character {c}"
  | redefined key => s!"duplicate key {key}"
  | notATable key => s!"key {key} does not hold a table"
  | outOfRange => "value out of range"
  | tooDeep => "nesting too deep"

/-- Something read off the front of a text and what follows it. -/
abbrev Scan (α : Type) := Except Fault (α × List Char)

/-- Spaces and tabs. -/
def isBlank (c : Char) : Bool := c = ' ' || c = '\t'

/-- Characters that may stand in a comment: everything but control characters, of which
the tab is allowed. -/
def isPrintable (c : Char) : Bool := c = '\t' || (0x20 ≤ c.toNat && c.toNat ≠ 0x7F)

/-- Drops blanks within a line. -/
def skipBlanks (cs : List Char) : List Char := cs.dropWhile isBlank

/-- Reads a given character. -/
def expect (c : Char) : List Char → Except Fault (List Char)
  | x :: rest => if x = c then .ok rest else .error (.unexpected (x :: rest))
  | [] => .error (.unexpected [])

/-- Reads the end of a line, if one stands here. -/
def newline? : List Char → Option (List Char)
  | '\n' :: rest => some rest
  | '\r' :: '\n' :: rest => some rest
  | _ => none

/-- Reads a given text, if it stands here. -/
def literal? (text : List Char) (cs : List Char) : Option (List Char) :=
  if text.isPrefixOf cs then some (cs.drop text.length) else none

/-- Reads what a line may hold after its content: blanks, a comment and the line end. -/
def lineEnd (cs : List Char) : Except Fault (List Char) :=
  let cs := skipBlanks cs
  let cs := match cs with
    | '#' :: rest => rest.dropWhile isPrintable
    | _ => cs
  match cs with
  | [] => .ok []
  | _ =>
    match newline? cs with
    | some rest => .ok rest
    | none => .error (.unexpected cs)

/-- Drops blanks, comments and line ends, each comment with the end of its line. -/
def skipLines (cs : List Char) : Except Fault (List Char) :=
  let rec go : Nat → List Char → Except Fault (List Char)
    | 0, cs => .ok cs
    | fuel + 1, cs =>
      match skipBlanks cs with
      | '#' :: rest =>
        let rest := rest.dropWhile isPrintable
        match newline? rest with
        | some rest => go fuel rest
        | none => .error (.unexpected rest)
      | cs =>
        match newline? cs with
        | some rest => go fuel rest
        | none =>
          match cs with
          | '\r' :: _ => .error (.unexpected cs)
          | _ => .ok cs
  go cs.length cs

end Courier.Toml
