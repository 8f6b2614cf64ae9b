import Courier.Config.Document
import Courier.Text.Hex

/-!
# Writing TOML

A document is written with its plain values first and its tables, each under a header of
its own, after them. Integers have to fit 64 bits with a sign, and only flat tables of
plain values are written.
-/

namespace Courier.Toml

/-- How a character of a text is written between quotation marks. -/
def escaped (c : Char) : String :=
  if c = '"' then "\\\""
  else if c = '\\' then "\\\\"
  else if c = '\n' then "\\n"
  else if c = '\t' then "\\t"
  else if c = '\r' then "\\r"
  else if c.toNat = 8 then "\\b"
  else if c.toNat = 12 then "\\f"
  else if c.toNat < 0x20 ∨ c.toNat = 0x7F then
    "\\u" ++ Text.hexNumeral Text.upperHexDigit 4 c.toNat
  else String.singleton c

/-- A text between quotation marks. -/
def quoted (s : String) : String := "\"" ++ String.join (s.toList.map escaped) ++ "\""

/-- A value of one part, unless it has no written form. -/
def plain? : Document → Option String
  | .flag b => some (if b then "true" else "false")
  | .integer n => if -(Nat.pow 2 63 : Int) ≤ n ∧ n < Nat.pow 2 63 then some (toString n) else none
  | .text s => some (quoted s)
  | _ => none

/-- The line that gives a key its value. -/
def line? (key : String) (d : Document) : Option String := do
  let written ← plain? d
  return key ++ " = " ++ written ++ "\n"

/-- The lines of a table of plain values. -/
def lines? (entries : List (String × Document)) : Option String := do
  return String.join (← entries.mapM fun (key, d) => line? key d)

/-- The part of a document that holds one key: a line, or an empty line and a table. -/
def part? (key : String) : Document → Option String
  | .table entries => (lines? entries).map ("\n[" ++ key ++ "]\n" ++ ·)
  | d => line? key d

/-- The text of a table whose tables follow its plain values. -/
def write? : Document → Option String
  | .table entries => do return String.join (← entries.mapM fun (key, d) => part? key d)
  | _ => none

end Courier.Toml
