import Courier.Text.Hex
import Courier.Text.Unprinted

/-!
# Quoted texts

A text is quoted so that it can be told apart from what surrounds it: between double
quotes, with the few characters that would hide its extent escaped.
-/

namespace Courier.Text

/-- The shortest hexadecimal numeral of a code point. -/
def codePointDigits (n : Nat) : String := String.ofList (Nat.toDigits 16 n)

/-- How a character is written between quotes. -/
def quotedChar (c : Char) : String :=
  match c with
  | '"' => "\\\""
  | '\\' => "\\\\"
  | '\n' => "\\n"
  | '\r' => "\\r"
  | '\t' => "\\t"
  | '\x00' => "\\0"
  | c =>
    if c.toNat < 32 || c.toNat = 127 || (127 < c.toNat && isUnprinted c) then
      "\\u\x7b" ++ codePointDigits c.toNat ++ "\x7d"
    else c.toString

/-- A text between quotes. -/
def quoted (s : String) : String := "\"" ++ String.join (s.toList.map quotedChar) ++ "\""

end Courier.Text
