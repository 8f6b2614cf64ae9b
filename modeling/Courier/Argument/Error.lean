import Courier.Text.Utf8

/-!
# Arguments that cannot be decoded

The reasons why bytes are not the binary form of an argument of the expected shape.
-/

namespace Courier

/-- Why an argument could not be decoded. -/
inductive ArgumentError where
  /-- The bytes end inside an item of fixed width. -/
  | endOfInput
  /-- The bytes end inside a text. -/
  | shortText
  | invalidBool (found : Nat)
  /-- The byte before an optional item is neither 0 nor 1. -/
  | invalidOption (found : Nat)
  | invalidChar
  | invalidText (cause : Text.Utf8Error)
  /-- The number of a variant that does not exist, and how many there are. -/
  | invalidVariant (found count : Nat)
deriving DecidableEq, Repr

/-- The text that reports the failure. -/
def ArgumentError.message : ArgumentError → String
  | endOfInput => "io error: unexpected end of file"
  | shortText => "io error: "
  | invalidBool found => s!"invalid u8 while decoding bool, expected 0 or 1, found {found}"
  | invalidOption found => s!"tag for enum is not valid, found {found}"
  | invalidChar => "char is not valid"
  | invalidText cause => s!"string is not valid utf8: {cause.message}"
  | invalidVariant found count =>
    s!"invalid value: integer `{found}`, expected variant index 0 <= i < {count}"

end Courier
