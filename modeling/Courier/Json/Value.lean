import Courier.Decimal.Numeral
import Courier.Text.Utf8

/-!
# JSON values

A JSON value is kept as it was written: numbers as numerals and strings as the pieces
between their quotes. What a string means is decided from its pieces, and some strings
mean no text at all, because they escape half a surrogate pair or hold bytes that are not
UTF-8.
-/

namespace Courier.Json

/-- A piece of a string as it is written. -/
inductive Piece where
  /-- A byte that stands for itself. -/
  | byte (b : UInt8)
  /-- A backslash and a letter that stand for a byte. -/
  | short (letter value : UInt8)
  /-- A 16-bit unit written as `\u` and four hexadecimal digits. -/
  | unit (value : UInt16)
deriving DecidableEq, Repr

/-- A string as it is written, without its quotes. -/
abbrev Text := List Piece

/-- A JSON value. -/
inductive Value where
  | null
  | bool (b : Bool)
  | number (n : Numeral)
  | text (t : Text)
  | list (items : List Value)
  | record (fields : List (Text × Value))

/-- The first half of a surrogate pair. -/
def isHighSurrogate (u : UInt16) : Bool := 0xD800 ≤ u && u ≤ 0xDBFF

/-- The second half of a surrogate pair. -/
def isLowSurrogate (u : UInt16) : Bool := 0xDC00 ≤ u && u ≤ 0xDFFF

/-- The bytes a string stands for; nothing if half a surrogate pair stands alone. -/
def Text.bytes? : Text → Option Bytes
  | [] => some []
  | .byte b :: rest => (Text.bytes? rest).map (b :: ·)
  | .short _ value :: rest => (Text.bytes? rest).map (value :: ·)
  | .unit high :: .unit low :: rest =>
    if isHighSurrogate high then
      if isLowSurrogate low then
        (Text.bytes? rest).map (Courier.Text.charBytes (Char.ofNat
          (0x10000 + (high.toNat - 0xD800) * 1024 + (low.toNat - 0xDC00))) ++ ·)
      else none
    else if isLowSurrogate high then none
    else
      (Text.bytes? (.unit low :: rest)).map (Courier.Text.charBytes (Char.ofNat high.toNat) ++ ·)
  | .unit value :: rest =>
    if isHighSurrogate value || isLowSurrogate value then none
    else (Text.bytes? rest).map (Courier.Text.charBytes (Char.ofNat value.toNat) ++ ·)

/-- The text a string means, if it means one. -/
def Text.content? (t : Text) : Option String := do
  let bytes ← Text.bytes? t
  (Courier.Text.decodeUtf8 bytes).toOption

/-- The short escapes: the letter after the backslash and the byte it stands for. -/
def shortEscapes : List (UInt8 × UInt8) :=
  [(0x22, 0x22), (0x5C, 0x5C), (0x2F, 0x2F), (0x62, 0x08), (0x66, 0x0C), (0x6E, 0x0A),
    (0x72, 0x0D), (0x74, 0x09)]

/-- How a byte of a text is written: quotes, backslashes and the control characters that
have one by a short escape, the other control characters by their number, and everything
else as itself. -/
def Piece.ofByte (b : UInt8) : Piece :=
  if b = 0x22 ∨ b = 0x5C ∨ b = 0x08 ∨ b = 0x09 ∨ b = 0x0A ∨ b = 0x0C ∨ b = 0x0D then
    match shortEscapes.find? (·.2 = b) with
    | some (letter, value) => .short letter value
    | none => .byte b
  else if b < 0x20 then .unit (UInt16.ofNat b.toNat)
  else .byte b

/-- The string that means a text. -/
def Text.ofString (s : String) : Text := (Courier.Text.encodeUtf8 s).map Piece.ofByte

/-- The string that means a text, as a value. -/
def Value.ofString (s : String) : Value := .text (Text.ofString s)

end Courier.Json
