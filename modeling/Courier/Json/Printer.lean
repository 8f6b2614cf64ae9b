import Courier.Json.Value
import Courier.Text.Hex

/-!
# Writing JSON

Values are written without any space between their parts. Every value is written back as
it was read, except for the spaces around its parts.
-/

namespace Courier.Json

/-- The byte of an ASCII character. -/
def ascii (c : Char) : UInt8 := UInt8.ofNat c.toNat

/-- A hexadecimal digit in lower case. -/
def hexByte (value : Nat) : UInt8 := ascii (Courier.Text.lowerHexDigit value)

/-- A piece of a string as it is written. -/
def Piece.write : Piece → Bytes
  | .byte b => [b]
  | .short letter _ => [0x5C, letter]
  | .unit u =>
    [0x5C, 0x75, hexByte (u.toNat / 4096), hexByte (u.toNat / 256 % 16),
      hexByte (u.toNat / 16 % 16), hexByte (u.toNat % 16)]

/-- A string between its quotes. -/
def Text.write (t : Text) : Bytes := 0x22 :: t.flatMap Piece.write ++ [0x22]

mutual

/-- A value as text. -/
def Value.write : Value → Bytes
  | .null => "null".toList.map ascii
  | .bool true => "true".toList.map ascii
  | .bool false => "false".toList.map ascii
  | .number n => n.bytes
  | .text t => Text.write t
  | .list items => 0x5B :: writeItems items ++ [0x5D]
  | .record fields => 0x7B :: writeFields fields ++ [0x7D]

/-- The items of a list, separated by commas. -/
def writeItems : List Value → Bytes
  | [] => []
  | [v] => v.write
  | v :: rest => v.write ++ 0x2C :: writeItems rest

/-- The fields of a record, separated by commas. -/
def writeFields : List (Text × Value) → Bytes
  | [] => []
  | [(name, v)] => Text.write name ++ 0x3A :: v.write
  | (name, v) :: rest => Text.write name ++ 0x3A :: v.write ++ 0x2C :: writeFields rest

end

end Courier.Json
