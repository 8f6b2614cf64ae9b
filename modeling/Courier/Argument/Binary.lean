import Courier.Argument.Codec
import Courier.Argument.Error
import Courier.Argument.Shape

/-!
# The binary form of arguments

Whole numbers are little-endian and as wide as their shape says, texts and lists follow an
8-byte length, optional items follow a byte that is 0 or 1, and a variant is a 4-byte
index. Nothing marks the end: reading stops after the argument and leaves the rest.
-/

namespace Courier.Binary

/-- A number in `width` bytes, the least significant first. -/
def littleEndian : Nat → Nat → Bytes
  | 0, _ => []
  | width + 1, n => UInt8.ofNat (n % 256) :: littleEndian width (n / 256)

/-- Reads a number from `width` bytes. -/
def takeNat : Nat → Bytes → Except ArgumentError (Nat × Bytes)
  | 0, bytes => .ok (0, bytes)
  | _ + 1, [] => .error .endOfInput
  | width + 1, b :: rest => (takeNat width rest).map fun (n, rest) => (b.toNat + 256 * n, rest)

/-- A length in front of a text or a list. -/
def lengthBytes (n : Nat) : Bytes := littleEndian 8 n

/-- The bytes of a text behind their number. -/
def textBytes (s : String) : Bytes :=
  let bytes := Text.encodeUtf8 s
  lengthBytes bytes.length ++ bytes

/-- Reads a text. Missing bytes are reported before malformed ones. -/
def takeText (bytes : Bytes) : Except ArgumentError (String × Bytes) := do
  let (length, rest) ← takeNat 8 bytes
  if rest.length < length then throw .shortText
  match Text.decodeUtf8 (rest.take length) with
  | .ok s => return (s, rest.drop length)
  | .error cause => throw (.invalidText cause)

/-- Reads a character from its UTF-8 bytes. -/
def takeChar : Bytes → Except ArgumentError (Char × Bytes)
  | [] => .error .endOfInput
  | first :: rest =>
    match Text.lead first rest with
    | .char c rest => .ok (c, rest)
    | .fault _ => .error .invalidChar

/-- Reads a number of items one after the other. -/
def takeItems {α : Type} (item : Bytes → Except ArgumentError (α × Bytes)) :
    Nat → Bytes → Except ArgumentError (List α × Bytes)
  | 0, bytes => .ok ([], bytes)
  | n + 1, bytes => do
    let (v, rest) ← item bytes
    let (vs, rest) ← takeItems item n rest
    return (v :: vs, rest)

/-- The binary form of an argument. -/
def write : (s : Shape) → s.Value → Bytes
  | .unsigned w, v => littleEndian w.bytes v.toNat
  | .signed w, v => littleEndian w.bytes v.toNat
  | .bool, v => [if v then 1 else 0]
  | .char, v => Text.charBytes v
  | .unit, _ => []
  | .float, v => littleEndian 8 v.bits.toNat
  | .text, v => textBytes v
  | .priority, v => littleEndian 4 v.index
  | .list item, vs => lengthBytes vs.length ++ vs.flatMap (write item)
  | .option _, none => [0]
  | .option item, some v => 1 :: write item v
  | .pair first second, (a, b) => write first a ++ write second b

/-- Reads the binary form of an argument off the front of some bytes. -/
def take : (s : Shape) → Bytes → Except ArgumentError (s.Value × Bytes)
  | .unsigned w, bytes => (takeNat w.bytes bytes).map fun (n, rest) => (BitVec.ofNat w.bits n, rest)
  | .signed w, bytes => (takeNat w.bytes bytes).map fun (n, rest) => (BitVec.ofNat w.bits n, rest)
  | .bool, bytes => do
    let (n, rest) ← takeNat 1 bytes
    if n = 0 then return (false, rest)
    else if n = 1 then return (true, rest)
    else throw (.invalidBool n)
  | .char, bytes => takeChar bytes
  | .unit, bytes => .ok ((), bytes)
  | .float, bytes => (takeNat 8 bytes).map fun (n, rest) => (⟨UInt64.ofNat n⟩, rest)
  | .text, bytes => takeText bytes
  | .priority, bytes => do
    let (n, rest) ← takeNat 4 bytes
    match Priority.all[n]? with
    | some p => return (p, rest)
    | none => throw (.invalidVariant n Priority.all.length)
  | .list item, bytes => do
    let (n, rest) ← takeNat 8 bytes
    takeItems (take item) n rest
  | .option item, bytes => do
    let (n, rest) ← takeNat 1 bytes
    if n = 0 then return (none, rest)
    else if n = 1 then
      let (v, rest) ← take item rest
      return (some v, rest)
    else throw (.invalidOption n)
  | .pair first second, bytes => do
    let (a, rest) ← take first bytes
    let (b, rest) ← take second rest
    return ((a, b), rest)

/-- Reads the binary form of an argument off the front of some bytes, or tells why it
cannot. -/
def front (s : Shape) (bytes : Bytes) : Except String (s.Value × Bytes) :=
  (take s bytes).mapError ArgumentError.message

/-- The binary form of arguments of a shape. What follows an argument is ignored. -/
def codec (s : Shape) : Codec s.Value where
  encode v := .ok (write s v)
  decode bytes := (front s bytes).map (·.1)

end Courier.Binary
