import Courier.Bytes
import Courier.Text.Hex

/-!
# Socket addresses

An address is an IPv4 or IPv6 address and a port. Reading and writing follow the usual
textual forms: four decimal octets, or eight hexadecimal groups in brackets of which the
longest run of zeros is left out.
-/

namespace Courier

/-- Where a socket is. -/
inductive SocketAddress where
  | v4 (a b c d : UInt8) (port : UInt16)
  /-- Eight groups, an interface number that is 0 when none is named, and a port. -/
  | v6 (groups : List UInt16) (scope : UInt32) (port : UInt16)
deriving DecidableEq, Repr

namespace SocketAddress

/-- The port of an address. -/
def port : SocketAddress → UInt16
  | v4 _ _ _ _ p => p
  | v6 _ _ p => p

/-- Whether two addresses belong to the same family. -/
def sameFamily : SocketAddress → SocketAddress → Bool
  | v4 .., v4 .. => true
  | v6 .., v6 .. => true
  | _, _ => false

/-! ## Reading -/

/-- The value of a digit in a base of at most sixteen. -/
def digitValue? (base : Nat) (c : Char) : Option Nat :=
  let value :=
    if '0' ≤ c ∧ c ≤ '9' then c.toNat - 48
    else if 'a' ≤ c ∧ c ≤ 'f' then c.toNat - 87
    else if 'A' ≤ c ∧ c ≤ 'F' then c.toNat - 55
    else 16
  if value < base then some value else none

/-- The number that digits spell after the digits of `start`, how many digits there are,
and what follows them. -/
def digits (base start count : Nat) : List Char → Nat × Nat × List Char
  | [] => (start, count, [])
  | c :: rest =>
    match digitValue? base c with
    | some value => digits base (start * base + value) (count + 1) rest
    | none => (start, count, c :: rest)

/-- Reads a number below `limit`. -/
def number? (base limit : Nat) (cs : List Char) : Option (Nat × List Char) :=
  let (n, count, rest) := digits base 0 0 cs
  if 0 < count ∧ n < limit then some (n, rest) else none

/-- Reads an octet: at most three digits and no zero in front of another digit. -/
def octet? (cs : List Char) : Option (UInt8 × List Char) :=
  let (n, count, rest) := digits 10 0 0 cs
  if count = 0 ∨ 3 < count ∨ 255 < n then none
  else if cs.head? = some '0' ∧ 1 < count then none
  else some (UInt8.ofNat n, rest)

/-- Reads a given character. -/
def expect? (c : Char) : List Char → Option (List Char)
  | x :: rest => if x = c then some rest else none
  | [] => none

/-- Reads four octets. -/
def octets? (cs : List Char) : Option ((UInt8 × UInt8 × UInt8 × UInt8) × List Char) := do
  let (a, rest) ← octet? cs
  let rest ← expect? '.' rest
  let (b, rest) ← octet? rest
  let rest ← expect? '.' rest
  let (c, rest) ← octet? rest
  let rest ← expect? '.' rest
  let (d, rest) ← octet? rest
  return ((a, b, c, d), rest)

/-- Reads a group of at most four hexadecimal digits. -/
def group? (cs : List Char) : Option (UInt16 × List Char) :=
  let (n, count, rest) := digits 16 0 0 cs
  if count = 0 ∨ 4 < count then none else some (UInt16.ofNat n, rest)

/-- Groups that were read, whether the last two of them were written as four octets, and
what follows them. -/
structure Groups where
  values : List UInt16
  endsInOctets : Bool
  rest : List Char

/-- Reads groups with colons between them, at most `room` of them. The last two groups
may be written as four octets. -/
def groups (first : Bool) : Nat → List Char → Groups
  | 0, cs => ⟨[], false, cs⟩
  | room + 1, cs =>
    match if first then some cs else expect? ':' cs with
    | none => ⟨[], false, cs⟩
    | some start =>
      match if 0 < room then octets? start else none with
      | some ((a, b, c, d), rest) => ⟨[word16 a b, word16 c d], true, rest⟩
      | none =>
        match group? start with
        | none => ⟨[], false, cs⟩
        | some (g, rest) =>
          let more := groups false room rest
          { more with values := g :: more.values }

/-- Reads eight groups, or fewer around a double colon that stands for at least one
zero. Octets may only stand at the very end. -/
def allGroups? (cs : List Char) : Option (List UInt16 × List Char) :=
  let head := groups true 8 cs
  let used := head.values.length
  if used = 8 then some (head.values, head.rest)
  else if head.endsInOctets then none
  else
    match head.rest with
    | ':' :: ':' :: rest =>
      let tail := groups true (7 - used) rest
      some (head.values ++ List.replicate (8 - used - tail.values.length) 0 ++ tail.values,
        tail.rest)
    | _ => none

/-- Reads a port after its colon. -/
def port? (cs : List Char) : Option (UInt16 × List Char) := do
  let rest ← expect? ':' cs
  let (n, rest) ← number? 10 65536 rest
  return (UInt16.ofNat n, rest)

/-- Reads the number of an interface, if one is named. -/
def scope? : List Char → Option (UInt32 × List Char)
  | '%' :: rest => (number? 10 (Nat.pow 2 32) rest).map fun (n, rest) => (UInt32.ofNat n, rest)
  | cs => some (0, cs)

/-- Reads an IPv4 address and its port. -/
def v4? (cs : List Char) : Option (SocketAddress × List Char) := do
  let ((a, b, c, d), rest) ← octets? cs
  let (port, rest) ← port? rest
  return (v4 a b c d port, rest)

/-- Reads an IPv6 address in brackets and its port. -/
def v6? (cs : List Char) : Option (SocketAddress × List Char) := do
  let rest ← expect? '[' cs
  let (gs, rest) ← allGroups? rest
  let (scope, rest) ← scope? rest
  let rest ← expect? ']' rest
  let (port, rest) ← port? rest
  return (v6 gs scope port, rest)

/-- The address that a text spells. -/
def ofString? (s : String) : Option SocketAddress :=
  match v4? s.toList with
  | some (address, []) => some address
  | _ =>
    match v6? s.toList with
    | some (address, []) => some address
    | _ => none

/-! ## Writing -/

/-- A group in lower case without leading zeros. -/
def groupText (g : UInt16) : String := Text.hexNumeral Text.lowerHexDigit 1 g.toNat

/-- Groups with colons between them. -/
def groupsText (gs : List UInt16) : String := ":".intercalate (gs.map groupText)

/-- The number of zeros in front of a list of groups. -/
def leadingZeros (gs : List UInt16) : Nat := (gs.takeWhile (· = 0)).length

/-- Where the first of the longest runs of zeros starts, and its length. -/
def longestRun : Nat → List UInt16 → Nat × Nat
  | _, [] => (0, 0)
  | start, g :: gs =>
    let here := leadingZeros (g :: gs)
    let later := longestRun (start + 1) gs
    if later.2 ≤ here ∧ 0 < here then (start, here) else later

/-- Four octets with points between them. -/
def octetsText (a b c d : Nat) : String := s!"{a}.{b}.{c}.{d}"

/-- The text of eight groups: a run of at least two zeros becomes a double colon, and an
IPv4 address in the last two groups of a mapped address is written as one. -/
def hostText : List UInt16 → String
  | [0, 0, 0, 0, 0, 0xFFFF, g, h] =>
    "::ffff:" ++ octetsText (g.toNat / 256) (g.toNat % 256) (h.toNat / 256) (h.toNat % 256)
  | gs =>
    let (start, length) := longestRun 0 gs
    if 1 < length then
      groupsText (gs.take start) ++ "::" ++ groupsText (gs.drop (start + length))
    else groupsText gs

/-- The text of an address. -/
def toText : SocketAddress → String
  | v4 a b c d port => s!"{octetsText a.toNat b.toNat c.toNat d.toNat}:{port}"
  | v6 gs scope port =>
    let host := hostText gs
    if scope = 0 then s!"[{host}]:{port}" else s!"[{host}%{scope}]:{port}"

end SocketAddress

end Courier
