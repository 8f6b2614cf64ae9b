import Courier.Bytes

/-!
# Reading UTF-8

Text travels as UTF-8. Bytes that are not well-formed UTF-8 are refused with the
position at which the well-formed part ends and with what is wrong there: a sequence
that no continuation can repair, or one that merely stops too early.
-/

namespace Courier.Text

/-- Where and how bytes stop being UTF-8. -/
structure Utf8Error where
  /-- The number of bytes before the faulty sequence. -/
  position : Nat
  /-- The length of the longest part of the faulty sequence that could begin a character,
  or nothing if the input ends inside a sequence that was well formed so far. -/
  invalid : Option Nat
deriving DecidableEq, Repr

/-- The text that reports the fault. -/
def Utf8Error.message : Utf8Error → String
  | ⟨position, some length⟩ => s!"invalid utf-8 sequence of {length} bytes from index {position}"
  | ⟨position, none⟩ => s!"incomplete utf-8 byte sequence from index {position}"

/-- Continuation bytes carry six bits each. -/
def isContinuation (b : UInt8) : Bool := 0x80 ≤ b && b ≤ 0xBF

/-- The number of bytes in the sequence that a first byte announces; 0 for a byte that
starts none. -/
def sequenceLength (first : UInt8) : Nat :=
  if first ≤ 0x7F then 1
  else if 0xC2 ≤ first ∧ first ≤ 0xDF then 2
  else if 0xE0 ≤ first ∧ first ≤ 0xEF then 3
  else if 0xF0 ≤ first ∧ first ≤ 0xF4 then 4
  else 0

/-- Whether a second byte may follow a first one: after some first bytes a part of the
continuation bytes would spell an overlong form, a surrogate or a number that is too
large. -/
def allowsSecond (first second : UInt8) : Bool :=
  if first = 0xE0 then 0xA0 ≤ second && second ≤ 0xBF
  else if first = 0xED then 0x80 ≤ second && second ≤ 0x9F
  else if first = 0xF0 then 0x90 ≤ second && second ≤ 0xBF
  else if first = 0xF4 then 0x80 ≤ second && second ≤ 0x8F
  else isContinuation second

/-- The six bits of a continuation byte. -/
def continuationBits (b : UInt8) : Nat := b.toNat % 64

/-- What stands at the front of some bytes. -/
inductive Lead where
  /-- A character and what follows it. -/
  | char (c : Char) (rest : Bytes)
  /-- A faulty sequence; see `Utf8Error.invalid`. -/
  | fault (invalid : Option Nat)
deriving DecidableEq

/-- Reads one character off the front of a nonempty run of bytes. -/
def lead (first : UInt8) (rest : Bytes) : Lead :=
  match sequenceLength first with
  | 1 => .char (Char.ofNat first.toNat) rest
  | 2 =>
    match rest with
    | [] => .fault none
    | b :: rest =>
      if isContinuation b then
        .char (Char.ofNat (first.toNat % 32 * 64 + continuationBits b)) rest
      else .fault (some 1)
  | 3 =>
    match rest with
    | [] => .fault none
    | b :: rest =>
      if !allowsSecond first b then .fault (some 1)
      else
        match rest with
        | [] => .fault none
        | c :: rest =>
          if !isContinuation c then .fault (some 2)
          else
            .char (Char.ofNat
              ((first.toNat % 16 * 64 + continuationBits b) * 64 + continuationBits c)) rest
  | 4 =>
    match rest with
    | [] => .fault none
    | b :: rest =>
      if !allowsSecond first b then .fault (some 1)
      else
        match rest with
        | [] => .fault none
        | c :: rest =>
          if !isContinuation c then .fault (some 2)
          else
            match rest with
            | [] => .fault none
            | d :: rest =>
              if !isContinuation d then .fault (some 3)
              else
                .char (Char.ofNat
                  (((first.toNat % 8 * 64 + continuationBits b) * 64 + continuationBits c) * 64
                    + continuationBits d)) rest
  | _ => .fault (some 1)

/-- Reading a character leaves no more bytes than followed its first one. -/
theorem lead_rest_le {first : UInt8} {rest rest' : Bytes} {c : Char}
    (h : lead first rest = .char c rest') : rest'.length ≤ rest.length := by
  unfold lead at h
  grind

/-- Reads the characters that bytes spell; `position` counts the bytes read before. -/
def decodeFrom (position : Nat) : Bytes → Except Utf8Error (List Char)
  | [] => .ok []
  | first :: rest =>
    match _h : lead first rest with
    | .fault invalid => .error ⟨position, invalid⟩
    | .char c rest' => (decodeFrom (position + sequenceLength first) rest').map (c :: ·)
termination_by bytes => bytes.length
decreasing_by
  have := lead_rest_le _h
  simp only [List.length_cons]
  omega

/-- The text that bytes spell. -/
def decodeUtf8 (bytes : Bytes) : Except Utf8Error String :=
  (decodeFrom 0 bytes).map String.ofList

/-- The bytes that spell one character. -/
def charBytes (c : Char) : Bytes := String.utf8EncodeChar c

/-- The bytes that spell a text. -/
def encodeUtf8 (text : String) : Bytes := text.toList.flatMap charBytes

end Courier.Text
