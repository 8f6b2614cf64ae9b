import Courier.Bytes
import Courier.Wire.Error

/-!
# Frame headers

Every frame starts with four big-endian words: a marker, the endpoint it is for, its
sequence number and the number of payload bytes. Endpoint 0 is reserved for
acknowledgments.
-/

namespace Courier

/-- The word that opens every frame. -/
def frameMarker : UInt16 := 0x55AA

/-- The endpoint id that marks a frame as an acknowledgment. -/
def ackId : UInt16 := 0

/-- The number of bytes a header takes. -/
def headerSize : Nat := 8

/-- The longest payload that a 16-bit length field can announce. -/
def maxPayload : Nat := 65535

/-- What a frame says about itself before its payload. -/
structure Header where
  marker : UInt16
  id : UInt16
  seq : UInt16
  length : UInt16
deriving DecidableEq, Repr

namespace Header

/-- A header that carries the frame marker. -/
def new (id seq length : UInt16) : Header := ⟨frameMarker, id, seq, length⟩

/-- The acknowledgment of sequence number `seq`. -/
def ack (seq : UInt16) : Header := new ackId seq 0

/-- Acknowledgments are the frames for endpoint 0. -/
def isAck (header : Header) : Bool := header.id == ackId

/-- The header of a frame that carries `payload`, if a length field can hold its size. -/
def forPayload (id seq : UInt16) (payload : Bytes) : Except FrameError Header :=
  if payload.length ≤ maxPayload then .ok (new id seq (UInt16.ofNat payload.length))
  else .error (.payloadTooLarge payload.length maxPayload)

/-- The size of the whole frame, header included. -/
def frameSize (header : Header) : Nat := headerSize + header.length.toNat

/-- The eight bytes of a header. -/
def encode (header : Header) : Bytes :=
  wordBytes header.marker ++ wordBytes header.id ++ wordBytes header.seq ++ wordBytes header.length

/-- Reads a header from the first eight bytes and checks its marker. Missing bytes are
reported before a wrong marker, and further bytes are not looked at. -/
def decode : Bytes → Except FrameError Header
  | m₁ :: m₂ :: i₁ :: i₂ :: s₁ :: s₂ :: l₁ :: l₂ :: _ =>
    if word16 m₁ m₂ = frameMarker then
      .ok ⟨word16 m₁ m₂, word16 i₁ i₂, word16 s₁ s₂, word16 l₁ l₂⟩
    else .error (.invalidMarker (word16 m₁ m₂) frameMarker)
  | bytes => .error (.truncated headerSize bytes.length)

@[simp] theorem length_encode (header : Header) : header.encode.length = headerSize := rfl

end Header

end Courier
