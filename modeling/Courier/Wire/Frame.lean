import Courier.Wire.Header

/-!
# Frames

A frame is a header followed by exactly as many payload bytes as the header
announces. A frame arrives either as a datagram of its own or as a buffer that was
cut to size beforehand; both readings are given here.
-/

namespace Courier

/-- A header together with the payload that followed it. -/
structure Frame where
  header : Header
  payload : Bytes
deriving DecidableEq, Repr

namespace Frame

/-- Writes a frame. A payload too long for any length field is reported before one that
disagrees with this header's length field; the marker is written as it stands. -/
def encode (header : Header) (payload : Bytes) : Except FrameError Bytes :=
  if maxPayload < payload.length then .error (.payloadTooLarge payload.length maxPayload)
  else if header.length.toNat ≠ payload.length then
    .error (.lengthMismatch header.length.toNat payload.length)
  else .ok (header.encode ++ payload)

/-- Reads a datagram that must hold one frame and nothing else. -/
def decode (datagram : Bytes) : Except FrameError Frame := do
  let header ← Header.decode datagram
  let actual := datagram.length - headerSize
  if actual ≠ header.length.toNat then
    throw (.lengthMismatch header.length.toNat actual)
  return ⟨header, datagram.drop headerSize⟩

/-- Reads a buffer that was cut to the size of one frame. -/
def ofBuffer (buffer : Bytes) : Except FrameError Frame := do
  let header ← Header.decode buffer
  if buffer.length ≠ header.frameSize then
    throw (.lengthMismatch header.length.toNat (buffer.length - headerSize))
  return ⟨header, buffer.drop headerSize⟩

/-- The size of the frame that the header announces. -/
def size (frame : Frame) : Nat := frame.header.frameSize

end Frame

end Courier
