import Courier.Wire.Frame

/-!
# Frames in a byte stream

On a connection frames follow each other without separators, and what has been read
may end anywhere inside one. The header itself is the framing: a complete frame is cut
off the front of the buffer, and after bytes that do not start with the marker the
buffer is searched for the next place where a frame may start.
-/

namespace Courier

/-- The two bytes of the marker. -/
def markerBytes : UInt8 × UInt8 := (highByte frameMarker, lowByte frameMarker)

/-- Drops bytes up to the next marker. If there is none everything goes, except a last
byte that may be the first half of a marker whose other half is still to come. -/
def dropToMarker : Bytes → Bytes
  | [] => []
  | [b] => if b = markerBytes.1 then [b] else []
  | a :: b :: rest =>
    if a = markerBytes.1 ∧ b = markerBytes.2 then a :: b :: rest else dropToMarker (b :: rest)

/-- What the front of a buffer turned out to be. -/
inductive Taken where
  /-- More bytes are needed; the buffer stays as it is. -/
  | incomplete
  /-- A frame, and what follows it. -/
  | frame (frame : Frame) (rest : Bytes)
  /-- No frame starts here; some bytes were given up and `rest` is left. -/
  | malformed (error : FrameError) (rest : Bytes)
deriving DecidableEq, Repr

/-- Takes the next frame off the front of a buffer. A wrong marker is noticed as soon as
two bytes are there, and costs the bytes before the next marker. -/
def takeFrame (buffer : Bytes) : Taken :=
  match buffer with
  | a :: b :: rest =>
    if word16 a b ≠ frameMarker then
      .malformed (.invalidMarker (word16 a b) frameMarker) (dropToMarker (b :: rest))
    else if buffer.length < headerSize then .incomplete
    else
      match Header.decode (buffer.take headerSize) with
      | .error error => .malformed error buffer
      | .ok header =>
        if buffer.length < header.frameSize then .incomplete
        else
          match Frame.ofBuffer (buffer.take header.frameSize) with
          | .error error => .malformed error (buffer.drop header.frameSize)
          | .ok frame => .frame frame (buffer.drop header.frameSize)
  | _ => .incomplete

end Courier
