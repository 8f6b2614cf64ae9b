import Courier.Text.Hex

/-!
# Malformed frames

The four ways in which bytes fail to be a frame, or a frame fails to be writable,
with the text that reports each of them.
-/

namespace Courier

/-- Why bytes are not a frame, or why a frame cannot be written. -/
inductive FrameError where
  /-- The first word is not the frame marker. -/
  | invalidMarker (found expected : UInt16)
  /-- There are fewer bytes than a header needs. -/
  | truncated (needed available : Nat)
  /-- The length field and the bytes after the header disagree. -/
  | lengthMismatch (declared actual : Nat)
  /-- The payload is longer than a length field, or a transport, can carry. -/
  | payloadTooLarge (size max : Nat)
deriving DecidableEq, Repr

/-- The text that reports a malformed frame. -/
def FrameError.message : FrameError → String
  | .invalidMarker found expected =>
    s!"Invalid marker 0x{Text.upperHex4 found}, expected 0x{Text.upperHex4 expected}"
  | .truncated needed available => s!"Truncated frame: need {needed} bytes, have {available}"
  | .lengthMismatch declared actual =>
    s!"Length mismatch: header declares {declared} payload bytes, frame carries {actual}"
  | .payloadTooLarge size max => s!"Payload too large: {size} bytes exceeds {max}"

end Courier
