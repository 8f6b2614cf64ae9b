/-!
# Counters of a transport

What a transport has carried and what went wrong on it.
-/

namespace Courier

/-- The counters of one end of a transport; bytes include headers. -/
structure TransportStats where
  framesSent : Nat := 0
  framesReceived : Nat := 0
  bytesSent : Nat := 0
  bytesReceived : Nat := 0
  /-- Frames that were lost on purpose. -/
  framesDropped : Nat := 0
  /-- Received bytes that were no frame. -/
  protocolErrors : Nat := 0
  errors : Nat := 0
deriving DecidableEq, Repr, Inhabited

namespace TransportStats

/-- Counts a frame that was sent. -/
def sent (s : TransportStats) (size : Nat) : TransportStats :=
  { s with framesSent := s.framesSent + 1, bytesSent := s.bytesSent + size }

/-- Counts a frame that was received. -/
def received (s : TransportStats) (size : Nat) : TransportStats :=
  { s with framesReceived := s.framesReceived + 1, bytesReceived := s.bytesReceived + size }

/-- Counts a frame that was lost on purpose. -/
def dropped (s : TransportStats) : TransportStats :=
  { s with framesDropped := s.framesDropped + 1 }

/-- Counts received bytes that were no frame. -/
def malformed (s : TransportStats) : TransportStats :=
  { s with protocolErrors := s.protocolErrors + 1 }

/-- Counts a failure of the transport. -/
def failed (s : TransportStats) : TransportStats := { s with errors := s.errors + 1 }

/-- Whether any frame went over the transport in either direction. -/
def isActive (s : TransportStats) : Bool := 0 < s.framesSent || 0 < s.framesReceived

end TransportStats

end Courier
