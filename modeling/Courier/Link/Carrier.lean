import Courier.Config.Channel
import Courier.Link.Stats
import Courier.Wire.Frame

/-!
# Carriers

What a transport can do, as operations on the state it lives in. Layers over a transport
are carriers on a larger state.
-/

namespace Courier

/-- The operations of a transport that lives in a state of type `σ`. -/
structure Carrier (σ : Type) where
  kind : TransportKind
  /-- Whether the transport claims to lose nothing. -/
  isReliable : σ → Bool
  /-- Sends a frame with this header and payload. -/
  send : Header → Bytes → σ → Except NetworkError Unit × σ
  /-- Takes the next frame that has arrived, if there is one. -/
  receive : σ → Except NetworkError (Option Frame) × σ
  stats : σ → TransportStats

end Courier
