import Courier.Delivery.Outbound
import Courier.Wire.Sequence

/-!
# Numbering outbound frames

A dispatcher gives every frame the next sequence number and hands it to the layer that it
is attached to.
-/

namespace Courier

/-- A counter of sequence numbers and the layer that frames are handed to. -/
structure Dispatcher where
  layer : Option Layer := none
  sequence : Sequence := {}
deriving DecidableEq, Repr

namespace Dispatcher

/-- The failure that there is nothing to send with. -/
def unattached : NetworkError := .configuration "no transport configured" (some "transport")

/-- The failure that a frame is for the endpoint of acknowledgments. -/
def reservedId : NetworkError :=
  .configuration "endpoint id 0 is reserved for acknowledgments" (some "id")

/-- Draws a number without sending. -/
def draw (d : Dispatcher) : UInt16 × Dispatcher :=
  (d.sequence.draw.1, { d with sequence := d.sequence.draw.2 })

variable {σ : Type}

/-- Frames a payload and hands it to a layer. -/
def sendOn (carrier : Layer → Carrier σ) (layer : Layer) (id seq : UInt16) (payload : Bytes)
    (s : σ) : Except NetworkError Unit × σ :=
  if id = ackId then (.error reservedId, s)
  else
    match Header.forPayload id seq payload with
    | .error cause => (.error (.protocol cause), s)
    | .ok header => (carrier layer).send header payload s

/-- Sends under a number that was drawn before. -/
def dispatchWith (carrier : Layer → Carrier σ) (d : Dispatcher) (id seq : UInt16)
    (payload : Bytes) (s : σ) : Except NetworkError Unit × σ :=
  match d.layer with
  | none => (.error unattached, s)
  | some layer => sendOn carrier layer id seq payload s

/-- Sends under the next number, which is used up even if sending fails; nothing is used up
when there is nothing to send with. -/
def dispatch (carrier : Layer → Carrier σ) (d : Dispatcher) (id : UInt16) (payload : Bytes)
    (s : σ) : Except NetworkError UInt16 × Dispatcher × σ :=
  match d.layer with
  | none => (.error unattached, d, s)
  | some layer =>
    let (seq, d) := d.draw
    match sendOn carrier layer id seq payload s with
    | (.ok (), s) => (.ok seq, d, s)
    | (.error e, s) => (.error e, d, s)

end Dispatcher

end Courier
