import Courier.Engine.Basic

/-!
# Inbound frames

A frame that is received is acknowledged first, whatever becomes of it. Then repetitions
are sorted out, and the endpoint of the frame is invoked. Acknowledgments are not
acknowledged.
-/

namespace Courier.Engine

variable {σ ρ : Type}

/-- Takes the next frame from the transport. Bytes that are no frame, and a transport that
fails, are published. -/
def receive (c : Carrier σ) (e : Engine σ ρ) : Option Frame × Engine σ ρ :=
  let (result, medium) := c.receive e.outbound.medium
  let e := { e with outbound := { e.outbound with medium } }
  match result with
  | .ok frame => (frame, e)
  | .error (.protocol cause) => (none, e.publishError ⟨0, .protocol, cause.message⟩)
  | .error error => (none, e.publishError (.ofError 0 error))

/-- Publishes that the engine's thread did not take a frame. -/
def dropFrame (frame : Frame) (error : TaskError) (e : Engine σ ρ) : Engine σ ρ :=
  e.publishError (.ofError frame.header.id (.dispatch error))

/-- Sends an acknowledgment past the layers. -/
def sendAck (c : Carrier σ) (header : Header) (e : Engine σ ρ) : Engine σ ρ :=
  if e.config.sendAcks && e.isInitialized then
    let (result, outbound) := e.outbound.sendRaw c (.ack header.seq) []
    ({ e with outbound }.reported header.id result).2
  else e

/-- The event that there is no endpoint for a frame. -/
def unknownEndpoint (id : UInt16) : ErrorEvent :=
  ⟨id, .unknownEndpoint, s!"no endpoint registered for id {id}"⟩

/-- Invokes the endpoint of a frame. -/
def invoke (frame : Frame) (e : Engine σ ρ) : Engine σ ρ :=
  let id := frame.header.id
  match e.registry.get? id with
  | none => e.publishError (unknownEndpoint id)
  | some invoker =>
    let (response, outside) := invoker frame.payload e.outside
    let e := { e with outside }
    match response with
    | .failed error => e.publishError (.ofError id (error.forEndpoint id))
    | .done | .panicked => e

/-- Handles a frame on the engine's thread. -/
def handleFrame (c : Carrier σ) (clock : Time) (frame : Frame) (e : Engine σ ρ) : Engine σ ρ :=
  let header := frame.header
  if header.isAck then e.acknowledge c clock header.seq
  else
    let e := e.sendAck c header
    match e.duplicates.check ⟨header.id, header.seq⟩ with
    | (true, duplicates) => { e with duplicates }.invoke frame
    | (false, duplicates) => { e with duplicates }

end Courier.Engine
