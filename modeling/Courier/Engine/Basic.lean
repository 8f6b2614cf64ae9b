import Courier.Config.Engine
import Courier.Delivery.Dispatcher
import Courier.Delivery.Duplicates
import Courier.Engine.Registry
import Courier.Engine.Waiters

/-!
# Engines

An engine sends frames through the outbound layers over one transport at a time and
publishes what became of them. Attaching another transport builds the layers anew, but
frames in flight stay tracked. Calls that fail are also published as error events.
-/

namespace Courier

/-- Where an engine hears of final outcomes. -/
inductive Forwarding where
  /-- From the tracker, through a connection with this number. -/
  | tracker (connection : Nat)
  | retryLayer
deriving DecidableEq, Repr

/-- An engine over a transport in a state of type `σ`, with endpoints that act on a state
of type `ρ`. -/
structure Engine (σ ρ : Type) where
  config : EngineConfig
  /-- The layers; the engine itself is their only listener outside. -/
  outbound : Outbound σ Unit
  /-- Where outcomes come from, once a transport is attached. -/
  forwarding : Option Forwarding := none
  dispatcher : Dispatcher := {}
  registry : Registry ρ := {}
  duplicates : DuplicateFilter
  waiters : Waiters := {}
  /-- Whether frames are received. -/
  running : Bool := false
  /-- The outcomes that were published, in order. -/
  delivered : List DeliveryStatus := []
  /-- The error events that were published, in order. -/
  errors : List ErrorEvent := []
  outside : ρ

namespace Engine

variable {σ ρ : Type}

/-- An engine without a transport. -/
def new (config : EngineConfig) (medium : σ) (outside : ρ) : Except NetworkError (Engine σ ρ) := do
  config.validate
  return {
    config
    outbound := { tracker := { timeout := EngineConfig.millis config.ackTimeout }, medium }
    duplicates := .new config.dedupeWindow.toNat
    outside }

/-- Whether a transport is attached. -/
def isInitialized (e : Engine σ ρ) : Bool := e.forwarding.isSome

/-- Publishes an error event. -/
def publishError (event : ErrorEvent) (e : Engine σ ρ) : Engine σ ρ :=
  { e with errors := e.errors ++ [event] }

/-- Publishes the failure of a call to an endpoint and passes the result on. -/
def reported {α : Type} (id : UInt16) (result : Except NetworkError α) (e : Engine σ ρ) :
    Except NetworkError α × Engine σ ρ :=
  match result with
  | .ok a => (.ok a, e)
  | .error error => (.error error, e.publishError (.ofError id error))

/-- Passes on what the layers have published: to callers that wait, and to the outside. -/
def absorb (e : Engine σ ρ) : Engine σ ρ :=
  let statuses := e.outbound.heard.map (·.2)
  { e with
    outbound := { e.outbound with heard := [] }
    waiters := statuses.foldl Waiters.complete e.waiters
    delivered := e.delivered ++ statuses }

/-! ## Attaching a transport -/

/-- The failure that a transport is attached while frames are received. -/
def stillRunning : NetworkError :=
  .configuration "cannot initialize a running engine; call stop first" (some "transport")

/-- Removes a connection to the tracker. -/
def disconnect (o : Outbound σ Unit) (connection : Nat) : Outbound σ Unit :=
  { o with status := (o.status.disconnect connection).2 }

/-- Builds the layers over a transport and listens to the last of them. A transport that
claims to lose nothing needs no retry layer. -/
def build (c : Carrier σ) (maxRetries : UInt32) (o : Outbound σ Unit) :
    Layer × Forwarding × Outbound σ Unit :=
  if c.isReliable o.medium || maxRetries = 0 then
    let (connection, status) := o.status.connect (.outside ())
    (.tracked, .tracker connection, { o with status, retry := none })
  else
    let o := o.attachRetry maxRetries
    (.reliable, .retryLayer,
      { o with retry := o.retry.map fun r => { r with status := (r.status.connect ()).2 } })

/-- Attaches a transport in place of an earlier one, whose connections to the tracker are
removed once the new ones are there. This is taken as one step. It is done part by part, each under
a lock of its own, while the engine's thread may go on with frames that it had received before: what
that thread publishes between the new connections and the removal of the old ones goes both ways. -/
def attach (c : Carrier σ) (medium : σ) (e : Engine σ ρ) :
    Except NetworkError Unit × Engine σ ρ :=
  if e.running then (.error stillRunning, e)
  else
    let (layer, forwarding, o) := build c e.config.maxRetries { e.outbound with medium }
    let o := match e.forwarding with
      | some (.tracker connection) => disconnect o connection
      | _ => o
    let o := match e.outbound.retry with
      | some r => disconnect o r.subscription
      | none => o
    (.ok (), { e with
      outbound := o
      forwarding := some forwarding
      dispatcher := { e.dispatcher with layer := some layer } })

/-! ## Sending -/

/-- The layers as transports at the time `clock`. -/
def layers (c : Carrier σ) (clock : Time) : Layer → Carrier (Outbound σ Unit) :=
  Outbound.carrier c clock

/-- Sends a payload to an endpoint and gives the sequence number. -/
def send (c : Carrier σ) (clock : Time) (id : UInt16) (payload : Bytes) (e : Engine σ ρ) :
    Except NetworkError UInt16 × Engine σ ρ :=
  let (result, dispatcher, outbound) := e.dispatcher.dispatch (layers c clock) id payload e.outbound
  { e with dispatcher, outbound }.absorb.reported id result

/-- Sends a payload for a caller that waits for the outcome, and makes a slot for it. -/
def beginWait (c : Carrier σ) (clock : Time) (id : UInt16) (payload : Bytes) (e : Engine σ ρ) :
    Except NetworkError UInt16 × Engine σ ρ :=
  let (seq, dispatcher) := e.dispatcher.draw
  let e := { e with dispatcher, waiters := e.waiters.register seq }
  match e.dispatcher.dispatchWith (layers c clock) id seq payload e.outbound with
  | (.ok (), outbound) => (.ok seq, { e with outbound }.absorb)
  | (.error error, outbound) =>
    let e := { e with outbound }.absorb
    { e with waiters := e.waiters.cancel seq }.reported id (.error error)

/-- The failure that a caller on the engine's own thread wants to wait. -/
def wouldBlock : NetworkError :=
  .configuration "send_and_wait would block the engine thread" (some "thread")

/-- Refuses to let a caller wait that is on the engine's own thread. -/
def refuseWait (id : UInt16) (e : Engine σ ρ) : Except NetworkError UInt16 × Engine σ ρ :=
  e.reported id (.error wouldBlock)

/-- How often a frame is sent before it counts as undelivered, as far as 32 bits go. -/
def attemptsPerSend (e : Engine σ ρ) : UInt32 :=
  match e.outbound.retry with
  | some r => r.maxRetries + 1
  | none => 1

/-- What a caller is told that waited for a frame. -/
def waitAnswer (e : Engine σ ρ) (id seq : UInt16) : Option Outcome → Except NetworkError UInt16
  | some .success => .ok seq
  | some .timeout => .error (.delivery id seq e.attemptsPerSend.toNat)
  | none =>
    .error (.timeout s!"send_and_wait to endpoint {id}" e.config.waitTimeout.toNat)

/-- A caller that waits looks for its outcome. -/
def poll (e : Engine σ ρ) (id seq : UInt16) :
    Option (Except NetworkError UInt16) × Engine σ ρ :=
  let (outcome, waiters) := e.waiters.poll seq
  (outcome.map fun o => e.waitAnswer id seq (some o), { e with waiters })

/-- A caller stops waiting. -/
def giveUp (e : Engine σ ρ) (id seq : UInt16) : Except NetworkError UInt16 × Engine σ ρ :=
  let (outcome, waiters) := e.waiters.giveUp seq
  (e.waitAnswer id seq outcome, { e with waiters })

/-! ## Outcomes -/

/-- Handles an acknowledgment. -/
def acknowledge (c : Carrier σ) (clock : Time) (seq : UInt16) (e : Engine σ ρ) : Engine σ ρ :=
  { e with outbound := (e.outbound.acknowledge c clock seq).2 }.absorb

/-- Ends the tracking of frames that are late at the clock reading `now` and counts them; the
frame with a number, if it is sent again, counts as sent at the clock reading for this number. -/
def scan (c : Carrier σ) (now : Time) (clock : UInt16 → Time) (e : Engine σ ρ) :
    Nat × Engine σ ρ :=
  let (count, outbound) := e.outbound.scan c now clock
  (count, { e with outbound }.absorb)

/-- The number of frames in flight. -/
def inFlight (e : Engine σ ρ) : Nat := e.outbound.tracker.pending.size

/-- The number of frames that may be sent again. -/
def retryPending (e : Engine σ ρ) : Nat := e.outbound.held

/-- The counters of the transport, if one is attached. -/
def stats (c : Carrier σ) (e : Engine σ ρ) : Option TransportStats :=
  if e.isInitialized then some (c.stats e.outbound.medium) else none

/-! ## Endpoints -/

/-- Refuses to register an endpoint under the id of acknowledgments. -/
def checkEndpoint (id : UInt16) : Except NetworkError Unit :=
  if id = ackId then .error Dispatcher.reservedId else .ok ()

/-- Registers an endpoint. -/
def register (id : UInt16) (invoker : Invoker ρ) (e : Engine σ ρ) : Engine σ ρ :=
  { e with registry := (e.registry.insert id invoker).2 }

end Engine

end Courier
