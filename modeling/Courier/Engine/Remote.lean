import Courier.Engine.Basic
import Courier.Text.Quoted

/-!
# Calls to endpoints

A caller has a payload for an endpoint, or an argument that has to be encoded first, and waits
for the outcome or goes on. A remote delegate calls an endpoint behind an engine with arguments
of one type. Two delegates are equal when they call the same endpoint through the same engine.
-/

namespace Courier

/-- What is sent with a call: a payload as it is, or an argument, and what encoding it came to. -/
inductive Content where
  | payload (bytes : Bytes)
  | argument (encoded : Except NetworkError Bytes)

/-- A call to an endpoint, and whether the caller waits for the outcome and is on the engine's own
thread. -/
structure Request where
  id : UInt16
  content : Content
  waits : Bool := false
  onThread : Bool := false

namespace Engine

variable {σ ρ : Type}

/-- The payload of a call. That an argument could not be encoded is published. -/
def payloadOf (r : Request) (e : Engine σ ρ) : Except NetworkError Bytes × Engine σ ρ :=
  match r.content with
  | .payload bytes => (.ok bytes, e)
  | .argument encoded => e.reported r.id (encoded.mapError (·.forEndpoint r.id))

/-- Makes a call, up to the point where a caller begins to wait. -/
def ask (c : Carrier σ) (clock : Time) (r : Request) (e : Engine σ ρ) :
    Except NetworkError UInt16 × Engine σ ρ :=
  match e.payloadOf r with
  | (.error error, e) => (.error error, e)
  | (.ok payload, e) =>
    if r.waits then
      if r.onThread then e.refuseWait r.id else e.beginWait c clock r.id payload
    else e.send c clock r.id payload

/-- Calls an endpoint with an argument, without waiting. -/
def callRemote {α : Type} (c : Carrier σ) (clock : Time) (serializer : Serializer α) (v : α)
    (id : UInt16) (e : Engine σ ρ) : Except NetworkError UInt16 × Engine σ ρ :=
  e.ask c clock { id, content := .argument (serializer.encode v) }

end Engine

/-- A delegate for an endpoint behind an engine, which goes by a value of type `ε`. -/
structure RemoteDelegate (ε : Type) where
  engine : ε
  endpoint : UInt16
  /-- The name of the argument's type. -/
  argument : String
deriving DecidableEq, Repr

namespace RemoteDelegate

variable {ε : Type}

/-- Whether two delegates call the same endpoint through the same engine. -/
def same [DecidableEq ε] (a b : RemoteDelegate ε) : Bool :=
  a.endpoint = b.endpoint && a.engine = b.engine

/-- The text that describes a delegate. -/
def describe (d : RemoteDelegate ε) : String :=
  s!"RemoteDelegate \x7b endpoint: {d.endpoint}, args: {Text.quoted d.argument} \x7d"

end RemoteDelegate

end Courier
