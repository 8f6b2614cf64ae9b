import Courier.Wire.Error
import Courier.Task.Error

/-!
# Failures of the network

Everything that can go wrong between a remote call and its delivery, sorted into kinds
with stable numeric codes. What goes wrong where no caller is waiting is published as an
event that names the endpoint concerned.
-/

namespace Courier

/-- The kinds into which failures are sorted. -/
inductive ErrorKind where
  | allocation | configuration | protocol | serialization | delivery | transport
  | unknownEndpoint | dispatch
deriving DecidableEq, Repr

/-- The numeric code of a kind. -/
def ErrorKind.code : ErrorKind → Nat
  | allocation => 1
  | configuration => 2
  | protocol => 3
  | serialization => 4
  | delivery => 5
  | transport => 6
  | unknownEndpoint => 7
  | dispatch => 8

/-- The name of a kind. -/
def ErrorKind.name : ErrorKind → String
  | allocation => "Allocation"
  | configuration => "Configuration"
  | protocol => "Protocol"
  | serialization => "Serialization"
  | delivery => "Delivery"
  | transport => "Transport"
  | unknownEndpoint => "UnknownEndpoint"
  | dispatch => "Dispatch"

/-- A failure of the network. -/
inductive NetworkError where
  | allocation (context : String)
  /-- A setting or a call order that cannot work; `field` names the setting at fault. -/
  | configuration (text : String) (field : Option String)
  | protocol (cause : FrameError)
  /-- An argument could not be encoded or decoded. -/
  | serialization (endpoint : Option UInt16) (text : String)
  /-- Every transmission of a frame went unacknowledged. -/
  | delivery (endpoint seq : UInt16) (attempts : Nat)
  | transport (text : String) (source : Option String)
  | io (text source : String)
  | timeout (operation : String) (limitMillis : Nat)
  | dispatch (cause : TaskError)
deriving DecidableEq, Repr

namespace NetworkError

/-- An I/O failure that is reported in its own words. -/
def ofIo (source : String) : NetworkError := .io source source

/-- An endpoint, or the lack of one, as it is written inside a message. -/
def endpointText : Option UInt16 → String
  | none => "None"
  | some id => s!"Some({id})"

/-- The text that reports the failure. -/
def message : NetworkError → String
  | allocation context => s!"Allocation failed: {context}"
  | configuration text _ => s!"Configuration error: {text}"
  | protocol cause => s!"Protocol error: {cause.message}"
  | serialization endpoint text =>
    s!"Serialization error (endpoint {endpointText endpoint}): {text}"
  | delivery endpoint seq attempts =>
    s!"Delivery failed: endpoint {endpoint} seq {seq} after {attempts} attempts"
  | transport text _ => s!"Transport error: {text}"
  | io text _ => s!"I/O error: {text}"
  | timeout operation limit => s!"Timeout error: {operation} exceeded {limit}ms"
  | dispatch cause => s!"Dispatch error: {cause.message}"

/-- The kind a failure belongs to. I/O trouble counts as transport trouble, an elapsed
wait as a delivery that failed, and lack of memory on another thread as lack of memory. -/
def kind : NetworkError → ErrorKind
  | allocation _ => .allocation
  | configuration .. => .configuration
  | protocol _ => .protocol
  | serialization .. => .serialization
  | delivery .. => .delivery
  | transport .. => .transport
  | io .. => .transport
  | timeout .. => .delivery
  | dispatch (.allocation _) => .allocation
  | dispatch _ => .dispatch

/-- Whether the same operation may succeed when it is tried again. -/
def isTransient : NetworkError → Bool
  | transport .. | io .. | timeout .. => true
  | dispatch cause => cause.isTransient
  | _ => false

/-- The text of the underlying cause, if one was recorded. -/
def source : NetworkError → Option String
  | protocol cause => some cause.message
  | dispatch cause => some cause.message
  | transport _ source => source
  | io _ source => some source
  | _ => none

/-- Names the endpoint in an encoding failure that does not name one yet. -/
def forEndpoint (id : UInt16) : NetworkError → NetworkError
  | serialization none text => serialization (some id) text
  | error => error

end NetworkError

/-- A published failure: the endpoint concerned (0 when there is none), the kind and the
text. -/
structure ErrorEvent where
  endpoint : UInt16
  kind : ErrorKind
  text : String
deriving DecidableEq, Repr

/-- The event that publishes a failure of an endpoint. -/
def ErrorEvent.ofError (endpoint : UInt16) (error : NetworkError) : ErrorEvent :=
  ⟨endpoint, error.kind, error.message⟩

end Courier
