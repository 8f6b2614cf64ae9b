import Courier.Config.Channel
import Courier.Link.Stats
import Courier.Wire.Stream

/-!
# Stream transports

Frames follow each other on a connection. A server takes its connections as they come in,
a client opens a new one after it has lost the last, and both do so when they receive.
What has been read but is not yet a frame belongs to its connection and goes with it.
-/

namespace Courier

/-- What an attempt to read gives; bytes are never none at all. -/
inductive ReadResult where
  | bytes (first : UInt8) (rest : Bytes)
  | nothing
  /-- The peer has closed the connection. -/
  | ended
  | failed (source : String)
deriving DecidableEq, Repr

/-- What an attempt to get a connection gives. -/
inductive Obtained where
  | connection (number : Nat)
  /-- None was there in time, or none could be opened. -/
  | nothing
  /-- The connections that come in cannot be taken. -/
  | rejected (source : String)
  /-- There was a connection, but it could not be made ready for use. -/
  | unusable (source : String)
deriving DecidableEq, Repr

/-- The network around a stream transport: what can be done with its connections, which go
by numbers, in a state of type `ν`. -/
structure StreamNetwork (ν : Type) where
  /-- Takes or opens a connection, if one is to be had. -/
  obtain : ν → Obtained × ν
  /-- Limits how long the next read from a connection may take, or says why that failed. -/
  limit : Nat → ν → Option String × ν
  /-- Reads at most some number of bytes from a connection. -/
  read : Nat → Nat → ν → ReadResult × ν
  /-- Writes bytes to a connection, or says why that failed. -/
  write : Nat → Bytes → ν → Option String × ν

/-- The most bytes that are read at once. -/
def readChunk : Nat := 16384

/-- A stream transport. -/
structure TcpEnd where
  /-- The connection that is read. -/
  reading : Option Nat := none
  /-- The connection that is written to. -/
  writing : Option Nat := none
  /-- What has been read and is not yet a frame. -/
  buffer : Bytes := []
  /-- Whether a write has failed since the last receive. -/
  broken : Bool := false
  stats : TransportStats := {}
deriving DecidableEq, Repr

namespace TcpEnd

/-- Whether frames can be sent. -/
def isConnected (e : TcpEnd) : Bool := e.writing.isSome

/-- Takes a new connection into use. -/
def install (e : TcpEnd) (connection : Nat) : TcpEnd :=
  { e with reading := some connection, writing := some connection, buffer := [] }

/-- Gives up the connection and what was read from it. -/
def disconnect (e : TcpEnd) : TcpEnd := { e with reading := none, writing := none, buffer := [] }

/-- The failure that there is no connection. -/
def notConnected : NetworkError := .transport "TCP transport is not connected" none

variable {ν : Type}

/-- Sends a frame. A write that fails leaves the transport without a connection to write
to, and the next receive gives up the rest of it. -/
def send (net : StreamNetwork ν) (header : Header) (payload : Bytes) (e : TcpEnd) (world : ν) :
    Except NetworkError Unit × TcpEnd × ν :=
  match Frame.encode header payload, e.writing with
  | .error cause, _ => (.error (.protocol cause), e, world)
  | .ok _, none => (.error notConnected, e, world)
  | .ok bytes, some connection =>
    match net.write connection bytes world with
    | (none, world) => (.ok (), { e with stats := e.stats.sent bytes.length }, world)
    | (some source, world) =>
      (.error (.transport "Failed to write TCP frame" (some source)),
        { e with writing := none, broken := true, stats := e.stats.failed }, world)

/-- Takes the next frame, or bytes that start none, off the buffer; nothing if the buffer
has to grow first. -/
def take? (e : TcpEnd) : Option (Except NetworkError Frame × TcpEnd) :=
  match takeFrame e.buffer with
  | .incomplete => none
  | .frame frame rest =>
    some (.ok frame, { e with buffer := rest, stats := e.stats.received frame.size })
  | .malformed cause rest =>
    some (.error (.protocol cause), { e with buffer := rest, stats := e.stats.malformed })

/-- Reads from a connection until the buffer has something to take or there is nothing more
to read. A failure to limit the time of a read leaves the connection in use. With bytes left to
read, `reads` bounds the number of attempts. -/
def readOn (net : StreamNetwork ν) (connection : Nat) :
    Nat → TcpEnd → ν → Except NetworkError (Option Frame) × TcpEnd × ν
  | 0, e, world => (.ok none, e, world)
  | reads + 1, e, world =>
    match net.limit connection world with
    | (some source, world) => (.error (.ofIo source), e, world)
    | (none, world) =>
      match net.read connection readChunk world with
      | (.nothing, world) => (.ok none, e, world)
      | (.ended, world) => (.ok none, e.disconnect, world)
      | (.failed source, world) =>
        (.error (.transport "Failed to read TCP stream" (some source)),
          { e.disconnect with stats := e.stats.failed }, world)
      | (.bytes first rest, world) =>
        let e := { e with buffer := e.buffer ++ first :: rest }
        match e.take? with
        | some (result, e) => (result.map some, e, world)
        | none => readOn net connection reads e world

/-- The size of the longest frame. Every read adds to the buffer, and a buffer of this size
always has something to take, so that no receive needs more reads. -/
def longestFrame : Nat := headerSize + maxPayload

/-- Takes the next frame. What the buffer holds comes first; then the connection is read,
or a new one if there is none, unless the receive may not wait at all. -/
def receive (net : StreamNetwork ν) (timeout : Duration) (e : TcpEnd) (world : ν) :
    Except NetworkError (Option Frame) × TcpEnd × ν :=
  let e := if e.broken then { e.disconnect with broken := false } else e
  match e.take? with
  | some (result, e) => (result.map some, e, world)
  | none =>
    match connected e world with
    | (.error error, e, world) => (.error error, e, world)
    | (.ok none, e, world) => (.ok none, e, world)
    | (.ok (some connection), e, world) =>
      if timeout.nanos = 0 then (.ok none, e, world)
      else e.readOn net connection longestFrame world
where
  /-- The connection in use, or a new one. -/
  connected (e : TcpEnd) (world : ν) : Except NetworkError (Option Nat) × TcpEnd × ν :=
    match e.reading with
    | some connection => (.ok (some connection), e, world)
    | none =>
      match net.obtain world with
      | (.connection number, world) => (.ok (some number), e.install number, world)
      | (.nothing, world) => (.ok none, e, world)
      | (.rejected source, world) => (.error (.io "TCP accept failed" source), e, world)
      | (.unusable source, world) => (.error (.ofIo source), e, world)

end TcpEnd

end Courier
