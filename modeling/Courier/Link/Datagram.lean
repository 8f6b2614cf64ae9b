import Courier.Config.Channel
import Courier.Link.Stats
import Courier.Wire.Frame

/-!
# Datagram transports

Every frame is a datagram of its own. A transport without a fixed remote address answers
whoever sent the last frame that it could read. The socket keeps one byte more than a
datagram may have, so that a longer datagram is not taken for a shorter one.
-/

namespace Courier

/-- A datagram that has arrived. -/
structure Datagram where
  source : SocketAddress
  bytes : Bytes
deriving DecidableEq, Repr

/-- A datagram transport together with its socket. -/
structure UdpEnd where
  config : UdpConfig
  /-- Where frames go to. -/
  peer : Option SocketAddress := config.remoteAddress
  /-- The datagrams that have arrived, the oldest first. -/
  inbox : List Datagram := []
  /-- Whether an earlier datagram was refused, which the next use of the socket reports. -/
  refused : Bool := false
  stats : TransportStats := {}
deriving DecidableEq, Repr

namespace UdpEnd

/-- The most bytes a datagram may have. -/
def limit (e : UdpEnd) : Nat := e.config.maxDatagramSize.toNat

/-- Whether the remote address is fixed. -/
def isConnected (e : UdpEnd) : Bool := e.config.remoteAddress.isSome

/-- The failure that there is nobody to send to yet. -/
def noPeer : NetworkError :=
  .configuration "UDP transport has no remote address and no peer yet" (some "remote_address")

/-- The datagram that carries a frame, if the transport may send one of its size. -/
def datagram (e : UdpEnd) (header : Header) (payload : Bytes) : Except NetworkError Bytes :=
  match Frame.encode header payload with
  | .error cause => .error (.protocol cause)
  | .ok bytes =>
    if e.limit < bytes.length then
      .error (.protocol (.payloadTooLarge payload.length (min (e.limit - headerSize) maxPayload)))
    else .ok bytes

/-- Sends a frame and gives the datagram and where it goes to. -/
def send (header : Header) (payload : Bytes) (e : UdpEnd) :
    Except NetworkError (SocketAddress × Bytes) × UdpEnd :=
  match e.datagram header payload, e.peer with
  | .error error, _ => (.error error, e)
  | .ok _, none => (.error noPeer, e)
  | .ok bytes, some peer =>
    if e.refused then
      (.error (.transport "Failed to send UDP datagram" (some "refused")),
        { e with refused := false, stats := e.stats.failed })
    else (.ok (peer, bytes), { e with stats := e.stats.sent bytes.length })

/-- What the socket stores of a datagram. -/
def stored (e : UdpEnd) (bytes : Bytes) : Bytes := bytes.take (e.limit + 1)

/-- Puts a datagram into the inbox. A socket with a fixed remote address takes datagrams
from there only. -/
def arrive (d : Datagram) (e : UdpEnd) : UdpEnd :=
  if e.config.remoteAddress.all (· = d.source) then { e with inbox := e.inbox ++ [d] } else e

/-- Reads a datagram as a frame. Only a frame may redirect replies. -/
def accept (d : Datagram) (e : UdpEnd) : Except NetworkError Frame × UdpEnd :=
  match Frame.decode (e.stored d.bytes) with
  | .ok frame =>
    (.ok frame,
      { e with
        peer := if e.isConnected then e.peer else some d.source
        stats := e.stats.received (e.stored d.bytes).length })
  | .error cause => (.error (.protocol cause), { e with stats := e.stats.malformed })

/-- Takes the oldest datagram from the inbox. -/
def receive (e : UdpEnd) : Except NetworkError (Option Frame) × UdpEnd :=
  if e.refused then
    (.error (.transport "Failed to receive UDP datagram" (some "refused")),
      { e with refused := false, stats := e.stats.failed })
  else
    match e.inbox with
    | [] => (.ok none, e)
    | d :: rest =>
      let (result, e) := { e with inbox := rest }.accept d
      (result.map some, e)

end UdpEnd

end Courier
