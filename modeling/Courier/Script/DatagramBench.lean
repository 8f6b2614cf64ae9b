import Courier.Link.Datagram
import Courier.Script.Answer

/-!
# Datagram transports step by step

A server waits for frames, a client sends only to it, and a plain socket, the stray,
sends it whatever bytes it likes. Datagrams arrive at once and in order.
-/

namespace Courier.DatagramBench

open Script (Answer)

/-- A local address. -/
def loopback (port : UInt16) : SocketAddress := .v4 127 0 0 1 port

/-- Where the server is. -/
def serverAddress : SocketAddress := loopback 1

/-- Where the client is. -/
def clientAddress : SocketAddress := loopback 2

/-- Where the stray is. -/
def strayAddress : SocketAddress := loopback 3

/-- The three sockets; the server may be gone. -/
structure Bench where
  server : Option UdpEnd
  client : UdpEnd :=
    { config := { bindAddress := clientAddress, remoteAddress := some serverAddress } }
  /-- What has arrived at the stray, the oldest first. -/
  stray : List Bytes := []

/-- Opens the server with a limit on the size of its datagrams. -/
def Bench.start (limit : UInt64) : Except NetworkError Bench := do
  let config : UdpConfig := { bindAddress := serverAddress, maxDatagramSize := limit }
  config.validate
  return { server := some { config } }

/-- Who takes a step. -/
inductive Party where
  | server | client
deriving DecidableEq, Repr

/-- A step at the sockets. -/
inductive Step where
  | send (by_ : Party) (header : Header) (payload : Bytes)
  | receive (by_ : Party)
  | straySend (bytes : Bytes)
  | strayReceive
  | stats (of : Party)
  | info (of : Party)
  | dropServer
deriving DecidableEq, Repr

namespace Bench

/-- The transport of a party. -/
def endOf (b : Bench) : Party → Option UdpEnd
  | .server => b.server
  | .client => some b.client

/-- Replaces the transport of a party. -/
def setEnd (b : Bench) (party : Party) (e : UdpEnd) : Bench :=
  match party with
  | .server => { b with server := some e }
  | .client => { b with client := e }

/-- Brings a datagram to where it goes. The client hears that the server is gone when it
uses its socket the next time. -/
def deliver (b : Bench) (source target : SocketAddress) (bytes : Bytes) : Bench :=
  if target = serverAddress then
    match b.server with
    | some e => { b with server := some (e.arrive ⟨source, bytes⟩) }
    | none =>
      if source = clientAddress then { b with client := { b.client with refused := true } } else b
  else if target = clientAddress then { b with client := b.client.arrive ⟨source, bytes⟩ }
  else { b with stray := b.stray ++ [bytes] }

/-- Takes a step on a transport. -/
def onEnd (b : Bench) (party : Party) (f : UdpEnd → Answer × Bench) : Answer × Bench :=
  match b.endOf party with
  | some e => f e
  | none => (.nothing, b)

/-- Takes a step. -/
def step (b : Bench) : Step → Answer × Bench
  | .send party header payload => b.onEnd party fun e =>
    match e.send header payload with
    | (.ok (target, bytes), e') =>
      (.done, (b.setEnd party e').deliver e.config.bindAddress target bytes)
    | (.error error, e) => (.failed error, b.setEnd party e)
  | .receive party => b.onEnd party fun e =>
    let (result, e) := e.receive
    (.received result, b.setEnd party e)
  | .straySend bytes => (.flag true, b.deliver strayAddress serverAddress bytes)
  | .strayReceive =>
    match b.stray with
    | bytes :: rest => (.bytes bytes, { b with stray := rest })
    | [] => (.nothing, b)
  | .stats party => b.onEnd party fun e => (.stats e.stats, b)
  | .info party => b.onEnd party fun e =>
    (.fields [("type", .text "udp"), ("reliable", .flag false), ("connected", .flag e.isConnected),
      ("max", .number e.limit)], b)
  | .dropServer => (.nothing, { b with server := none })

end Bench

/-- Takes steps in order and gives their answers. -/
def run : Bench → List Step → List Answer
  | _, [] => []
  | b, s :: rest => let (answer, b) := b.step s; answer :: run b rest

end Courier.DatagramBench
