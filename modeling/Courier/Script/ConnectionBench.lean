import Courier.Link.Connection
import Courier.Script.Answer

/-!
# Stream transports step by step

A stream transport meets plain sockets, its peers. A server finds the connections that
peers have opened; a client opens connections that the peers' listener takes. Bytes
arrive at once.
-/

namespace Courier.ConnectionBench

open Script (Answer)

/-- How a peer left a connection. -/
inductive Ending where
  /-- It has not left. -/
  | none
  /-- It closed its end after it had read everything. -/
  | finished
  /-- It gave the connection up with bytes not read. -/
  | aborted
deriving DecidableEq, Repr

/-- A connection between the transport and a peer. -/
structure Wire where
  /-- Bytes on their way to the transport. -/
  inbound : Bytes := []
  /-- Bytes on their way to the peer. -/
  outbound : Bytes := []
  ending : Ending := .none
  /-- Whether bytes came back because the peer had closed its end. -/
  refused : Bool := false
deriving DecidableEq, Repr

/-- The connections by number, those that nobody has taken yet, and the peers by number. -/
structure Network where
  role : TcpRole
  wires : List Wire := []
  backlog : List Nat := []
  peers : List Nat := []
  /-- Whether the peers' listener is open. -/
  listening : Bool := true
deriving DecidableEq, Repr

namespace Network

/-- Changes a connection. -/
def onWire (n : Network) (connection : Nat) (f : Wire → Wire) : Network :=
  { n with wires := n.wires.modify connection f }

/-- The connection with a number. -/
def wire (n : Network) (connection : Nat) : Wire := n.wires.getD connection {}

/-- Opens a connection that waits to be taken. -/
def enqueue (n : Network) : Network :=
  { n with wires := n.wires ++ [{}], backlog := n.backlog ++ [n.wires.length] }

/-- A server takes the connection that waited longest; a client opens one. -/
def obtain (n : Network) : Obtained × Network :=
  match n.role with
  | .server =>
    match n.backlog with
    | connection :: backlog => (.connection connection, { n with backlog })
    | [] => (.nothing, n)
  | .client => if n.listening then (.connection n.wires.length, n.enqueue) else (.nothing, n)

/-- Reads what has arrived; after that the end of the connection shows. -/
def read (connection count : Nat) (n : Network) : ReadResult × Network :=
  let w := n.wire connection
  match w.inbound.take count with
  | first :: rest =>
    (.bytes first rest, n.onWire connection fun w => { w with inbound := w.inbound.drop count })
  | [] =>
    (match w.ending with
      | .none => .nothing
      | .finished => .ended
      | .aborted => .failed "reset", n)

/-- Writes to the peer. The first write after the peer has closed seems to go well. -/
def write (connection : Nat) (bytes : Bytes) (n : Network) : Option String × Network :=
  match n.wire connection with
  | { ending := .aborted, .. } => (some "reset", n)
  | { refused := true, .. } => (some "refused", n)
  | { ending := .finished, .. } => (none, n.onWire connection fun w => { w with refused := true })
  | { ending := .none, .. } =>
    (none, n.onWire connection fun w => { w with outbound := w.outbound ++ bytes })

/-- The connections as a transport uses them. -/
def operations : StreamNetwork Network where
  obtain := obtain
  limit _ n := (none, n)
  read := read
  write := write

/-- Closes the peer's end. Bytes that the peer has not read break the connection. -/
def closeWire (w : Wire) : Wire :=
  { w with ending := if w.outbound.isEmpty then .finished else .aborted, outbound := [] }

end Network

/-- The transport and its network. -/
structure Bench where
  transport : TcpEnd := {}
  network : Network

/-- A server without connections, or a client with its first one. -/
def Bench.start (role : TcpRole) : Bench :=
  match role with
  | .server => { network := { role } }
  | .client =>
    { transport := ({} : TcpEnd).install 0, network := { role, wires := [{}], peers := [0] } }

/-- A step at the transport or at a peer, which is the newest one unless a number is
given. -/
inductive Step where
  /-- A peer connects to a server. -/
  | connect
  /-- A peer takes the connection that a client has opened. -/
  | accept
  | write (peer : Option Nat) (bytes : Bytes)
  | read (peer : Option Nat) (count : Nat)
  | close (peer : Option Nat)
  | closeListener
  | send (header : Header) (payload : Bytes)
  | receive (timeout : Duration)
  | stats
  | info
deriving DecidableEq, Repr

namespace Bench

/-- Changes the network. -/
def onNetwork (b : Bench) (f : Network → Network) : Bench := { b with network := f b.network }

/-- The connection of a peer. -/
def connectionOf (b : Bench) (peer : Option Nat) : Nat :=
  b.network.peers.getD (peer.getD (b.network.peers.length - 1)) 0

/-- Takes a step. -/
def step (b : Bench) : Step → Answer × Bench
  | .connect =>
    (.nothing, b.onNetwork fun n => { n.enqueue with peers := n.peers ++ [n.wires.length] })
  | .accept =>
    (.nothing, b.onNetwork fun n =>
      { n with peers := n.peers ++ n.backlog.take 1, backlog := n.backlog.drop 1 })
  | .write peer bytes =>
    (.flag true, b.onNetwork (·.onWire (b.connectionOf peer) fun w =>
      { w with inbound := w.inbound ++ bytes }))
  | .read peer count =>
    let connection := b.connectionOf peer
    (.bytes ((b.network.wire connection).outbound.take count),
      b.onNetwork (·.onWire connection fun w => { w with outbound := w.outbound.drop count }))
  | .close peer => (.nothing, b.onNetwork (·.onWire (b.connectionOf peer) Network.closeWire))
  | .closeListener =>
    (.nothing, b.onNetwork fun n =>
      { n.backlog.foldl (fun n c => n.onWire c fun w => { w with ending := .aborted }) n with
        listening := false, backlog := [] })
  | .send header payload =>
    let (result, transport, network) :=
      b.transport.send Network.operations header payload b.network
    (.sent result, { transport, network })
  | .receive timeout =>
    let (result, transport, network) := b.transport.receive Network.operations timeout b.network
    (.received result, { transport, network })
  | .stats => (.stats b.transport.stats, b)
  | .info => (.fields [("type", .text "tcp"), ("reliable", .flag true)], b)

end Bench

/-- What is seen after a step. -/
structure View where
  answer : Answer
  connected : Bool

/-- Takes steps in order and looks at the transport after each of them. -/
def run : Bench → List Step → List View
  | _, [] => []
  | b, s :: rest =>
    let (answer, b) := b.step s
    ⟨answer, b.transport.isConnected⟩ :: run b rest

end Courier.ConnectionBench
