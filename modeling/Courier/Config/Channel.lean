import Courier.Address
import Courier.Config.Watchdog
import Courier.Error
import Courier.Wire.Header

/-!
# Settings of transports

Datagram and stream transports are opened with an address and a few limits. Opening
fails when an address cannot be bound or reached.
-/

namespace Courier

/-- The kinds of transports. -/
inductive TransportKind where
  | udp | tcp | memory
deriving DecidableEq, Repr, Inhabited

namespace TransportKind

/-- All kinds. -/
def all : List TransportKind := [udp, tcp, memory]

/-- The name of a kind in settings. -/
def name : TransportKind → String
  | udp => "Udp"
  | tcp => "Tcp"
  | memory => "Memory"

end TransportKind

/-- Which side of a connection opens it. -/
inductive TcpRole where
  | client | server
deriving DecidableEq, Repr, Inhabited

namespace TcpRole

/-- Both roles. -/
def all : List TcpRole := [client, server]

/-- The name of a role in settings. -/
def name : TcpRole → String
  | client => "Client"
  | server => "Server"

end TcpRole

/-- The settings of a stream transport. -/
structure TcpConfig where
  address : SocketAddress
  role : TcpRole
  connectTimeout : UInt64 := 5000
  nodelay : Bool := true
deriving DecidableEq, Repr

/-- The time that opening a connection may take: at least a millisecond. -/
def TcpConfig.effectiveTimeout (c : TcpConfig) : Duration :=
  (Duration.ofMillis c.connectTimeout.toNat).atLeast (.ofMillis 1)

/-- The settings of a datagram transport. -/
structure UdpConfig where
  bindAddress : SocketAddress := .v4 0 0 0 0 0
  remoteAddress : Option SocketAddress := none
  maxDatagramSize : UInt64 := 65507
deriving DecidableEq, Repr

/-- The longest datagram that IPv4 can carry. -/
def maxUdpPayload : Nat := 65507

/-- Refuses a limit that no datagram can use or that no header fits. -/
def UdpConfig.validate (c : UdpConfig) : Except NetworkError Unit :=
  if maxUdpPayload < c.maxDatagramSize.toNat then
    .error (.configuration "UDP datagram size cannot exceed 65507 bytes"
      (some "max_datagram_size"))
  else if c.maxDatagramSize.toNat < headerSize then
    .error (.configuration "UDP datagram size must fit a frame header"
      (some "max_datagram_size"))
  else .ok ()

/-- What a system answers when transports are opened on it. -/
structure Reachability where
  /-- Whether a socket can be bound to an address. -/
  canBind : SocketAddress → Bool
  /-- Whether something listens at an address. -/
  canReach : SocketAddress → Bool

/-- Whether an address belongs to every system: the loopback and the unspecified
addresses. -/
def SocketAddress.isOwn : SocketAddress → Bool
  | .v4 a b c d _ => a = 127 || (a, b, c, d) = (0, 0, 0, 0)
  | .v6 gs _ _ => gs.take 7 = List.replicate 7 0 && gs.getLastD 0 ≤ 1

/-- A system without a network: only its own addresses can be bound, and nothing
listens. -/
def Reachability.isolated : Reachability := ⟨SocketAddress.isOwn, fun _ => false⟩

/-- Opens a datagram transport: binds its socket, then fixes its remote address. -/
def UdpConfig.tryOpen (system : Reachability) (c : UdpConfig) : Except NetworkError Unit := do
  c.validate
  if !system.canBind c.bindAddress then
    throw (.io s!"Failed to bind UDP socket on {c.bindAddress.toText}" "bind")
  match c.remoteAddress with
  | none => return ()
  | some remote =>
    if !c.bindAddress.sameFamily remote then
      throw (.io s!"Failed to connect UDP socket to {remote.toText}" "connect")

/-- Opens a stream transport: binds its listener, or reaches its peer. -/
def TcpConfig.tryOpen (system : Reachability) (c : TcpConfig) : Except NetworkError Unit :=
  match c.role with
  | .server =>
    if system.canBind c.address then .ok ()
    else .error (.io s!"Failed to bind TCP listener on {c.address.toText}" "bind")
  | .client =>
    if system.canReach c.address then .ok ()
    else .error (.io s!"Failed to connect TCP stream to {c.address.toText}" "connect")

end Courier
