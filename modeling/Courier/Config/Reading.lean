import Courier.Config.Channel
import Courier.Config.Document
import Courier.Config.Engine

/-!
# Settings as documents

Which fields make up each record of settings, in which order, and which of them have a
default. A record is written with all its fields.
-/

namespace Courier

/-- Reads one of several named variants. -/
def choice? {α : Type} (rules : Dialect) (all : List α) (name : α → String) (d : Document) :
    Option α :=
  d.variant? rules fun s => all.find? (name · == s)

/-- A field of a record that is not negative. -/
def wordField (name : String) (w : UInt64) : String × Document := (name, .integer w.toNat)

namespace Priority

/-- Reads a priority. -/
def ofDocument? (rules : Dialect) : Document → Option Priority := choice? rules all name

end Priority

namespace FullPolicy

/-- Reads a policy for full queues. -/
def ofDocument? (rules : Dialect) : Document → Option FullPolicy := choice? rules all name

end FullPolicy

namespace ShutdownMode

/-- Reads a shutdown mode. -/
def ofDocument? (rules : Dialect) : Document → Option ShutdownMode := choice? rules all name

end ShutdownMode

namespace TransportKind

/-- Reads a kind of transport. -/
def ofDocument? (rules : Dialect) : Document → Option TransportKind := choice? rules all name

end TransportKind

namespace TcpRole

/-- Reads a role. -/
def ofDocument? (rules : Dialect) : Document → Option TcpRole := choice? rules all name

end TcpRole

namespace SocketAddress

/-- Reads an address from its text. -/
def ofDocument? (d : Document) : Option SocketAddress := d.text?.bind ofString?

/-- An address as its text. -/
def toDocument (address : SocketAddress) : Document := .text address.toText

end SocketAddress

namespace QueueConfig

/-- Reads the settings of a queue. -/
def ofDocument? (rules : Dialect) (d : Document) : Option QueueConfig := do
  match ← d.fields? rules ["max_depth", "full_policy"] with
  | [depth, policy] =>
    let depth ← fieldOr Document.word64? 0 depth
    let policy ← fieldOr (FullPolicy.ofDocument? rules) .block policy
    return ⟨depth, policy⟩
  | _ => none

/-- The settings of a queue as a table. -/
def toDocument (c : QueueConfig) : Document :=
  .table [wordField "max_depth" c.maxDepth, ("full_policy", .text c.fullPolicy.name)]

end QueueConfig

namespace WatchdogConfig

/-- Reads the settings of a watchdog. -/
def ofDocument? (rules : Dialect) (d : Document) : Option WatchdogConfig := do
  match ← d.fields? rules ["timeout_ms", "check_interval_ms"] with
  | [timeout, interval] =>
    let timeout ← fieldOr Document.word64? ({} : WatchdogConfig).timeout timeout
    let interval ← fieldOr Document.word64? ({} : WatchdogConfig).checkInterval interval
    return ⟨timeout, interval⟩
  | _ => none

/-- The settings of a watchdog as a table. -/
def toDocument (c : WatchdogConfig) : Document :=
  .table [wordField "timeout_ms" c.timeout, wordField "check_interval_ms" c.checkInterval]

end WatchdogConfig

namespace TcpConfig

/-- Reads the settings of a stream transport; none of them has a default here. -/
def ofDocument? (rules : Dialect) (d : Document) : Option TcpConfig := do
  match ← d.fields? rules ["address", "role", "connect_timeout_ms", "nodelay"] with
  | [address, role, timeout, nodelay] =>
    let address ← field SocketAddress.ofDocument? address
    let role ← field (TcpRole.ofDocument? rules) role
    let timeout ← field Document.word64? timeout
    let nodelay ← field Document.flag? nodelay
    return ⟨address, role, timeout, nodelay⟩
  | _ => none

/-- The settings of a stream transport as a table. -/
def toDocument (c : TcpConfig) : Document :=
  .table [("address", c.address.toDocument), ("role", .text c.role.name),
    wordField "connect_timeout_ms" c.connectTimeout, ("nodelay", .flag c.nodelay)]

end TcpConfig

namespace UdpConfig

/-- Reads a remote address, which may be null. -/
def remote? : Document → Option (Option SocketAddress)
  | .null => some none
  | d => (SocketAddress.ofDocument? d).map some

/-- Reads the settings of a datagram transport; only the remote address may be missing,
and in a list not even that. -/
def ofDocument? (rules : Dialect) (d : Document) : Option UdpConfig := do
  match ← d.fields? rules ["bind_address", "remote_address", "max_datagram_size"] with
  | [address, remote, size] =>
    let address ← field SocketAddress.ofDocument? address
    let remote ← fieldOr remote? none remote
    let size ← field Document.word64? size
    return ⟨address, remote, size⟩
  | _ => none

/-- The settings of a datagram transport as a table. -/
def toDocument (c : UdpConfig) : Document :=
  .table [("bind_address", c.bindAddress.toDocument),
    ("remote_address", (c.remoteAddress.map SocketAddress.toDocument).getD .null),
    wordField "max_datagram_size" c.maxDatagramSize]

end UdpConfig

namespace EngineConfig

/-- The names of the settings of an engine, in order. -/
def fieldNames : List String :=
  ["thread_name", "ack_timeout_ms", "max_retries", "process_interval_ms", "receive_poll_ms",
    "wait_timeout_ms", "send_acks", "dedupe_window", "queue"]

/-- Reads the settings of an engine without checking their values. -/
def ofDocument? (rules : Dialect) (d : Document) : Option EngineConfig := do
  let defaults : EngineConfig := {}
  match ← d.fields? rules fieldNames with
  | [name, ack, retries, interval, poll, wait, acks, window, queue] =>
    let name ← fieldOr Document.text? defaults.threadName name
    let ack ← fieldOr Document.word64? defaults.ackTimeout ack
    let retries ← fieldOr Document.word32? defaults.maxRetries retries
    let interval ← fieldOr Document.word64? defaults.processInterval interval
    let poll ← fieldOr Document.word64? defaults.receivePoll poll
    let wait ← fieldOr Document.word64? defaults.waitTimeout wait
    let acks ← fieldOr Document.flag? defaults.sendAcks acks
    let window ← fieldOr Document.word64? defaults.dedupeWindow window
    let queue ← fieldOr (QueueConfig.ofDocument? rules) defaults.queue queue
    return ⟨name, ack, retries, interval, poll, wait, acks, window, queue⟩
  | _ => none

/-- The settings of an engine as a table. -/
def toDocument (c : EngineConfig) : Document :=
  .table [("thread_name", .text c.threadName), wordField "ack_timeout_ms" c.ackTimeout,
    ("max_retries", .integer c.maxRetries.toNat),
    wordField "process_interval_ms" c.processInterval,
    wordField "receive_poll_ms" c.receivePoll, wordField "wait_timeout_ms" c.waitTimeout,
    ("send_acks", .flag c.sendAcks), wordField "dedupe_window" c.dedupeWindow,
    ("queue", c.queue.toDocument)]

end EngineConfig

end Courier
