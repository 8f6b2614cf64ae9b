import Courier.Fifo
import Courier.Link.Carrier

/-!
# Links within a process

Two ends exchange messages without a network. Each end can be told to lose what it sends.
When one end is gone, the other can still take what has arrived but send nothing more.
-/

namespace Courier

/-- The two ends of a link. -/
inductive Side where
  | near | far
deriving DecidableEq, Repr

/-- The other end. -/
def Side.opposite : Side → Side
  | near => far
  | far => near

theorem Side.opposite_opposite (side : Side) : side.opposite.opposite = side := by
  cases side <;> rfl

/-- One end of a link. -/
structure MemoryEnd where
  /-- The messages that have arrived, the oldest first. -/
  inbox : Fifo Bytes := .empty
  /-- How many of the next frames it sends are lost. -/
  dropNext : Nat := 0
  /-- Whether all frames it sends are lost. -/
  dropAll : Bool := false
  stats : TransportStats := {}
  /-- Whether the end still exists. -/
  isOpen : Bool := true
deriving Inhabited

/-- A link of two ends. -/
structure MemoryLink where
  /-- What both ends claim about losses. -/
  reliable : Bool := false
  near : MemoryEnd := {}
  far : MemoryEnd := {}
deriving Inhabited

namespace MemoryLink

/-- The end on a side. -/
def endOn (l : MemoryLink) : Side → MemoryEnd
  | .near => l.near
  | .far => l.far

/-- Changes the end on a side. -/
def update (l : MemoryLink) (side : Side) (f : MemoryEnd → MemoryEnd) : MemoryLink :=
  match side with
  | .near => { l with near := f l.near }
  | .far => { l with far := f l.far }

/-- The failure that the other end is gone. -/
def peerGone : NetworkError := .transport "memory peer disconnected" none

/-- Puts a message into the inbox of the other end as it is. -/
def sendRaw (side : Side) (message : Bytes) (l : MemoryLink) :
    Except NetworkError Unit × MemoryLink :=
  if (l.endOn side.opposite).isOpen then
    let l := l.update side.opposite fun e => { e with inbox := e.inbox.push message }
    (.ok (), l.update side fun e => { e with stats := e.stats.sent message.length })
  else (.error peerGone, l)

/-- Whether an end loses its next frame, and the end after that. Losing everything does
not use up the number of frames to be lost. -/
def MemoryEnd.lose (e : MemoryEnd) : Bool × MemoryEnd :=
  if e.dropAll then (true, { e with stats := e.stats.dropped })
  else if 0 < e.dropNext then
    (true, { e with dropNext := e.dropNext - 1, stats := e.stats.dropped })
  else (false, e)

/-- Sends a frame. One that cannot be written is refused before it could be lost, and a
lost one counts as sent well. -/
def send (side : Side) (header : Header) (payload : Bytes) (l : MemoryLink) :
    Except NetworkError Unit × MemoryLink :=
  match Frame.encode header payload with
  | .error cause => (.error (.protocol cause), l)
  | .ok message =>
    match MemoryEnd.lose (l.endOn side) with
    | (true, e) => (.ok (), l.update side fun _ => e)
    | (false, _) => l.sendRaw side message

/-- Takes the oldest message and reads it as a frame. -/
def receive (side : Side) (l : MemoryLink) : Except NetworkError (Option Frame) × MemoryLink :=
  let e := l.endOn side
  match e.inbox.pop? with
  | some (message, rest) =>
    match Frame.ofBuffer message with
    | .ok frame =>
      (.ok (some frame),
        l.update side fun e => { e with inbox := rest, stats := e.stats.received message.length })
    | .error cause =>
      (.error (.protocol cause),
        l.update side fun e => { e with inbox := rest, stats := e.stats.malformed })
  | none =>
    if (l.endOn side.opposite).isOpen then (.ok none, l)
    else (.error peerGone, l.update side fun e => { e with stats := e.stats.failed })

/-- Lets the next frames of an end get lost, in place of an earlier number. -/
def setDropNext (side : Side) (count : Nat) (l : MemoryLink) : MemoryLink :=
  l.update side fun e => { e with dropNext := count }

/-- Lets all frames of an end get lost, or no longer. -/
def setDropAll (side : Side) (all : Bool) (l : MemoryLink) : MemoryLink :=
  l.update side fun e => { e with dropAll := all }

/-- Removes an end together with what has arrived there. -/
def remove (side : Side) (l : MemoryLink) : MemoryLink :=
  l.update side fun e => { e with isOpen := false, inbox := .empty }

/-- An end of a link as a transport. -/
def carrier (side : Side) : Carrier MemoryLink where
  kind := .memory
  isReliable l := l.reliable
  send := send side
  receive := receive side
  stats l := (l.endOn side).stats

end MemoryLink

end Courier
