import Courier.Delivery.Recording
import Courier.Link.Memory
import Courier.Script.Answer

/-!
# Outbound layers step by step

The outbound layers stand over one end of a link; the other end is worked by hand. The
clock stands still at 0, and a scan is told the reading at which it looks at the frames.
-/

namespace Courier.LayerStack

open Script (Answer)

/-- What is worked: the layers over the near end of a link, and a dispatcher. -/
structure Stack where
  outbound : Outbound MemoryLink Listener
  dispatcher : Dispatcher := {}

/-- The near end of the link as a transport. -/
def raw : Carrier MemoryLink := MemoryLink.carrier .near

/-- A layer as a transport. -/
def layer (l : Layer) : Carrier (Outbound MemoryLink Listener) := Outbound.carrier raw 0 l

/-- A step at the layers. -/
inductive Step where
  | dispatch (id : UInt16) (payload : Bytes)
  | dispatchWith (id seq : UInt16) (payload : Bytes)
  /-- Dispatches the same payload several times and answers like the last time. -/
  | repeatDispatch (count : Nat) (id : UInt16) (payload : Bytes)
  | draw
  | drawMany (count : Nat)
  | isAttached
  | attach (target : Layer)
  | send (at_ : Layer) (header : Header) (payload : Bytes)
  | receive (at_ : Layer)
  | dropNext (count : Nat)
  | dropAll (enabled : Bool)
  | rawBytes (bytes : Bytes)
  | peerBytes (bytes : Bytes)
  | peerSend (header : Header) (payload : Bytes)
  | peerReceive
  | peerDrain
  | dropPeer
  | acknowledge (seq : UInt16)
  | cancel (seq : UInt16)
  | isPending (seq : UInt16)
  | scan (at_ : Duration)
  | remaining (seq : UInt16)
  | stats (at_ : Layer)
  | peerStats
  | info (at_ : Layer)
  | dropRetry
deriving DecidableEq, Repr

/-- Whether a payload comes before another one in the order of dictionaries. -/
def bytesLe : Bytes → Bytes → Bool
  | [], _ => true
  | _ :: _, [] => false
  | a :: as, b :: bs => if a = b then bytesLe as bs else a < b

/-- The order in which drained frames are listed: by number, endpoint and payload. -/
def frameLe (a b : Frame) : Bool :=
  if a.header.seq ≠ b.header.seq then a.header.seq < b.header.seq
  else if a.header.id ≠ b.header.id then a.header.id < b.header.id
  else bytesLe a.payload b.payload

/-- Takes all messages that have arrived at a side. -/
def drain (side : Side) : Nat → MemoryLink → List Frame × Nat × MemoryLink
  | 0, l => ([], 0, l)
  | n + 1, l =>
    match l.receive side with
    | (.ok (some f), l) => let (fs, bad, l) := drain side n l; (f :: fs, bad, l)
    | (.error _, l) => let (fs, bad, l) := drain side n l; (fs, bad + 1, l)
    | (.ok none, l) => ([], 0, l)

namespace Stack

/-- Changes the link below the layers. -/
def onLink (s : Stack) (f : MemoryLink → MemoryLink) : Stack :=
  { s with outbound := { s.outbound with medium := f s.outbound.medium } }

/-- Replaces the layers in a pair of an answer and the layers. -/
def put (s : Stack) {α : Type} (answer : α → Answer) (r : α × Outbound MemoryLink Listener) :
    Answer × Stack := (answer r.1, { s with outbound := r.2 })

/-- Replaces the link in a pair of an answer and the link. -/
def putLink (s : Stack) {α : Type} (answer : α → Answer) (r : α × MemoryLink) : Answer × Stack :=
  (answer r.1, s.onLink fun _ => r.2)

/-- Sends under the next number. -/
def dispatch (s : Stack) (id : UInt16) (payload : Bytes) :
    Except NetworkError UInt16 × Stack :=
  let (result, dispatcher, outbound) := s.dispatcher.dispatch layer id payload s.outbound
  (result, ⟨outbound, dispatcher⟩)

/-- Takes a step. -/
def step (s : Stack) : Step → Answer × Stack
  | .dispatch id payload => let (result, s) := s.dispatch id payload; (.numbered result, s)
  | .dispatchWith id seq payload =>
    s.put .sent (s.dispatcher.dispatchWith layer id seq payload s.outbound)
  | .repeatDispatch count id payload =>
    (List.range count).foldl (fun (_, s) _ =>
      let (result, s) := s.dispatch id payload
      (.numbered result, s)) (.nothing, s)
  | .draw =>
    let (seq, dispatcher) := s.dispatcher.draw
    (.number seq.toNat, { s with dispatcher })
  | .drawMany count =>
    let (last, sequence) := s.dispatcher.sequence.drawMany none count
    (.option (fun seq => .number seq.toNat) last,
      { s with dispatcher := { s.dispatcher with sequence } })
  | .isAttached => (.flag s.dispatcher.layer.isSome, s)
  | .attach target =>
    (.nothing, { s with dispatcher := { s.dispatcher with layer := some target } })
  | .send at_ header payload => s.put .sent ((layer at_).send header payload s.outbound)
  | .receive at_ => s.put .received ((layer at_).receive s.outbound)
  | .dropNext count => (.nothing, s.onLink (MemoryLink.setDropNext .near count))
  | .dropAll enabled => (.nothing, s.onLink (MemoryLink.setDropAll .near enabled))
  | .rawBytes bytes => s.putLink .sent (s.outbound.medium.sendRaw .near bytes)
  | .peerBytes bytes => s.putLink .sent (s.outbound.medium.sendRaw .far bytes)
  | .peerSend header payload => s.putLink .sent (s.outbound.medium.send .far header payload)
  | .peerReceive => s.putLink .received (s.outbound.medium.receive .far)
  | .peerDrain =>
    let (fs, bad, l) := drain .far s.outbound.medium.far.inbox.size s.outbound.medium
    (.fields [("frames", .frames (fs.mergeSort frameLe)), ("malformed", .number bad)],
      s.onLink fun _ => l)
  | .dropPeer => (.nothing, s.onLink (MemoryLink.remove .far))
  | .acknowledge seq => s.put .flag (s.outbound.acknowledge raw 0 seq)
  | .cancel seq =>
    let (found, tracker) := s.outbound.tracker.cancel seq
    (.flag found, { s with outbound := { s.outbound with tracker } })
  | .isPending seq => (.flag (s.outbound.tracker.isPending seq), s)
  | .scan at_ => s.put (fun n : Nat => .number n) (s.outbound.scan raw at_.nanos fun _ => 0)
  | .remaining seq =>
    match s.outbound.entry? seq with
    | some e => (.number e.remaining.toNat, s)
    | none => (.nothing, s)
  | .stats at_ => (.stats ((layer at_).stats s.outbound), s)
  | .peerStats => (.stats s.outbound.medium.far.stats, s)
  | .info at_ =>
    let retries := match s.outbound.retry with
      | some r => r.maxRetries.toNat
      | none => 0
    (.fields [("type", .text "memory"), ("reliable", .flag ((layer at_).isReliable s.outbound)),
      ("max_retries", .number retries), ("same_monitor", .flag true),
      ("same_retry", .flag true)], s)
  | .dropRetry => (.nothing, ⟨s.outbound.detachRetry, {}⟩)

end Stack

/-- What is seen after a step. -/
structure View where
  answer : Answer
  /-- What the tracker has published. -/
  everything : List DeliveryStatus
  /-- What the retry layer has published. -/
  outcomes : List DeliveryStatus
  inFlight : Nat
  /-- The number of copies, if there is a retry layer. -/
  held : Option Nat
  subscribers : Nat

/-- Takes steps in order and looks at the layers after each of them. -/
def run : Stack → List Step → List View
  | _, [] => []
  | s, step :: rest =>
    let (answer, s) := { s with outbound := { s.outbound with heard := [] } }.step step
    let o := s.outbound
    ⟨answer, o.heardBy .everything, o.heardBy .outcomes, o.tracker.pending.size,
      o.retry.map (·.entries.size), o.status.size⟩ :: run s rest

end Courier.LayerStack
