import Courier.Engine.Remote
import Courier.Engine.Station
import Courier.Link.Memory
import Courier.Script.Answer
import Courier.Script.Argument
import Courier.Task.Call

/-!
# Engines step by step

An engine stands at the near end of a link. At the far end is a second engine, or a peer
that is worked by hand. After every step everything that is under way is let arrive. The
clock moves only while a caller waits; a scan is told how far ahead it looks.
-/

namespace Courier.Exchange

open Script (Answer ArgumentKind Call)

/-- The two engines; the first one is at the near end. -/
inductive Party where
  | first | second
deriving DecidableEq, Repr

/-- The end at which an engine stands. -/
def Party.side : Party → Side
  | first => .near
  | second => .far

/-- What endpoints act on: the log of calls. -/
abbrev Outside := List Call

/-- Work on an engine's thread besides frames. -/
inductive Job where
  /-- Keeps the thread busy until it is let go. -/
  | hold
  | register (call : Nat) (id : UInt16) (invoker : Invoker Outside)
  /-- Makes a call on the engine's own thread. -/
  | ask (call : Nat) (request : Request)

/-- A link, and whether the engine at its near end has heard that its peer is gone. -/
structure Wire where
  link : MemoryLink
  lossHeard : Bool := false

/-- An engine with its thread. -/
structure Seat where
  station : Station MemoryLink Outside Job
  /-- The number of the link that it is attached to. -/
  wire : Option Nat := none
  /-- Whether its thread is kept busy. -/
  held : Bool := false

/-- The engines and the links. -/
structure World where
  first : Seat
  second : Option Seat := none
  wires : List Wire := []
  clock : Time := 0
  /-- What became of each call onto a thread. -/
  fates : List (Fate Answer) := []

/-- More steps of any loop than a script takes. -/
def patience : Nat := 1000000

namespace World

/-- The seat of a party. -/
def seat? (w : World) : Party → Option Seat
  | .first => some w.first
  | .second => w.second

/-- Changes the seat of a party. -/
def onSeat (w : World) (party : Party) (f : Seat → Seat) : World :=
  match party with
  | .first => { w with first := f w.first }
  | .second => { w with second := w.second.map f }

/-- The link that a party is attached to. -/
def wireOf (w : World) (party : Party) : Option Nat := (w.seat? party).bind (·.wire)

/-- Changes the link that a party is attached to. -/
def onWire (w : World) (party : Party) (f : Wire → Wire) : World :=
  match w.wireOf party with
  | some number => { w with wires := w.wires.modify number f }
  | none => w

/-- The link with a number. -/
def linkAt (w : World) (number : Nat) : MemoryLink := (w.wires[number]?.map (·.link)).getD {}

/-- The transport of a party. -/
def transport (party : Party) : Carrier MemoryLink := MemoryLink.carrier party.side

/-- Lets a station use its link. -/
def onStation {α : Type} (w : World) (party : Party) (fallback : α)
    (f : Station MemoryLink Outside Job → α × Station MemoryLink Outside Job) : α × World :=
  match w.seat? party with
  | none => (fallback, w)
  | some seat =>
    let s := seat.station
    let medium := match seat.wire with
      | some number => w.linkAt number
      | none => s.engine.outbound.medium
    let (a, s) := f { s with
      engine := { s.engine with outbound := { s.engine.outbound with medium } } }
    let w := w.onSeat party fun seat => { seat with station := s }
    (a, w.onWire party fun wire => { wire with link := s.engine.outbound.medium })

/-- Lets an engine use its link. -/
def onEngine {α : Type} (w : World) (party : Party) (fallback : α)
    (f : Engine MemoryLink Outside → α × Engine MemoryLink Outside) : α × World :=
  w.onStation party fallback fun s =>
    let (a, engine) := f s.engine
    (a, { s with engine })

/-- Changes an engine. -/
def mapEngine (w : World) (party : Party)
    (f : Engine MemoryLink Outside → Engine MemoryLink Outside) : World :=
  (w.onEngine party () fun e => ((), f e)).2

/-- Notes what became of a call. -/
def setFate (number : Nat) (fate : Fate Answer) (w : World) : World :=
  { w with fates := w.fates.set number fate }

/-- Takes a number for a call. -/
def newCall (w : World) : Nat × World := (w.fates.length, { w with fates := w.fates ++ [.queued] })

/-- Makes a call. -/
def ask (party : Party) (request : Request) (w : World) : Except NetworkError UInt16 × World :=
  w.onEngine party (.ok 0) (·.ask (transport party) w.clock request)

/-- Runs a task on a thread. -/
def runTask (party : Party) (t : Task (EngineTask Job)) (w : World) : World :=
  match t.work with
  | .handle frame => w.mapEngine party (·.handleFrame (transport party) w.clock frame)
  | .other .hold => w.onSeat party fun seat => { seat with held := true }
  | .other (.register call id invoker) =>
    (w.mapEngine party (·.register id invoker)).setFate call (.returned .done)
  | .other (.ask call request) =>
    let (result, w) := w.ask party { request with onThread := true }
    w.setFate call (.returned (.numbered result))

/-- Notes that tasks were dropped whose callers wait. -/
def drop (tasks : List (Task (EngineTask Job))) (w : World) : World :=
  tasks.foldl (fun w t =>
    match t.work with
    | .other (.register call ..) | .other (.ask call _) => w.setFate call .dropped
    | _ => w) w

/-- Notes what became of a task that had to wait for room. -/
def ended (party : Party) (producer : Producer (EngineTask Job)) (offer : Offer) (w : World) :
    World :=
  match producer.task.work, offer with
  | .handle frame, .refused error => w.mapEngine party (·.dropFrame frame error)
  | _, .refused _ => w.drop [producer.task]
  | _, _ => w

/-- The thread of an engine at work. Its timer scans for late frames. -/
def place (party : Party) : Workplace World (EngineTask Job) Unit where
  worker w := ((w.seat? party).map (·.station.worker)).getD (.new "" {})
  setWorker w worker :=
    w.onSeat party fun seat => { seat with station := { seat.station with worker } }
  clock := clock
  isBusy w := ((w.seat? party).map (·.held)).getD false
  panics _ _ := false
  fire _ w := w.mapEngine party fun e => (e.scan (transport party) w.clock fun _ => w.clock).2
  run := runTask party
  drop := drop
  ended := ended party

/-- Whether the receiving loop of a party has something to find. That the peer is gone is
found once. -/
def canReceive (w : World) (party : Party) : Bool :=
  match w.seat? party, (w.wireOf party).bind (w.wires[·]?) with
  | some seat, some wire =>
    seat.station.isReceiving &&
      (!(wire.link.endOn party.side).inbox.isEmpty ||
        (!(wire.link.endOn party.side.opposite).isOpen && !wire.lossHeard))
  | _, _ => false

/-- Lets a party receive once and do what it then has to do. -/
def receive (party : Party) (w : World) : World :=
  let lost := match (w.wireOf party).bind (w.wires[·]?) with
    | some wire => (wire.link.endOn party.side).inbox.isEmpty
    | none => false
  let w := (w.onStation party () fun s => ((), s.receive (transport party))).2
  let w := if lost then w.onWire party fun wire => { wire with lossHeard := true } else w
  (place party).settle patience w

/-- Lets everything arrive that is under way. -/
def settle : Nat → World → World
  | 0, w => w
  | fuel + 1, w =>
    if w.canReceive .first then settle fuel (w.receive .first)
    else if w.canReceive .second then settle fuel (w.receive .second)
    else w

/-- The parties that take part. -/
def parties (w : World) : List Party :=
  if w.second.isSome then [.first, .second] else [.first]

/-- Lets the threads come to rest and everything arrive. -/
def rest (w : World) : World :=
  settle patience (w.parties.foldl (fun w party => (place party).settle patience w) w)

/-- When something happens next by itself. Every pass of a loop takes some time. -/
def nextEvent (w : World) : Option Time :=
  let wakes := w.parties.filterMap fun party => (place party).wakeTime w
  (wakes.map fun t => if t ≤ w.clock then w.clock + (Duration.ofMillis 1).nanos else t).min?

/-- Lets time go by until a clock reading, or until `enough` holds. -/
def passTime (enough : World → Bool) (limit : Time) : Nat → World → World
  | 0, w => w
  | fuel + 1, w =>
    if enough w then w
    else
      match w.nextEvent with
      | some t =>
        if t ≤ limit then
          let w := { w with clock := t }
          passTime enough limit fuel
            (w.parties.foldl (fun w party => (place party).timeOut w) w).rest
        else { w with clock := limit }
      | none => { w with clock := limit }

/-- Brings a task to a thread. -/
def post (party : Party) (priority : Priority) (job : Job) (w : World) : Offer × World :=
  w.onStation party .full fun s =>
    let (offer, worker) := s.worker.post 0 ⟨priority, .other job⟩
    (offer, { s with worker })

/-- Whether the work of a call has come to an end. -/
def hasEnded (number : Nat) (w : World) : Bool :=
  match w.fates[number]? with
  | some .queued => false
  | _ => true

/-- Runs work on a thread and waits for the result. -/
def call (party : Party) (priority : Priority) (job : Nat → Job) (w : World) :
    Except TaskError Answer × World :=
  let name := (place party).worker w |>.name
  let timeout := EngineConfig.millis
    (((w.seat? party).map (·.station.engine.config.waitTimeout)).getD 0)
  let (number, w) := w.newCall
  match w.post party priority (job number) with
  | (.refused e, w) => (.error e, w)
  | (_, w) =>
    let w := w.rest.passTime (·.hasEnded number) (w.clock + timeout.nanos) patience
    (Call.answer name timeout (w.fates.getD number .queued), w)

end World

/-- The endpoints that a step can register. -/
inductive EndpointKind where
  /-- Logs its argument. -/
  | logging (encoding : Encoding) (kind : ArgumentKind) (label : String)
  /-- Decodes a text and panics. -/
  | panicking
deriving DecidableEq, Repr

/-- The endpoint of a kind. -/
def EndpointKind.invoker : EndpointKind → Invoker Outside
  | logging encoding kind label =>
    .decoding (kind.serializer encoding) fun value calls =>
      (.done, calls ++ [⟨label, ⟨kind, value⟩⟩])
  | panicking => .decoding (Binary.codec .text).serializer fun _ calls => (.panicked, calls)

/-- A step at the exchange. -/
inductive Step where
  /-- Makes a new link and attaches both engines to it. -/
  | link (reliable : Bool)
  | start (by_ : Party)
  | stop (by_ : Party)
  | shutdown (by_ : Party)
  | stopThread (of : Party) (mode : ShutdownMode)
  | register (at_ : Party) (id : UInt16) (kind : EndpointKind)
  | send (by_ : Party) (id : UInt16) (payload : Bytes)
  | remote (by_ : Party) (id : UInt16) (encoding : Encoding)
    (argument : Argument ArgumentKind.Value)
  /-- Sends for a caller that waits; meanwhile a number of scans are made far ahead, and
  then the peer may acknowledge what has arrived. -/
  | sendAndWait (by_ : Party) (id : UInt16) (payload : Bytes) (scans : Nat) (acknowledge : Bool)
  /-- Encodes a text and sends it for a caller that waits. -/
  | remoteWait (by_ : Party) (id : UInt16) (text : String) (scans : Nat) (acknowledge : Bool)
  | waitOnThread (of : Party) (id : UInt16)
  | dropNext (of : Party) (count : Nat)
  | dropAll (of : Party) (enabled : Bool)
  | wireBytes (by_ : Party) (bytes : Bytes)
  | peerBytes (bytes : Bytes)
  | peerSend (id seq : UInt16) (payload : Bytes)
  | peerDrain
  | dropPeer
  | hold (of : Party)
  | release (of : Party)
  | scan (by_ : Party) (ahead : Duration)
  | stats (of : Party)
  | info (of : Party)
  /-- Compares delegates for two endpoints, the second one through the same engine or
  another one. -/
  | compareRemotes (x y : UInt16) (otherEngine : Bool)

namespace World

/-- Takes the frames that have arrived at the peer, up to the first message that is
none. -/
def drainPeer : Nat → MemoryLink → List Frame × MemoryLink
  | 0, l => ([], l)
  | n + 1, l =>
    match l.receive .far with
    | (.ok (some f), l) => let (fs, l) := drainPeer n l; (f :: fs, l)
    | (_, l) => ([], l)

/-- Works the peer at the far end of the first engine's link. -/
def onPeer {α : Type} (w : World) (fallback : α) (f : MemoryLink → α × MemoryLink) : α × World :=
  match w.first.wire with
  | none => (fallback, w)
  | some number =>
    let (a, link) := f (w.linkAt number)
    (a, w.onWire .first fun wire => { wire with link })

/-- Reads what has arrived at the peer and acknowledges it. -/
def acknowledgeAll (w : World) : List Frame × World :=
  w.onPeer [] fun l =>
    let (fs, l) := drainPeer l.far.inbox.size l
    (fs, fs.foldl (fun l f => (l.send .far (.ack f.header.seq) []).2) l)

/-- How far ahead the scans look that are made while a caller waits. -/
def scanAhead : Duration := .ofMillis 7200000

/-- Scans as if time had gone by. -/
def scan (party : Party) (ahead : Duration) (w : World) : Nat × World :=
  w.onEngine party 0 (·.scan (transport party) (w.clock + ahead.nanos) fun _ => w.clock)

/-- Whether the outcome of a frame has come in for its caller. -/
def hasOutcome (party : Party) (seq : UInt16) (w : World) : Bool :=
  match w.seat? party with
  | some seat => (seat.station.engine.waiters.outcome? seq).isSome
  | none => true

/-- Makes a call of a caller that waits, and waits. -/
def askAndWait (party : Party) (id : UInt16) (content : Content) (scans : Nat)
    (acknowledge : Bool) (w : World) : Except NetworkError UInt16 × List Frame × World :=
  let (begun, w) := w.ask party { id, content, waits := true }
  match begun with
  | .error error => (.error error, [], w)
  | .ok seq =>
    let w := (List.range scans).foldl (fun w _ => (w.scan party scanAhead).2.rest) w.rest
    let (acked, w) :=
      if acknowledge && !w.hasOutcome party seq then
        let (fs, w) := w.acknowledgeAll
        (fs, w.rest)
      else ([], w)
    let timeout := ((w.seat? party).map (·.station.engine.config.waitTimeout)).getD 0
    let limit := w.clock + (EngineConfig.millis timeout).nanos
    let w := w.passTime (hasOutcome party seq) limit patience
    let (result, w) := w.onEngine party (.ok 0) (·.giveUp id seq)
    (result, acked, w)

/-- Attaches an engine to its end of a link. -/
def attach (party : Party) (number : Nat) (w : World) : Except NetworkError Unit × World :=
  match w.seat? party with
  | none => (.ok (), w)
  | some seat =>
    match seat.station.engine.attach (transport party) (w.linkAt number) with
    | (.ok (), engine) =>
      (.ok (), w.onSeat party fun seat =>
        { seat with station := { seat.station with engine }, wire := some number })
    | (.error error, _) => (.error error, w)

/-- Stops an engine's thread. -/
def stopThread (party : Party) (mode : ShutdownMode) (w : World) : World :=
  (place party).settle patience ((place party).close mode w)

/-- The order in which the peer lists its frames: by number and endpoint. -/
def frameLe (a b : Frame) : Bool :=
  a.header.seq < b.header.seq || (a.header.seq = b.header.seq && a.header.id ≤ b.header.id)

/-- What a step about an engine's state answers. -/
def info (s : Station MemoryLink Outside Job) : Answer :=
  .fields [("attempts", .number s.engine.attemptsPerSend.toNat), ("thread", .text s.worker.name),
    ("pending", .number s.worker.pending), ("on_thread", .flag false),
    ("ack_timeout_ms", .number s.engine.config.ackTimeout.toNat),
    ("config_name", .text s.engine.config.threadName), ("self_equal", .flag true)]

/-- Takes a step; what it sets going has not arrived yet. -/
def begin_ (w : World) : Step → Answer × World
  | .link reliable =>
    let number := w.wires.length
    let linked : World := { w with wires := w.wires ++ [{ link := { reliable } }] }
    match linked.attach .first number with
    | (.error error, _) => (.failed error, w)
    | (.ok (), w) =>
      let (result, w) := w.attach .second number
      (.sent result, w)
  | .start party =>
    let (result, w) := w.onStation party (.ok ()) (·.start w.clock)
    (.sent result, w)
  | .stop party => (.done, (w.onStation party () fun s => ((), s.stop)).2)
  | .shutdown party =>
    (.done, ((w.onStation party () fun s => ((), s.stop)).2).stopThread party .drain)
  | .stopThread party mode => (.done, w.stopThread party mode)
  | .register party id kind =>
    match Engine.checkEndpoint id with
    | .error error => (.failed error, w)
    | .ok () =>
      match w.call party .high (.register · id kind.invoker) with
      | (.ok answer, w) => (answer, w)
      | (.error error, w) => (.failed (.dispatch error), w)
  | .send party id payload =>
    let (result, w) := w.ask party { id, content := .payload payload }
    (.numbered result, w)
  | .remote party id encoding argument =>
    let (result, w) := w.onEngine party (.ok 0) (·.callRemote (transport party) w.clock
      (argument.kind.serializer encoding) argument.value id)
    (.numbered result, w)
  | .sendAndWait party id payload scans acknowledge =>
    let (result, acked, w) := w.askAndWait party id (.payload payload) scans acknowledge
    (.fields [("result", .numbered result), ("acked", .frames acked)], w)
  | .remoteWait party id text scans acknowledge =>
    let content := .argument ((Binary.codec .text).serializer.encode text)
    let (result, acked, w) := w.askAndWait party id content scans acknowledge
    (.fields [("result", .numbered result), ("acked", .frames acked)], w)
  | .waitOnThread party id =>
    let (result, w) := w.call party .normal
      (.ask · { id, content := .payload [], waits := true })
    (.onThread (fun answer => answer) result, w)
  | .dropNext party count =>
    (.nothing, w.onWire party fun wire =>
      { wire with link := wire.link.setDropNext party.side count })
  | .dropAll party enabled =>
    (.nothing, w.onWire party fun wire =>
      { wire with link := wire.link.setDropAll party.side enabled })
  | .wireBytes party bytes =>
    let (result, w) := w.onStation party (.ok ()) fun s =>
      let (result, medium) := s.engine.outbound.medium.sendRaw party.side bytes
      (result, { s with engine := { s.engine with outbound := { s.engine.outbound with medium } } })
    (.sent result, w)
  | .peerBytes bytes =>
    let (result, w) := w.onPeer (.ok ()) (·.sendRaw .far bytes)
    (.sent result, w)
  | .peerSend id seq payload =>
    match Header.forPayload id seq payload with
    | .error cause => (.failed (.protocol cause), w)
    | .ok header =>
      let (result, w) := w.onPeer (.ok ()) (·.send .far header payload)
      (.sent result, w)
  | .peerDrain =>
    let (fs, w) := w.onPeer [] fun l => drainPeer l.far.inbox.size l
    (.frames (fs.mergeSort frameLe), w)
  | .dropPeer => (.nothing, (w.onPeer () fun l => ((), l.remove .far)).2)
  | .hold party =>
    match w.post party .critical .hold with
    | (.refused e, w) => (.refused e, w)
    | (_, w) => (.text "held", w)
  | .release party => (.nothing, w.onSeat party fun seat => { seat with held := false })
  | .scan party ahead =>
    let (count, w) := w.scan party ahead
    (.number count, w)
  | .stats party =>
    let (stats, w) := w.onEngine party none fun e => (e.stats (transport party), e)
    (.option .stats stats, w)
  | .info party => w.onStation party .nothing fun s => (info s, s)
  | .compareRemotes x y otherEngine =>
    let a : RemoteDelegate Bool := ⟨false, x, "u32"⟩
    let b : RemoteDelegate Bool := ⟨otherEngine, y, "u32"⟩
    (.fields [("equal", .flag (a.same b)),
      ("endpoints", .list [.number a.endpoint.toNat, .number b.endpoint.toNat]),
      ("debug", .text a.describe)], w)

end World

/-- What is seen of an engine after a step. -/
structure Observation where
  calls : List Call
  errors : List ErrorEvent
  status : List DeliveryStatus
  inFlight : Nat
  retryPending : Nat
  running : Bool

/-- What is seen of an engine. -/
def Seat.observe (s : Seat) : Observation :=
  let e := s.station.engine
  ⟨e.outside, e.errors, e.delivered, e.inFlight, e.retryPending, e.running⟩

/-- Forgets what an engine has done so far. -/
def Seat.forget (s : Seat) : Seat :=
  { s with station := { s.station with
    engine := { s.station.engine with outside := [], errors := [], delivered := [] } } }

/-- What is seen after a step. -/
structure View where
  answer : Answer
  first : Observation
  second : Option Observation

/-- Takes steps in order, lets everything arrive, and looks at the engines after each of
them. -/
def run : World → List Step → List View
  | _, [] => []
  | w, step :: rest =>
    let fresh := { w with first := w.first.forget, second := w.second.map Seat.forget }
    let (answer, w) := fresh.begin_ step
    let w := w.rest
    ⟨answer, w.first.observe, w.second.map Seat.observe⟩ :: run w rest

/-- Starts the threads of one engine or two. -/
def World.start (first : EngineConfig) (second : Option EngineConfig) :
    Except NetworkError World := do
  let seat (config : EngineConfig) : Except NetworkError Seat :=
    return { station := ← Station.new config ({} : MemoryLink) [] }
  return ({ first := ← seat first, second := ← second.mapM seat } : World).rest

end Courier.Exchange
