import Courier.Delivery.Tracker
import Courier.Link.Carrier
import Courier.Signal

/-!
# The outbound layers

Frames go out through up to three layers over a raw transport. The tracking layer
remembers each frame until it is acknowledged or late. The retry layer keeps a copy of
the frame, listens to the tracker, and sends a late frame again, as it was, until its
retries are used up; only the final outcome of a frame is published by it.
-/

namespace Courier

/-- A copy of a frame that may have to be sent again. -/
structure RetryEntry where
  header : Header
  payload : Bytes
  /-- How often it may still be sent. -/
  remaining : UInt32
deriving DecidableEq, Repr

/-- The retry layer; `κ` names those who listen to it. -/
structure RetryLayer (κ : Type) where
  maxRetries : UInt32
  entries : Std.ExtTreeMap UInt16 RetryEntry := ∅
  /-- Who hears of final outcomes. -/
  status : Signal κ := {}
  /-- The connection with which it listens to the tracker. -/
  subscription : Nat

/-- Who hears of what the tracker publishes. -/
inductive TrackerListener (κ : Type) where
  | retryLayer
  | outside (k : κ)
deriving DecidableEq, Repr

/-- The outbound layers over a raw transport in a state of type `σ`. -/
structure Outbound (σ κ : Type) where
  tracker : Tracker
  /-- Who hears of what the tracker publishes. -/
  status : Signal (TrackerListener κ) := {}
  retry : Option (RetryLayer κ) := none
  medium : σ
  /-- What those outside have heard, in order. -/
  heard : List (κ × DeliveryStatus) := []

/-- The layers at which a frame can be handed in. -/
inductive Layer where
  | raw | tracked | reliable
deriving DecidableEq, Repr

namespace Outbound

variable {σ κ : Type}

/-- Changes the copies of frames, if there is a retry layer. -/
def mapEntries (o : Outbound σ κ)
    (f : Std.ExtTreeMap UInt16 RetryEntry → Std.ExtTreeMap UInt16 RetryEntry) : Outbound σ κ :=
  { o with retry := o.retry.map fun r => { r with entries := f r.entries } }

/-- The copy of the frame with a sequence number. -/
def entry? (o : Outbound σ κ) (seq : UInt16) : Option RetryEntry := do (← o.retry).entries[seq]?

/-- The number of copies that are kept. -/
def held (o : Outbound σ κ) : Nat :=
  match o.retry with
  | some r => r.entries.size
  | none => 0

/-- Lets someone outside hear of a frame. -/
def hear (k : κ) (status : DeliveryStatus) (o : Outbound σ κ) : Outbound σ κ :=
  { o with heard := o.heard ++ [(k, status)] }

/-- What a listener has heard, in order. -/
def heardBy [DecidableEq κ] (o : Outbound σ κ) (k : κ) : List DeliveryStatus :=
  o.heard.filterMap fun (l, status) => if l = k then some status else none

/-- Publishes the final outcome of a frame from the retry layer. -/
def publishFinal (status : DeliveryStatus) (o : Outbound σ κ) : Outbound σ κ :=
  match o.retry with
  | some r => r.status.emit hear status o
  | none => o

/-- Hands a frame to the raw transport. -/
def sendRaw (c : Carrier σ) (header : Header) (payload : Bytes) (o : Outbound σ κ) :
    Except NetworkError Unit × Outbound σ κ :=
  let (result, medium) := c.send header payload o.medium
  (result, { o with medium })

/-- Tracks a frame and sends it at the time `clock`; one that cannot be sent is not
tracked. Acknowledgments are sent without being tracked. -/
def sendTracked (c : Carrier σ) (clock : Time) (header : Header) (payload : Bytes)
    (o : Outbound σ κ) : Except NetworkError Unit × Outbound σ κ :=
  if header.isAck then o.sendRaw c header payload
  else
    let tracked := { o with tracker := o.tracker.add header.seq header.id clock }
    match tracked.sendRaw c header payload with
    | (.ok (), o) => (.ok (), o)
    | (.error e, o) => (.error e, { o with tracker := o.tracker.erase header.seq })

/-- Keeps a copy of a frame and sends it; of one that cannot be sent no copy is kept.
Acknowledgments are sent without a copy. -/
def sendReliable (c : Carrier σ) (clock : Time) (header : Header) (payload : Bytes)
    (o : Outbound σ κ) : Except NetworkError Unit × Outbound σ κ :=
  if header.isAck then o.sendTracked c clock header payload
  else
    let kept := match o.retry with
      | some r =>
        { o with retry := some { r with
            entries := r.entries.insert header.seq ⟨header, payload, r.maxRetries⟩ } }
      | none => o
    match kept.sendTracked c clock header payload with
    | (.ok (), o) => (.ok (), o)
    | (.error e, o) => (.error e, o.mapEntries (·.erase header.seq))

/-- What the retry layer does about a late frame: it sends a copy that may still be sent,
and gives up on one that may not, or that cannot be sent. -/
def retryLate (c : Carrier σ) (clock : Time) (status : DeliveryStatus) (o : Outbound σ κ) :
    Outbound σ κ :=
  match o.entry? status.seq with
  | none => o.publishFinal status
  | some e =>
    if e.remaining = 0 then (o.mapEntries (·.erase status.seq)).publishFinal status
    else
      let o := o.mapEntries (·.insert status.seq { e with remaining := e.remaining - 1 })
      match o.sendTracked c clock e.header e.payload with
      | (.ok (), o) => o
      | (.error _, o) => (o.mapEntries (·.erase e.header.seq)).publishFinal status

/-- What the retry layer does when the tracker has published something. -/
def onStatus (c : Carrier σ) (clock : Time) (status : DeliveryStatus) (o : Outbound σ κ) :
    Outbound σ κ :=
  match status.outcome with
  | .success => (o.mapEntries (·.erase status.seq)).publishFinal status
  | .timeout => o.retryLate c clock status

/-- Publishes what became of a frame in flight. -/
def publish (c : Carrier σ) (clock : Time) (status : DeliveryStatus) (o : Outbound σ κ) :
    Outbound σ κ :=
  o.status.emit (fun listener status o =>
    match listener with
    | .retryLayer => o.onStatus c clock status
    | .outside k => o.hear k status) status o

/-- The tracker as a part of the layers. The frame with a number is published at the clock reading
for this number. -/
def host (c : Carrier σ) (clock : UInt16 → Time) : TrackerHost (Outbound σ κ) where
  get := tracker
  set o t := { o with tracker := t }
  publish status := publish c (clock status.seq) status

/-- Handles an acknowledgment at the time `clock` and says whether it was expected. -/
def acknowledge (c : Carrier σ) (clock : Time) (seq : UInt16) (o : Outbound σ κ) :
    Bool × Outbound σ κ := (host c fun _ => clock).acknowledge seq o

/-- Ends the tracking of the frames that are late at the clock reading `now` and counts
them. The clock goes on meanwhile: the frame with a number, if it is sent again, counts as sent at
the clock reading for this number. -/
def scan (c : Carrier σ) (now : Time) (clock : UInt16 → Time) (o : Outbound σ κ) :
    Nat × Outbound σ κ := (host c clock).scan now o

/-- Puts a retry layer in place, which listens to the tracker. -/
def attachRetry (maxRetries : UInt32) (o : Outbound σ κ) : Outbound σ κ :=
  let (subscription, status) := o.status.connect .retryLayer
  { o with status, retry := some { maxRetries, subscription } }

/-- Takes the retry layer away, with its copies and its connection. -/
def detachRetry (o : Outbound σ κ) : Outbound σ κ :=
  match o.retry with
  | some r => { o with status := (o.status.disconnect r.subscription).2, retry := none }
  | none => o

/-- A layer as a transport of its own. -/
def carrier (c : Carrier σ) (clock : Time) (layer : Layer) : Carrier (Outbound σ κ) where
  kind := c.kind
  isReliable o := layer = .reliable || c.isReliable o.medium
  send := match layer with
    | .raw => sendRaw c
    | .tracked => sendTracked c clock
    | .reliable => sendReliable c clock
  receive o :=
    let (result, medium) := c.receive o.medium
    (result, { o with medium })
  stats o := c.stats o.medium

end Outbound

end Courier
