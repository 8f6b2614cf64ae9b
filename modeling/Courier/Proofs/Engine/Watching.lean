import Courier.Proofs.Engine.Deeds

/-!
# Watching changes nothing

What is proved of layers and engines over a watched transport is true of them over the transport
itself: they give the same results, and leave the same state behind once the notes are taken
away.
-/

namespace Courier

namespace Outbound

variable {σ κ : Type} {o : Outbound (Watched σ) κ} {c : Carrier σ} {clock : Time}

/-- The layers over the transport itself. -/
def unwatched (o : Outbound (Watched σ) κ) : Outbound σ κ where
  tracker := o.tracker
  status := o.status
  retry := o.retry
  medium := o.medium.state
  heard := o.heard

/-- Copies are changed alike, watched or not. -/
@[simp] theorem unwatched_mapEntries
    (f : Std.ExtTreeMap UInt16 RetryEntry → Std.ExtTreeMap UInt16 RetryEntry) :
    o.unwatched.mapEntries f = (o.mapEntries f).unwatched := rfl

/-- A final outcome is published alike. -/
@[simp] theorem unwatched_publishFinal (status : DeliveryStatus) :
    o.unwatched.publishFinal status = (o.publishFinal status).unwatched := by
  rcases o with ⟨tracker, signal, _ | r, medium, heard⟩
  · rfl
  · simp only [publishFinal, unwatched, Signal.emit_eq_foldl, foldl_hear]
    rfl

/-- A frame is handed over alike. -/
theorem unwatched_sendRaw (header : Header) (payload : Bytes) :
    o.unwatched.sendRaw c header payload =
      ((o.sendRaw c.watched header payload).1, (o.sendRaw c.watched header payload).2.unwatched) :=
  rfl

/-- A record is made and taken back alike. -/
theorem unwatched_sendTracked (header : Header) (payload : Bytes) :
    o.unwatched.sendTracked c clock header payload =
      ((o.sendTracked c.watched clock header payload).1,
        (o.sendTracked c.watched clock header payload).2.unwatched) := by
  by_cases h : header.isAck
  · simp only [sendTracked, h, if_true]
    exact unwatched_sendRaw header payload
  · have hack : header.isAck = false := by simpa using h
    rw [sendTracked_eq hack, sendTracked_eq hack]
    rfl

/-- A copy is made and taken back alike, watched or not. -/
theorem unwatched_sendReliable (header : Header) (payload : Bytes) :
    o.unwatched.sendReliable c clock header payload =
      ((o.sendReliable c.watched clock header payload).1,
        (o.sendReliable c.watched clock header payload).2.unwatched) := by
  by_cases h : header.isAck
  · simp only [sendReliable, h, if_true]
    exact unwatched_sendTracked header payload
  · have hack : header.isAck = false := by simpa using h
    rw [sendReliable_eq hack, sendReliable_eq hack]
    have hretries : o.unwatched.retries = o.retries := rfl
    simp only [hretries, unwatched_mapEntries, unwatched_sendTracked]
    split <;> rfl

/-- A late frame is sent again, or given up, alike. -/
theorem unwatched_retryLate (status : DeliveryStatus) :
    o.unwatched.retryLate c clock status = (o.retryLate c.watched clock status).unwatched := by
  have hentry : o.unwatched.entry? status.seq = o.entry? status.seq := rfl
  cases he : o.entry? status.seq with
  | none => simp [retryLate, hentry, he]
  | some e =>
    by_cases hpos : e.remaining = 0
    · simp [retryLate, hentry, he, hpos]
    · rw [retryLate_eq he hpos, retryLate_eq (hentry.trans he) hpos]
      simp only [unwatched_mapEntries, unwatched_sendTracked]
      split
      · rfl
      · simp

/-- All that comes of publishing is alike. -/
theorem unwatched_publish (status : DeliveryStatus) :
    o.unwatched.publish c clock status = (o.publish c.watched clock status).unwatched := by
  have hstatus : o.unwatched.status = o.status := rfl
  rw [publish_eq_foldl, publish_eq_foldl, hstatus]
  clear hstatus
  generalize o.status.handlers = handlers
  induction handlers generalizing o with
  | nil => rfl
  | cons handler handlers ih =>
    have hreact : o.unwatched.react c clock status handler =
        (o.react c.watched clock status handler).unwatched := by
      cases handler with
      | outside l => rfl
      | retryLayer =>
        rw [react, react, onStatus, onStatus]
        cases status.outcome with
        | success => simp
        | timeout => exact unwatched_retryLate status
    rw [List.foldl_cons, List.foldl_cons, hreact, ih]

/-- An acknowledgment is handled alike. -/
theorem unwatched_acknowledge (seq : UInt16) :
    o.unwatched.acknowledge c clock seq = ((o.acknowledge c.watched clock seq).1,
      (o.acknowledge c.watched clock seq).2.unwatched) := by
  have htracker : o.unwatched.tracker = o.tracker := rfl
  simp only [acknowledge, TrackerHost.acknowledge, host, Tracker.settle, htracker]
  cases o.tracker.pending[seq]? with
  | none => rfl
  | some record =>
    exact congrArg (Prod.mk true)
      (unwatched_publish (o := { o with tracker := o.tracker.erase seq }) _)

/-- Late frames are expired alike. -/
theorem unwatched_expireAll (clock : UInt16 → Time) (late : List (UInt16 × InFlight)) :
    o.unwatched.expireAll c clock late = (o.expireAll c.watched clock late).unwatched := by
  have hfold (o : Outbound (Watched σ) κ) :
      late.foldl (fun o x => o.publish c (clock x.1) ⟨x.2.endpoint, x.1, .timeout⟩) o.unwatched =
        (late.foldl (fun o x => o.publish c.watched (clock x.1) ⟨x.2.endpoint, x.1, .timeout⟩)
          o).unwatched :=
    List.foldl_hom unwatched fun _ _ => unwatched_publish _
  exact hfold { o with tracker := late.foldl (fun t x => t.erase x.1) o.tracker }

end Outbound

namespace Engine

variable {σ ρ : Type} {e : Engine (Watched σ) ρ} {c : Carrier σ} {clock : Time}

/-- The engine over the transport itself. -/
def unwatched (e : Engine (Watched σ) ρ) : Engine σ ρ where
  config := e.config
  outbound := e.outbound.unwatched
  forwarding := e.forwarding
  dispatcher := e.dispatcher
  registry := e.registry
  duplicates := e.duplicates
  waiters := e.waiters
  running := e.running
  delivered := e.delivered
  errors := e.errors
  outside := e.outside

/-- Every layer does what it does unwatched. -/
theorem unwatched_layers (layer : Layer) (header : Header) (payload : Bytes)
    (o : Outbound (Watched σ) Unit) :
    (layers c clock layer).send header payload o.unwatched =
      (((layers c.watched clock layer).send header payload o).1,
        ((layers c.watched clock layer).send header payload o).2.unwatched) := by
  cases layer with
  | raw => exact Outbound.unwatched_sendRaw header payload
  | tracked => exact Outbound.unwatched_sendTracked header payload
  | reliable => exact Outbound.unwatched_sendReliable header payload

/-- A payload is framed and sent alike. -/
theorem unwatched_sendOn (layer : Layer) (id seq : UInt16) (payload : Bytes)
    (o : Outbound (Watched σ) Unit) :
    Dispatcher.sendOn (layers c clock) layer id seq payload o.unwatched =
      ((Dispatcher.sendOn (layers c.watched clock) layer id seq payload o).1,
        (Dispatcher.sendOn (layers c.watched clock) layer id seq payload o).2.unwatched) := by
  unfold Dispatcher.sendOn
  split
  · rfl
  · cases Header.forPayload id seq payload with
    | error cause => rfl
    | ok header => exact unwatched_layers layer header payload o

/-- A failure is published alike. -/
theorem unwatched_reported {α : Type} (id : UInt16) (result : Except NetworkError α) :
    e.unwatched.reported id result =
      ((e.reported id result).1, (e.reported id result).2.unwatched) := by
  cases result <;> rfl

/-- An endpoint is called alike. -/
theorem unwatched_invoke (frame : Frame) :
    e.unwatched.invoke frame = (e.invoke frame).unwatched := by
  unfold invoke
  dsimp only [unwatched]
  cases e.registry.get? frame.header.id with
  | none => rfl
  | some invoker =>
    dsimp only
    rcases invoker frame.payload e.outside with ⟨_ | _ | _, outside⟩ <;> rfl

/-- The layers are built alike. -/
theorem unwatched_build (maxRetries : UInt32) (o : Outbound (Watched σ) Unit) :
    build c maxRetries o.unwatched =
      let (layer, forwarding, built) := build c.watched maxRetries o
      (layer, forwarding, built.unwatched) := by
  have hreliable : c.watched.isReliable o.medium = c.isReliable o.unwatched.medium := rfl
  unfold build
  rw [hreliable]
  split <;> rfl

/-- A transport is attached as it is attached unwatched. -/
theorem unwatched_attach (medium : Watched σ) :
    e.unwatched.attach c medium.state =
      ((e.attach c.watched medium).1, (e.attach c.watched medium).2.unwatched) := by
  have hrunning : e.unwatched.running = e.running := rfl
  have hbuild : build c e.unwatched.config.maxRetries
      { e.unwatched.outbound with medium := medium.state } = _ :=
    unwatched_build e.config.maxRetries { e.outbound with medium }
  unfold attach
  rw [hrunning, hbuild]
  split
  · rfl
  · rcases build c.watched e.config.maxRetries { e.outbound with medium } with
      ⟨layer, forwarding, built⟩
    rcases e with ⟨_, ⟨_, _, _ | r, _, _⟩, _ | ⟨connection | _⟩, _⟩ <;> rfl

/-- A payload is sent as it is sent unwatched. -/
theorem unwatched_send (id : UInt16) (payload : Bytes) :
    e.unwatched.send c clock id payload =
      ((e.send c.watched clock id payload).1, (e.send c.watched clock id payload).2.unwatched) := by
  have hdispatcher : e.unwatched.dispatcher = e.dispatcher := rfl
  have houtbound : e.unwatched.outbound = e.outbound.unwatched := rfl
  unfold send Dispatcher.dispatch
  rw [hdispatcher, houtbound]
  cases e.dispatcher.layer with
  | none => rfl
  | some layer =>
    dsimp only
    rw [unwatched_sendOn]
    generalize Dispatcher.sendOn (layers c.watched clock) layer id e.dispatcher.draw.1 payload
      e.outbound = sent
    rcases sent with ⟨error | ⟨⟩, outbound⟩ <;> rfl

/-- A payload is sent for a caller that waits as it is sent unwatched. -/
theorem unwatched_beginWait (id : UInt16) (payload : Bytes) :
    e.unwatched.beginWait c clock id payload = ((e.beginWait c.watched clock id payload).1,
      (e.beginWait c.watched clock id payload).2.unwatched) := by
  have hdispatcher : e.unwatched.dispatcher = e.dispatcher := rfl
  have houtbound : e.unwatched.outbound = e.outbound.unwatched := rfl
  unfold beginWait Dispatcher.dispatchWith
  rw [hdispatcher]
  rcases e.dispatcher.draw with ⟨seq, dispatcher⟩
  dsimp only
  rw [houtbound]
  cases dispatcher.layer with
  | none => rfl
  | some layer =>
    dsimp only
    rw [unwatched_sendOn]
    generalize Dispatcher.sendOn (layers c.watched clock) layer id seq payload e.outbound = sent
    rcases sent with ⟨error | ⟨⟩, outbound⟩ <;> rfl

/-- A scan finds late what it finds unwatched, and does the same about it. -/
theorem unwatched_scan (now : Time) (clock : UInt16 → Time) :
    e.unwatched.scan c now clock =
      ((e.scan c.watched now clock).1, (e.scan c.watched now clock).2.unwatched) := by
  have houtbound : e.unwatched.outbound = e.outbound.unwatched := rfl
  have htracker : e.outbound.unwatched.tracker = e.outbound.tracker := rfl
  simp only [scan, Outbound.scan_eq, houtbound, htracker, Outbound.unwatched_expireAll]
  rfl

/-- A frame is acknowledged alike. -/
theorem unwatched_sendAck (header : Header) :
    e.unwatched.sendAck c header = (e.sendAck c.watched header).unwatched := by
  have hcond : (e.unwatched.config.sendAcks && e.unwatched.isInitialized) =
      (e.config.sendAcks && e.isInitialized) := rfl
  unfold sendAck
  rw [hcond]
  split
  · let sent := e.outbound.sendRaw c.watched (.ack header.seq) []
    exact congrArg Prod.snd
      (unwatched_reported (e := { e with outbound := sent.2 }) header.id sent.1)
  · rfl

/-- A frame is handled as it is handled unwatched. -/
theorem unwatched_handleFrame (frame : Frame) :
    e.unwatched.handleFrame c clock frame = (e.handleFrame c.watched clock frame).unwatched := by
  have houtbound : e.unwatched.outbound = e.outbound.unwatched := rfl
  unfold handleFrame
  dsimp only
  split
  · simp only [acknowledge, houtbound, Outbound.unwatched_acknowledge]
    rfl
  · rw [unwatched_sendAck]
    generalize e.sendAck c.watched frame.header = acked
    have hduplicates : acked.unwatched.duplicates = acked.duplicates := rfl
    rw [hduplicates]
    rcases acked.duplicates.check ⟨frame.header.id, frame.header.seq⟩ with ⟨_ | _, duplicates⟩
    · rfl
    · exact unwatched_invoke (e := { acked with duplicates }) frame

end Engine

end Courier
