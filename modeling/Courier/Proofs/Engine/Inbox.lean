import Courier.Proofs.Delivery.Sending
import Courier.Proofs.Engine.Handling
import Courier.Proofs.Engine.Joint
import Courier.Proofs.Engine.Reattaching
import Courier.Proofs.Link.Conservation

/-!
# An engine and the messages that a peer pushes

An engine with its thread stands at one end of a link within the process, and its peer puts messages
into the link, whatever they are, while the receiving loop and the thread take turns in any way. A
history of what happens says what is to be acknowledged and reported, and the engine is shown to do
that with everything that happens.
-/

namespace Courier

namespace MemoryLink

variable {l l' l'' : MemoryLink} {side : Side}

/-- What an end that only sends leaves as it is. -/
structure Leaves (side : Side) (l l' : MemoryLink) : Prop where
  arrived : l'.arrived side = l.arrived side
  framesReceived : (l'.endOn side).stats.framesReceived = (l.endOn side).stats.framesReceived
  protocolErrors : (l'.endOn side).stats.protocolErrors = (l.endOn side).stats.protocolErrors

/-- An end that does nothing leaves everything as it is. -/
theorem Leaves.refl : Leaves side l l := ⟨rfl, rfl, rfl⟩

/-- What is left alone twice in a row is left alone. -/
theorem Leaves.trans (h : Leaves side l l') (h' : Leaves side l' l'') : Leaves side l l'' :=
  ⟨h'.arrived.trans h.arrived, h'.framesReceived.trans h.framesReceived,
    h'.protocolErrors.trans h.protocolErrors⟩

/-- Sending leaves what was received as it is. -/
theorem leaves_send (l : MemoryLink) (side : Side) (header : Header) (payload : Bytes) :
    Leaves side l (l.send side header payload).2 := by
  obtain ⟨queued, hchanges⟩ := changes_send l side header payload
  obtain ⟨taken, harrived, hanswer⟩ := hchanges.taken rfl
  obtain rfl : taken = [] := List.map_eq_nil_iff.mp hanswer.symm
  exact ⟨harrived.symm, hchanges.framesReceived, hchanges.protocolErrors⟩

/-- An acknowledgment is refused only because the peer is gone. -/
theorem refusals_send_ack (l : MemoryLink) (side : Side) (id seq : UInt16) :
    Engine.refusals id (l.send side (.ack seq) []).1 =
      if (l.send side (.ack seq) []).1.isOk then [] else [.ofError id peerGone] := by
  have hencode : Frame.encode (.ack seq) [] = .ok (Header.ack seq).encode :=
    (⟨rfl, rfl⟩ : Frame.Whole ⟨.ack seq, []⟩).encode_eq
  by_cases hloses : (MemoryEnd.demand (l.endOn side)).Loses
  · rw [send_of_loses hencode hloses]
    rfl
  · rw [send_of_not_loses hencode hloses, sendRaw]
    split <;> rfl

end MemoryLink

namespace Engine

variable {σ ρ : Type} {e e' : Engine (Watched σ) ρ} {c : Carrier σ} {d : Deed}
  {P : Watched σ → Prop} {now clock : Time}

/-- A new engine is connected to its layers, which hold nothing. -/
theorem Fresh.attached {config : EngineConfig} {medium : Watched σ} {outside : ρ}
    (h : e.Fresh config medium outside) : e.Attached := by
  refine ⟨⟨?_, ?_⟩, h.wired.layer⟩
  · have hplain := h.wired.plain
    generalize e.outbound.setup = w at hplain
    cases hplain <;> simp [Setup.Tells]
  · intro seq copy hcopy
    have hnone : e.outbound.entry? seq = none := by
      cases hr : e.outbound.retry with
      | none => simp [Outbound.entry?, hr]
      | some r => simp [Outbound.entry?, hr, h.copies r hr]
    cases hnone.symm.trans hcopy

/-- An engine stays connected to its layers, whatever it does. -/
theorem Does.wired (hdoes : Does c e d e') (h : e.Attached) (hwired : e.Wired) : e'.Wired := by
  obtain ⟨hbare, hforwarding⟩ := hdoes.bare_eq h
  refine ⟨?_, (hdoes.attached h).layer, hdoes.heard_eq h hwired.heard, ?_⟩
  · rw [Outbound.setup_of_bare_eq hbare]
    exact hwired.plain
  · rw [isInitialized, hforwarding]
    exact hwired.initialized

/-- A transport that keeps to a promise does so below all the layers. -/
theorem Attached.rests (h : e.Attached) (hmedium : P e.outbound.medium) : e.outbound.Rests P :=
  ⟨hmedium, fun seq copy hcopy => (h.ready.proper seq copy hcopy).2⟩

/-- Bytes that are no frame are reported. -/
theorem receive_of_malformed {σ : Type} {e : Engine σ ρ} {c : Carrier σ} {medium : σ}
    {cause : FrameError} (h : c.receive e.outbound.medium = (.error (.protocol cause), medium)) :
    e.receive c = (none, (e.lend medium).publishError ⟨0, .protocol, cause.message⟩) := by
  rw [receive, h]
  rfl

/-- A transport that fails is reported. -/
theorem receive_of_failure {σ : Type} {e : Engine σ ρ} {c : Carrier σ} {medium : σ} {text : String}
    {source : Option String}
    (h : c.receive e.outbound.medium = (.error (.transport text source), medium)) :
    e.receive c = (none, (e.lend medium).publishError (.ofError 0 (.transport text source))) := by
  rw [receive, h]
  rfl

/-- What the transport keeps when it is handed frames for endpoints is kept when a payload is
sent. -/
theorem Does.medium_of_send {id seq : UInt16} {payload : Bytes}
    (hdoes : Does c e (.send clock id seq payload) e') (h : e.Attached)
    (hkeeps : c.watched.Keeps P) (hmedium : P e.outbound.medium) : P e'.outbound.medium := by
  cases hdoes.comes h with
  | @sent _ _ _ layer _ _ hlayer =>
    rcases h.sendOn_cases hlayer c clock id e.dispatcher.sequence.upcoming payload with
      ⟨error, hrefused⟩ | ⟨header, -, -, hack, hsent⟩
    · simp only [Engine.sentOn, hrefused]
      exact hmedium
    · simp only [Engine.sentOn, hsent]
      exact ((h.rests hmedium).sendReliable hkeeps hack payload).medium

/-- What the transport keeps when it is handed frames for endpoints is kept when frames are found
late. -/
theorem Attached.medium_scan {clock : UInt16 → Time} (h : e.Attached) (hkeeps : c.watched.Keeps P)
    (hmedium : P e.outbound.medium) : P (e.scan c.watched now clock).2.outbound.medium := by
  rw [scan_eq]
  exact ((h.rests hmedium).expireAll hkeeps _ _).medium

end Engine

/-- An engine with its thread at one end of a link, where what it hands to the link is written down,
and the clock. -/
structure Intake (ρ χ : Type) where
  station : Station (Watched MemoryLink) ρ χ
  clock : Time

namespace Intake

/-- What happens at either end of the link. -/
inductive Event where
  | tick
  /-- The peer does something, and these messages are put into the link. -/
  | peer (pushed : List Bytes)
  /-- The end of the engine is told to lose some of what it sends. -/
  | told
  /-- Somebody calls the engine, to send or to wait, and this is reported. -/
  | called (reports : List ErrorEvent)
  /-- The receiving loop takes a message. -/
  | took (message : Bytes)
  /-- The receiving loop finds nothing, and perhaps that the peer is gone. -/
  | idled (isGone : Bool)
  /-- A frame is handled on the thread; the link does or does not take an acknowledgment then. -/
  | handled (frame : Frame) (taken : Bool)
  /-- Something else happens on the thread. -/
  | worked

/-- The messages that are put into the link. -/
def Event.pushed : Event → List Bytes
  | .peer pushed => pushed
  | _ => []

/-- The message that is taken from the link. -/
def Event.message? : Event → Option Bytes
  | .took message => some message
  | _ => none

/-- The frame that is handled, and whether an acknowledgment is taken. -/
def Event.handled? : Event → Option (Frame × Bool)
  | .handled frame taken => some (frame, taken)
  | _ => none

/-- Whether an event comes from the engine itself. -/
def Event.isOwn : Event → Bool
  | .took _ | .idled _ | .handled .. | .worked => true
  | _ => false

/-- The messages that the peer has put into the link, in order. -/
def pushed (events : List Event) : List Bytes := events.flatMap (·.pushed)

/-- The messages that the receiving loop has taken, in order. -/
def received (events : List Event) : List Bytes := events.filterMap (·.message?)

/-- The frames that were handled, in order. -/
def handled (events : List Event) : List (Frame × Bool) := events.filterMap (·.handled?)

/-- The frames for endpoints that were handled, in order. -/
def served (events : List Event) : List (Frame × Bool) :=
  (handled events).filter (!·.1.header.isAck)

/-- The frames for endpoints that were handled, without what became of their acknowledgments. -/
def frames (events : List Event) : List Frame := (served events).map (·.1)

/-- The messages that are frames. -/
def decoded (messages : List Bytes) : List Frame :=
  messages.filterMap fun message => (Frame.decode message).toOption

section

variable {σ ρ : Type}

/-- The acknowledgments that are to be handed to the transport for frames for endpoints. -/
def acksFor (start : Engine σ ρ) (served : List (Frame × Bool)) : List Transmission :=
  if start.config.sendAcks then served.map fun (f, taken) => ⟨.ack f.header.seq, [], taken⟩ else []

/-- What is to be reported of an event after others. -/
def Event.reports (start : Engine σ ρ) (before : List Event) : Event → List ErrorEvent
  | .called reports => reports
  | .took message =>
    match Frame.decode message with
    | .error cause => [⟨0, .protocol, cause.message⟩]
    | .ok _ => []
  | .idled isGone => if isGone then [.ofError 0 MemoryLink.peerGone] else []
  | .handled f taken =>
    if f.header.isAck then []
    else
      (if start.config.sendAcks && !taken
        then [.ofError f.header.id MemoryLink.peerGone] else []) ++
        start.complaints (frames before) f
  | _ => []

/-- What is to be reported of events in turn, after others. -/
def reports (start : Engine σ ρ) (before : List Event) : List Event → List ErrorEvent
  | [] => []
  | event :: events => event.reports start before ++ reports start (before ++ [event]) events

end

variable {ρ χ : Type}

/-- The link. -/
def link (x : Intake ρ χ) : MemoryLink := x.station.engine.outbound.medium.state

/-- The acknowledgments that the engine has handed to the link, in order. -/
def acks (e : Engine (Watched MemoryLink) ρ) : List Transmission :=
  e.outbound.medium.handed.filter (·.header.isAck)

/-- Changes the link. -/
def putLink (link : MemoryLink) (x : Intake ρ χ) : Intake ρ χ :=
  { x with station := x.station.lend { x.station.engine.outbound.medium with state := link } }

/-- The engine publishes an error event. -/
def publish (event : ErrorEvent) (x : Intake ρ χ) : Intake ρ χ :=
  { x with station := { x.station with engine := x.station.engine.publishError event } }

/-- A frame is brought to the thread. -/
def post (f : Frame) (x : Intake ρ χ) : Intake ρ χ :=
  { x with station := { x.station with
    worker := (x.station.worker.post 0 ⟨.normal, .handle f⟩).2 } }

/-- The receiving loop asks the link for a frame. -/
def receive (side : Side) (x : Intake ρ χ) : Intake ρ χ :=
  { x with station := x.station.receive (MemoryLink.carrier side).watched }

/-- What the receiving loop is going to find. -/
def finding (side : Side) (x : Intake ρ χ) : Event :=
  match x.link.arrived side with
  | message :: _ => .took message
  | [] => .idled (!(x.link.endOn side.opposite).isOpen)

/-- What something that happens on the thread means for the engine. -/
def meaning (side : Side) (i : Worker.Incident (EngineTask χ) Unit) (x : Intake ρ χ) : Event :=
  match i.frame? with
  | some f => .handled f (x.link.send side (.ack f.header.seq) []).1.isOk
  | none => .worked

/-- How an engine at one end of a link and its peer go on. The peer does what it likes until it is
gone. The receiving loop does not have to wait for room on the thread, which refuses no frame. -/
inductive Step (side : Side) (x : Intake ρ χ) : Event → Intake ρ χ → Prop
  | tick {clock : Time} : x.clock ≤ clock → Step side x .tick { x with clock }
  | peer {event : MemoryLink.Event} {link : MemoryLink} {pushed : List Bytes} :
      (x.link.endOn side.opposite).isOpen = true → x.link.Performs side.opposite event link →
      link.arrived side = x.link.arrived side ++ pushed →
      Step side x (.peer pushed) (x.putLink link)
  | told {next : Nat} {all : Bool} :
      Step side x .told (x.putLink ((x.link.setDropNext side next).setDropAll side all))
  | sent {id seq : UInt16} {payload : Bytes} {engine : Engine (Watched MemoryLink) ρ}
      {reports : List ErrorEvent} :
      Engine.Does (MemoryLink.carrier side) x.station.engine (.send x.clock id seq payload) engine →
      engine.errors = x.station.engine.errors ++ reports →
      Step side x (.called reports) { x with station := { x.station with engine } }
  | waited {waiters : Waiters} {reports : List ErrorEvent} :
      Step side x (.called reports) { x with station := { x.station with
        engine := { x.station.engine with
          waiters, errors := x.station.engine.errors ++ reports } } }
  | received : x.station.Free → x.station.Willing →
      Step side x (x.finding side) (x.receive side)
  | worked {i : Worker.Incident (EngineTask χ) Unit} {worker : Worker (EngineTask χ) Unit} :
      x.station.worker.Performs x.clock i worker → i.IsOrdinary →
      Step side x (x.meaning side i)
        { x with station := x.station.work (MemoryLink.carrier side).watched x.clock i worker }

/-- What has happened since a start. -/
inductive Run (side : Side) (start : Intake ρ χ) : List Event → Intake ρ χ → Prop
  | start : Run side start [] start
  | step {events : List Event} {event : Event} {x x' : Intake ρ χ} : Run side start events x →
      Step side x event x' → Run side start (events ++ [event]) x'

variable {side : Side} {x x' : Intake ρ χ} {events : List Event} {event : Event}
  {start e e' : Engine (Watched MemoryLink) ρ}

/-- The link that is put there is there. -/
@[simp] theorem link_putLink (l : MemoryLink) (x : Intake ρ χ) : (x.putLink l).link = l := rfl

/-- Publishing does not touch the link. -/
@[simp] theorem link_publish (event : ErrorEvent) (x : Intake ρ χ) :
    (x.publish event).link = x.link := rfl

/-- Posting a frame does not touch it either. -/
@[simp] theorem link_post (f : Frame) (x : Intake ρ χ) : (x.post f).link = x.link := rfl

/-! ## Histories grow -/

/-- A new event adds the messages that it brings. -/
theorem pushed_concat : pushed (events ++ [event]) = pushed events ++ event.pushed := by
  simp [pushed]

/-- A new event adds the message that it takes. -/
theorem received_concat :
    received (events ++ [event]) = received events ++ event.message?.toList := by
  cases h : event.message? <;> simp [received, h]

/-- A new event adds the frame that it handles. -/
theorem handled_concat :
    handled (events ++ [event]) = handled events ++ event.handled?.toList := by
  cases h : event.handled? <;> simp [handled, h]

/-- A new event adds the frame that it serves, which is no acknowledgment. -/
theorem served_concat : served (events ++ [event]) =
    served events ++ event.handled?.toList.filter (!·.1.header.isAck) := by
  rw [served, handled_concat, List.filter_append]
  rfl

/-- A new event adds the frame that it serves, whatever became of the acknowledgment. -/
theorem frames_concat : frames (events ++ [event]) =
    frames events ++ (event.handled?.toList.filter (!·.1.header.isAck)).map (·.1) := by
  rw [frames, served_concat, List.map_append]
  rfl

/-- A new event adds what it reports, which depends on the events before. -/
theorem reports_concat (before : List Event) : reports start before (events ++ [event]) =
    reports start before events ++ event.reports start (before ++ events) := by
  induction events generalizing before with
  | nil => simp [reports]
  | cons first events ih =>
    rw [List.cons_append, reports, ih, reports, List.append_assoc, List.append_assoc]
    rfl

/-- Messages are decoded one by one. -/
theorem decoded_append (first second : List Bytes) :
    decoded (first ++ second) = decoded first ++ decoded second := List.filterMap_append

/-! ## What is done about the frames -/

/-- What an engine has done when it has handled the frames of a history. -/
structure Answers (start : Engine (Watched MemoryLink) ρ) (events : List Event)
    (e : Engine (Watched MemoryLink) ρ) : Prop where
  attached : e.Attached
  wired : e.Wired
  kept : Engine.Kept start (frames events) e
  errors : e.errors = start.errors ++ reports start [] events
  acks : acks e = acksFor start (served events)

/-- What is no handling of a frame adds at most to what is reported. -/
theorem Answers.aside (h : Answers start events e) (hattached : e'.Attached) (hwired : e'.Wired)
    (hkept : Engine.Kept start (frames events) e')
    (herrors : e'.errors = e.errors ++ event.reports start events)
    (hacks : Intake.acks e' = Intake.acks e) (hnone : event.handled? = none) :
    Answers start (events ++ [event]) e' where
  attached := hattached
  wired := hwired
  kept := by
    rw [frames_concat, hnone]
    simpa using hkept
  errors := by
    rw [herrors, h.errors, reports_concat, List.append_assoc]
    rfl
  acks := by
    rw [hacks, h.acks, served_concat, hnone]
    simp

/-- What happens elsewhere may be reported, and change the link. -/
theorem Answers.elsewhere {waiters : Waiters} {errors : List ErrorEvent} {state : MemoryLink}
    (h : Answers start events e) (herrors : errors = e.errors ++ event.reports start events)
    (hnone : event.handled? = none) :
    Answers start (events ++ [event]) { e with
      outbound := { e.outbound with medium := { e.outbound.medium with state } }
      waiters, errors } := by
  have hdoes : Engine.Does (MemoryLink.carrier .near) e .aside { e with
      outbound := { e.outbound with medium := { e.outbound.medium with state } }
      waiters, errors } := .aside
  exact h.aside (hdoes.attached h.attached) (hdoes.wired h.attached h.wired)
    (h.kept.congr rfl rfl rfl rfl) herrors rfl hnone

/-- The link and the acknowledgments after frames for endpoints were sent from a side. -/
structure Sends (side : Side) (m m' : Watched MemoryLink) : Prop where
  leaves : MemoryLink.Leaves side m.state m'.state
  acks : m'.handed.filter (·.header.isAck) = m.handed.filter (·.header.isAck)

/-- An end that does nothing has only sent. -/
theorem Sends.refl {m : Watched MemoryLink} : Sends side m m := ⟨.refl, rfl⟩

/-- Whatever the layers hand to an end, the end only sends. -/
theorem keeps_sends (side : Side) (m : Watched MemoryLink) :
    (MemoryLink.carrier side).watched.Keeps (Sends side m) := by
  intro header payload m' hack h
  refine ⟨h.leaves.trans (MemoryLink.leaves_send m'.state side header payload), ?_⟩
  have hnone (taken : Bool) : (m'.handed ++ [Transmission.mk header payload taken]).filter
      (·.header.isAck) = m'.handed.filter (·.header.isAck) := by
    rw [List.filter_append, List.filter_cons_of_neg (by simpa using hack), List.filter_nil,
      List.append_nil]
  exact (hnone _).trans h.acks

/-- A payload is sent, and what this reports is noted. -/
theorem Answers.sent {clock : Time} {id seq : UInt16} {payload : Bytes} {reported : List ErrorEvent}
    (h : Answers start events e)
    (hdoes : Engine.Does (MemoryLink.carrier side) e (.send clock id seq payload) e')
    (herrors : e'.errors = e.errors ++ reported) :
    Answers start (events ++ [.called reported]) e' ∧
      MemoryLink.Leaves side e.outbound.medium.state e'.outbound.medium.state := by
  have hsends : Sends side e.outbound.medium e'.outbound.medium :=
    hdoes.medium_of_send h.attached (keeps_sends side _) .refl
  refine ⟨h.aside (hdoes.attached h.attached) (hdoes.wired h.attached h.wired) ?_ herrors
    hsends.acks rfl, hsends.leaves⟩
  cases hdoes.comes h.attached with
  | sent => exact h.kept.congr rfl rfl rfl rfl

/-- A scan reports nothing. -/
theorem Answers.scan {now : Time} {clock : UInt16 → Time} (h : Answers start events e) :
    Answers start (events ++ [.worked]) (e.scan (MemoryLink.carrier side).watched now clock).2 ∧
      MemoryLink.Leaves side e.outbound.medium.state
        (e.scan (MemoryLink.carrier side).watched now clock).2.outbound.medium.state := by
  have hsends : Sends side e.outbound.medium
      (e.scan (MemoryLink.carrier side).watched now clock).2.outbound.medium :=
    h.attached.medium_scan (keeps_sends side _) .refl
  have hdoes : Engine.Does (MemoryLink.carrier side) e (.scan now clock)
      (e.scan (MemoryLink.carrier side).watched now clock).2 := by
    rw [Engine.scan_eq]
    exact .scan (List.Perm.refl _)
  exact ⟨h.aside (hdoes.attached h.attached) (hdoes.wired h.attached h.wired)
    (h.kept.congr rfl rfl rfl rfl) (List.append_nil _).symm hsends.acks rfl, hsends.leaves⟩

/-- The engine after an acknowledgment has lost the record and the copy of a frame. -/
theorem Answers.acknowledge {f : Frame} (h : Answers start events e) (side : Side) (clock : Time)
    (taken : Bool) (hack : f.header.isAck = true) :
    Answers start (events ++ [.handled f taken])
        (e.handleFrame (MemoryLink.carrier side).watched clock f) ∧
      (e.handleFrame (MemoryLink.carrier side).watched clock f).outbound.medium =
        e.outbound.medium := by
  have hdoes : Engine.Does (MemoryLink.carrier side) e (.handle clock f)
    (e.handleFrame (MemoryLink.carrier side).watched clock f) := .handle
  have hattached := hdoes.attached h.attached
  have hwired := hdoes.wired h.attached h.wired
  have hmedium : (e.handleFrame (MemoryLink.carrier side).watched clock f).outbound.medium =
      e.outbound.medium := by
    rw [Engine.handleFrame, if_pos hack]
    cases hrecord : e.outbound.tracker.pending[f.header.seq]? with
    | none => rw [Engine.acknowledge_of_untracked h.wired.heard hrecord]
    | some record =>
      rw [h.wired.acknowledge_eq hrecord]
      rfl
  have hserved : served (events ++ [.handled f taken]) = served events := by
    simp [served_concat, Event.handled?, hack]
  have hframes : frames (events ++ [.handled f taken]) = frames events :=
    congrArg (List.map Prod.fst) hserved
  have hreports : (Event.handled f taken).reports start events = [] := if_pos hack
  refine ⟨⟨hattached, hwired, ?_, ?_, ?_⟩, hmedium⟩
  · rw [hframes, Engine.handleFrame, if_pos hack]
    exact h.kept.congr rfl rfl rfl rfl
  · rw [reports_concat, List.nil_append, hreports, List.append_nil, ← h.errors,
      Engine.handleFrame, if_pos hack]
    rfl
  · rw [hserved, ← h.acks, Intake.acks, hmedium]
    rfl

/-- What acknowledging a frame over the link adds to what was handed over and reported. -/
structure Acks (side : Side) (header : Header) (taken : Bool)
    (e e' : Engine (Watched MemoryLink) ρ) : Prop where
  acks : acks e' = acks e ++
    if e.config.sendAcks then [⟨.ack header.seq, [], taken⟩] else []
  errors : e'.errors = e.errors ++
    if e.config.sendAcks && !taken then [.ofError header.id MemoryLink.peerGone] else []
  leaves : MemoryLink.Leaves side e.outbound.medium.state e'.outbound.medium.state

/-- Once a transport is attached, an acknowledgment is taken or refused as the link says. -/
theorem acks_sendAck (side : Side) (header : Header) (hinit : e.isInitialized = true) :
    Acks side header (e.outbound.medium.state.send side (.ack header.seq) []).1.isOk e
      (e.sendAck (MemoryLink.carrier side).watched header) := by
  cases hacks : e.config.sendAcks with
  | false =>
    rw [Engine.sendAck_of_silent header hacks]
    refine ⟨?_, ?_, .refl⟩
    · simp [hacks]
    · simp [hacks]
  | true =>
    have hleaves := MemoryLink.leaves_send e.outbound.medium.state side (.ack header.seq) []
    have hrefusals :=
      MemoryLink.refusals_send_ack e.outbound.medium.state side header.id header.seq
    rw [Engine.sendAck_of_acknowledges header hacks hinit]
    refine ⟨?_, ?_, hleaves⟩
    · rw [hacks, if_pos rfl]
      exact List.filter_append ..
    · rw [hacks, Bool.true_and]
      refine congrArg (e.errors ++ ·) (hrefusals.trans ?_)
      cases (e.outbound.medium.state.send side (.ack header.seq) []).1.isOk <;> rfl

/-- A frame for an endpoint is acknowledged if frames are, and then what there is to report is
reported. -/
theorem Answers.serve {clock : Time} {f : Frame} (h : Answers start events e)
    (hack : f.header.isAck = false) :
    Answers start
        (events ++ [.handled f (e.outbound.medium.state.send side (.ack f.header.seq) []).1.isOk])
        (e.handleFrame (MemoryLink.carrier side).watched clock f) ∧
      MemoryLink.Leaves side e.outbound.medium.state
        (e.handleFrame (MemoryLink.carrier side).watched clock f).outbound.medium.state := by
  have hdoes : Engine.Does (MemoryLink.carrier side) e (.handle clock f)
    (e.handleFrame (MemoryLink.carrier side).watched clock f) := .handle
  have hattached := hdoes.attached h.attached
  have hwired := hdoes.wired h.attached h.wired
  have hacks := acks_sendAck side f.header h.wired.initialized
  obtain ⟨duplicates, hbrought, hkept⟩ :=
    h.kept.handleFrame (MemoryLink.carrier side).watched clock hack
  rw [hbrought] at hattached hwired hkept ⊢
  generalize (e.outbound.medium.state.send side (.ack f.header.seq) []).1.isOk = taken at hacks ⊢
  have hframes : frames (events ++ [.handled f taken]) = frames events ++ [f] := by
    simp [frames_concat, Event.handled?, hack]
  have hserved : served (events ++ [.handled f taken]) = served events ++ [(f, taken)] := by
    simp [served_concat, Event.handled?, hack]
  have hreports : (Event.handled f taken).reports start events =
      (if start.config.sendAcks && !taken
        then [.ofError f.header.id MemoryLink.peerGone] else []) ++
        start.complaints (frames events) f := if_neg (by rw [hack]; exact Bool.false_ne_true)
  refine ⟨⟨hattached, hwired, hframes ▸ hkept, ?_, ?_⟩, hacks.leaves⟩
  · rw [reports_concat, List.nil_append, hreports, ← h.kept.config, ← List.append_assoc,
      ← List.append_assoc, ← h.errors, ← hacks.errors]
    rfl
  · have hsame : acksFor start (served events ++ [(f, taken)]) = acksFor start (served events) ++
        if start.config.sendAcks then [⟨.ack f.header.seq, [], taken⟩] else [] := by
      rw [acksFor, acksFor]
      cases start.config.sendAcks with
      | false => rfl
      | true => exact List.map_append
    rw [hserved, hsame, ← h.acks, ← h.kept.config, ← hacks.acks]
    rfl

end Intake

end Courier
