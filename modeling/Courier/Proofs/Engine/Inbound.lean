import Courier.Argument.Binary
import Courier.Proofs.Engine.Headway
import Courier.Proofs.Engine.Inbox
import Mathlib.Logic.Relation

/-!
# The messages of a peer come to what they ask for

Whatever a peer pushes into a link within the process, each message is taken once and in order, and
rejected or handled. What the engine at the other end has acknowledged, invoked and reported is at
every point what the history of taken and handled messages asks for, and the receiving loop and the
thread can always come to the end of what has arrived.
-/

namespace Courier

namespace Intake

variable {ρ χ : Type} {side : Side} {x x' : Intake ρ χ} {events : List Event} {event : Event}
  {start : Engine (Watched MemoryLink) ρ}

/-! ## What is received -/

/-- What the receiving loop finds, and what comes of it: a frame is brought to the thread, a message
that is none is counted and reported, and so is the loss of the peer. -/
inductive Finds (side : Side) (x : Intake ρ χ) : Event → Intake ρ χ → Prop
  | frame {message : Bytes} {rest : Fifo Bytes} {f : Frame} :
      x.link.arrived side = message :: rest.toList → Frame.decode message = .ok f →
      Finds side x (.took message) ((x.putLink (x.link.update side fun e =>
        { e with inbox := rest, stats := e.stats.received message.length })).post f)
  | rejected {message : Bytes} {rest : Fifo Bytes} {cause : FrameError} :
      x.link.arrived side = message :: rest.toList → Frame.decode message = .error cause →
      Finds side x (.took message) ((x.putLink (x.link.update side fun e =>
        { e with inbox := rest, stats := e.stats.malformed })).publish
          ⟨0, .protocol, cause.message⟩)
  | nothing : x.link.arrived side = [] → Finds side x (.idled false) x
  | gone : x.link.arrived side = [] → Finds side x (.idled true)
      ((x.putLink (x.link.update side fun e => { e with stats := e.stats.failed })).publish
        (.ofError 0 MemoryLink.peerGone))

/-- If there is a message, it is found. -/
theorem finding_of_cons {message : Bytes} {rest : List Bytes}
    (h : x.link.arrived side = message :: rest) : x.finding side = .took message := by
  rw [finding, h]

/-- If there is none, the receiving loop looks whether the other end is still there. -/
theorem finding_of_nil (h : x.link.arrived side = []) :
    x.finding side = .idled (!(x.link.endOn side.opposite).isOpen) := by
  rw [finding, h]

/-- Watching an end does not change what it receives. -/
theorem watched_receive (side : Side) (x : Intake ρ χ) :
    (MemoryLink.carrier side).watched.receive x.station.engine.outbound.medium =
      ((x.link.receive side).1,
        { x.station.engine.outbound.medium with state := (x.link.receive side).2 }) := rfl

/-- What the receiving loop does at its turn is what it is said to find. -/
theorem finds_receive (side : Side) (hwilling : x.station.Willing) :
    Finds side x (x.finding side) (x.receive side) := by
  have hreceives := x.link.receives_receive side
  have hwatched := watched_receive side x
  generalize x.link.receive side = received at hreceives hwatched
  rw [receive]
  cases hreceives with
  | frame holdest hdecode =>
    rw [finding_of_cons holdest,
      Station.receive_some (Engine.receive_of_ok hwatched) hwilling]
    exact .frame holdest hdecode
  | malformed holdest hdecode =>
    rw [finding_of_cons holdest, Station.receive_none (Engine.receive_of_malformed hwatched)]
    exact .rejected holdest hdecode
  | nothing hempty hopen =>
    rw [finding_of_nil hempty, hopen, Station.receive_none (Engine.receive_of_ok hwatched)]
    exact .nothing hempty
  | gone hempty hclosed =>
    rw [finding_of_nil hempty, hclosed,
      Station.receive_none (Engine.receive_of_failure hwatched)]
    exact .gone hempty

/-- A message that is no frame is taken, counted and reported, whatever there is on the thread. -/
theorem receive_of_rejected {message : Bytes} {rest : List Bytes} {cause : FrameError}
    (harrived : x.link.arrived side = message :: rest)
    (hdecode : Frame.decode message = .error cause) :
    ∃ inbox : Fifo Bytes, inbox.toList = rest ∧ x.receive side =
      (x.putLink (x.link.update side fun e => { e with inbox, stats := e.stats.malformed })).publish
        ⟨0, .protocol, cause.message⟩ := by
  have hreceives := x.link.receives_receive side
  have hwatched := watched_receive side x
  generalize x.link.receive side = received at hreceives hwatched
  cases hreceives with
  | @frame _ _ f holdest hframe =>
    obtain ⟨rfl, -⟩ := List.cons.inj (harrived.symm.trans holdest)
    cases hframe.symm.trans hdecode
  | @malformed _ inbox cause' holdest hcause =>
    obtain ⟨rfl, hrest⟩ := List.cons.inj (harrived.symm.trans holdest)
    obtain rfl := Except.error.inj (hcause.symm.trans hdecode)
    refine ⟨inbox, hrest.symm, ?_⟩
    rw [receive, Station.receive_none (Engine.receive_of_malformed hwatched)]
    rfl
  | nothing hempty => cases harrived.symm.trans hempty
  | gone hempty => cases harrived.symm.trans hempty

/-- If there is a message in the link, it is taken. -/
theorem Finds.arrived_eq (hfinds : Finds side x event x') :
    x'.link.arrived side = (x.link.arrived side).tail := by
  cases hfinds with
  | frame holdest | rejected holdest =>
    rw [holdest]
    simp [MemoryLink.arrived]
  | nothing hempty => rw [hempty, List.tail_nil]
  | gone hempty =>
    have hsame := hempty
    rw [MemoryLink.arrived] at hsame
    simp [MemoryLink.arrived, hsame]

/-- What the link and the thread have of the messages of a history: those that were not taken wait
in the link, and the frames that were taken and not handled wait for the thread. -/
structure Conveys (side : Side) (events : List Event) (x : Intake ρ χ) : Prop where
  pushed : pushed events = received events ++ x.link.arrived side
  framesReceived : (x.link.endOn side).stats.framesReceived = (decoded (received events)).length
  protocolErrors : (x.link.endOn side).stats.protocolErrors =
    (received events).countP fun message => !(Frame.decode message).isOk
  lane : decoded (received events) = (handled events).map (·.1) ++ x.station.worker.room.lane

/-- What neither brings nor takes a message lets at most a frame be handled. -/
theorem Conveys.works (h : Conveys side events x) (hleaves : MemoryLink.Leaves side x.link x'.link)
    (hlane : x.station.worker.room.lane =
      event.handled?.toList.map (·.1) ++ x'.station.worker.room.lane)
    (hpushed : event.pushed = []) (hmessage : event.message? = none) :
    Conveys side (events ++ [event]) x' := by
  have hreceived : received (events ++ [event]) = received events := by
    rw [received_concat, hmessage, Option.toList_none, List.append_nil]
  constructor
  · rw [pushed_concat, hpushed, List.append_nil, hreceived, hleaves.arrived, h.pushed]
  · rw [hreceived, hleaves.framesReceived, h.framesReceived]
  · rw [hreceived, hleaves.protocolErrors, h.protocolErrors]
  · rw [hreceived, h.lane, hlane, handled_concat, List.map_append, List.append_assoc]

/-- What the peer puts into the link waits behind what waits there. -/
theorem Conveys.peer {link : MemoryLink} {performed : MemoryLink.Event} {more : List Bytes}
    (h : Conveys side events x) (hperforms : x.link.Performs side.opposite performed link)
    (hput : link.arrived side = x.link.arrived side ++ more) :
    Conveys side (events ++ [.peer more]) (x.putLink link) := by
  have hreceived : received (events ++ [.peer more]) = received events := by
    rw [received_concat]
    exact List.append_nil _
  have hhandled : handled (events ++ [.peer more]) = handled events := by
    rw [handled_concat]
    exact List.append_nil _
  obtain ⟨queued, hchanges⟩ := hperforms.exists_changes
  obtain ⟨inbox, hown⟩ := hchanges.opposite
  rw [Side.opposite_opposite] at hown
  constructor
  · rw [pushed_concat, hreceived, h.pushed, List.append_assoc]
    exact congrArg (received events ++ ·) hput.symm
  · rw [hreceived, ← h.framesReceived]
    exact congrArg (·.stats.framesReceived) hown
  · rw [hreceived, ← h.protocolErrors]
    exact congrArg (·.stats.protocolErrors) hown
  · rw [hreceived, hhandled]
    exact h.lane

/-- The message that waits first is taken, counted, and put behind the frames on the thread if it is
one. -/
theorem Conveys.took {message : Bytes} {rest : Fifo Bytes} (h : Conveys side events x)
    (count : TransportStats → TransportStats)
    (holdest : x.link.arrived side = message :: rest.toList)
    (hlink : x'.link = x.link.update side fun e =>
      { e with inbox := rest, stats := count e.stats })
    (hframes : ∀ stats, (count stats).framesReceived =
      stats.framesReceived + (decoded [message]).length)
    (hcauses : ∀ stats, (count stats).protocolErrors =
      stats.protocolErrors + if (Frame.decode message).isOk then 0 else 1)
    (hlane : x'.station.worker.room.lane = x.station.worker.room.lane ++ decoded [message]) :
    Conveys side (events ++ [.took message]) x' := by
  have hreceived : received (events ++ [.took message]) = received events ++ [message] :=
    received_concat
  have hhandled : handled (events ++ [.took message]) = handled events := by
    rw [handled_concat]
    exact List.append_nil _
  have hown : x'.link.endOn side =
      { x.link.endOn side with inbox := rest, stats := count (x.link.endOn side).stats } := by
    rw [hlink, MemoryLink.endOn_update_self]
  constructor
  · rw [pushed_concat, hreceived, h.pushed, holdest, MemoryLink.arrived, hown]
    simp [Event.pushed]
  · rw [hreceived, hown, decoded_append, List.length_append, ← h.framesReceived]
    exact hframes _
  · rw [hreceived, hown, List.countP_append, ← h.protocolErrors, List.countP_singleton]
    refine (hcauses _).trans (congrArg (_ + ·) ?_)
    cases (Frame.decode message).isOk <;> rfl
  · rw [hreceived, decoded_append, hhandled, h.lane, hlane, List.append_assoc]

/-- The receiving loop finds a message, or that there is none. -/
theorem Conveys.finds (h : Conveys side events x) (hfinds : Finds side x event x')
    (hinLane : x.station.worker.room.InLane) (hfree : x.station.Free)
    (hwilling : x.station.Willing) : Conveys side (events ++ [event]) x' := by
  cases hfinds with
  | @frame message rest f holdest hdecode =>
    have hdecoded : decoded [message] = [f] := by simp [decoded, hdecode, Except.toOption]
    have hok : (Frame.decode message).isOk = true := by rw [hdecode]; rfl
    refine h.took (·.received message.length) holdest rfl (fun stats => ?_) (fun stats => ?_) ?_
    · rw [hdecoded]
      rfl
    · rw [hok]
      rfl
    · rw [hdecoded]
      exact (Worker.lane_post hinLane f hfree (hwilling f)).2
  | @rejected message rest cause holdest hdecode =>
    have hdecoded : decoded [message] = [] := by simp [decoded, hdecode, Except.toOption]
    have hrejected : (Frame.decode message).isOk = false := by rw [hdecode]; rfl
    refine h.took TransportStats.malformed holdest rfl (fun stats => ?_) (fun stats => ?_) ?_
    · rw [hdecoded]
      rfl
    · rw [hrejected]
      rfl
    · rw [hdecoded, List.append_nil]
      rfl
  | nothing => exact h.works .refl rfl rfl rfl
  | gone =>
    refine h.works ?_ rfl rfl rfl
    rw [link_publish, link_putLink]
    constructor <;> simp [MemoryLink.arrived, TransportStats.failed]

/-- What the receiving loop finds is reported if it is no frame. -/
theorem Answers.finds (h : Answers start events x.station.engine)
    (hfinds : Finds side x event x') : Answers start (events ++ [event]) x'.station.engine := by
  cases hfinds with
  | frame holdest hdecode => exact h.elsewhere (by simp [Event.reports, hdecode]) rfl
  | @rejected message rest cause holdest hdecode =>
    have hreports : (Event.took message).reports start events =
        [⟨0, .protocol, cause.message⟩] := by simp [Event.reports, hdecode]
    exact h.elsewhere (congrArg (x.station.engine.errors ++ ·) hreports.symm) rfl
  | nothing => exact h.elsewhere (List.append_nil _).symm rfl
  | gone =>
    have hreports : (Event.idled true).reports start events =
        [.ofError 0 MemoryLink.peerGone] := rfl
    exact h.elsewhere (congrArg (x.station.engine.errors ++ ·) hreports.symm) rfl

/-! ## Runs -/

/-- A frame that is taken up is handled, and its acknowledgment is taken or not. -/
theorem meaning_of_frame {i : Worker.Incident (EngineTask χ) Unit} {f : Frame}
    (h : i.frame? = some f) :
    x.meaning side i = .handled f (x.link.send side (.ack f.header.seq) []).1.isOk := by
  rw [meaning, h]

/-- Other work on the thread is nothing but work. -/
theorem meaning_of_no_frame {i : Worker.Incident (EngineTask χ) Unit} (h : i.frame? = none) :
    x.meaning side i = .worked := by
  rw [meaning, h]

/-- What happens on the thread is the handling of a frame, or nothing that is reported. -/
theorem Answers.works (h : Answers start events x.station.engine) (side : Side)
    (i : Worker.Incident (EngineTask χ) Unit) (clock : Time) :
    Answers start (events ++ [x.meaning side i])
        (x.station.engine.attend (MemoryLink.carrier side).watched clock i) ∧
      MemoryLink.Leaves side x.link (x.station.engine.attend
        (MemoryLink.carrier side).watched clock i).outbound.medium.state := by
  cases hframe : i.frame? with
  | some f =>
    rw [meaning_of_frame hframe, Engine.attend_of_frame hframe]
    cases hack : f.header.isAck with
    | true =>
      obtain ⟨hanswers, hmedium⟩ := h.acknowledge side clock
        (x.link.send side (.ack f.header.seq) []).1.isOk hack
      rw [hmedium]
      exact ⟨hanswers, .refl⟩
    | false => exact h.serve hack
  | none =>
    rw [meaning_of_no_frame hframe]
    unfold Engine.attend
    split
    · cases hframe
    · exact h.scan
    · exact ⟨h.elsewhere (List.append_nil _).symm rfl, .refl⟩

/-- What holds of an engine and its thread at every point of a run. -/
structure Sound (start : Engine (Watched MemoryLink) ρ) (side : Side) (events : List Event)
    (x : Intake ρ χ) : Prop where
  answers : Answers start events x.station.engine
  conveys : Conveys side events x
  ready : x.station.worker.Ready

/-- What is noticed accounts for the engine after every step. -/
theorem Step.sound (hstep : Step side x event x') (h : Sound start side events x) :
    Sound start side (events ++ [event]) x' := by
  obtain ⟨hanswers, hconveys, hready⟩ := h
  cases hstep with
  | tick =>
    exact ⟨hanswers.elsewhere (List.append_nil _).symm rfl, hconveys.works .refl rfl rfl rfl,
      hready⟩
  | peer hopen hperforms hput =>
    exact ⟨hanswers.elsewhere (List.append_nil _).symm rfl, hconveys.peer hperforms hput, hready⟩
  | @told next all =>
    refine ⟨hanswers.elsewhere (List.append_nil _).symm rfl, hconveys.works ?_ rfl rfl rfl, hready⟩
    have hlink : (x.putLink ((x.link.setDropNext side next).setDropAll side all)).link =
        (x.link.setDropNext side next).setDropAll side all := rfl
    rw [hlink, MemoryLink.setDropAll, MemoryLink.setDropNext]
    constructor <;> simp [MemoryLink.arrived]
  | sent hdoes herrors =>
    obtain ⟨hsent, hleaves⟩ := hanswers.sent hdoes herrors
    exact ⟨hsent, hconveys.works hleaves rfl rfl rfl, hready⟩
  | waited => exact ⟨hanswers.elsewhere rfl rfl, hconveys.works .refl rfl rfl rfl, hready⟩
  | received hfree hwilling =>
    have hfinds := finds_receive side hwilling
    exact ⟨hanswers.finds hfinds, hconveys.finds hfinds hready.inLane hfree hwilling,
      (Station.ready_receive hready hfree).1⟩
  | @worked i worker hperforms hi =>
    obtain ⟨hworks, hleaves⟩ := hanswers.works side i x.clock
    have hlane := (hperforms.lane_eq hready.inLane hi).2
    refine ⟨hworks, ?_, hready.performs hperforms hi⟩
    cases hframe : i.frame? with
    | some f =>
      rw [hframe] at hlane
      rw [meaning_of_frame hframe]
      exact hconveys.works hleaves hlane rfl rfl
    | none =>
      rw [hframe] at hlane
      rw [meaning_of_no_frame hframe]
      exact hconveys.works hleaves hlane rfl rfl

/-- A station that has just been opened on a new link has done nothing. -/
theorem sound_start {config : EngineConfig} {reliable : Bool} {outside : ρ}
    (hopened : x.station.Opened (MemoryLink.carrier side).watched config ⟨{ reliable }, []⟩
      outside) :
    Sound x.station.engine side [] x := by
  obtain ⟨hfresh, hroom, -⟩ := hopened.fresh
  have hmedium := hfresh.medium_eq
  have hlink : x.link = { reliable } := congrArg Watched.state hmedium
  refine ⟨⟨hfresh.attached, hfresh.wired, hfresh.kept, (List.append_nil _).symm, ?_⟩, ?_,
    hopened.ready⟩
  · rw [acks, hmedium, acksFor]
    split <;> rfl
  · constructor
    · rw [hlink]
      cases side <;> rfl
    · rw [hlink]
      cases side <;> rfl
    · rw [hlink]
      cases side <;> rfl
    · rw [hroom, (Room.inLane_new config.threadName config.queue).2]
      rfl

/-- A station is sound throughout a run. -/
theorem Run.sound {first : Intake ρ χ} (hrun : Run side first events x)
    (hfirst : Sound first.station.engine side [] first) :
    Sound first.station.engine side events x := by
  induction hrun with
  | start => exact hfirst
  | step _ hstep ih => exact hstep.sound ih

/-! ## Everything is handled -/

/-- The engine goes on by itself. -/
def Onward (side : Side) (x x' : Intake ρ χ) : Prop :=
  ∃ event : Event, event.isOwn = true ∧ Step side x event x'

/-- The engine goes on by itself for some time. -/
abbrev Reaches (side : Side) : Intake ρ χ → Intake ρ χ → Prop := Relation.ReflTransGen (Onward side)

/-- What the engine goes on to do by itself goes on with the run. -/
theorem Run.of_reaches {first : Intake ρ χ} (hrun : Run side first events x)
    (hreaches : Reaches side x x') :
    ∃ more, Run side first (events ++ more) x' ∧ ∀ event ∈ more, event.isOwn = true := by
  induction hreaches with
  | refl => exact ⟨[], by rwa [List.append_nil], nofun⟩
  | tail _ honward ih =>
    obtain ⟨more, hrun, hmore⟩ := ih
    obtain ⟨event, hown, hstep⟩ := honward
    refine ⟨more ++ [event], ?_, ?_⟩
    · rw [← List.append_assoc]
      exact hrun.step hstep
    · intro other hother
      rcases List.mem_append.mp hother with hother | hother
      · exact hmore other hother
      · rw [List.mem_singleton.mp hother]
        exact hown

/-- The receiving loop is the engine's own. -/
theorem isOwn_finding (side : Side) (x : Intake ρ χ) : (x.finding side).isOwn = true := by
  unfold finding
  split <;> rfl

/-- What the thread of an engine does is the engine's own. -/
theorem isOwn_meaning (side : Side) (i : Worker.Incident (EngineTask χ) Unit) (x : Intake ρ χ) :
    (x.meaning side i).isOwn = true := by
  unfold meaning
  split <;> rfl

/-- By itself an engine brings no messages. -/
theorem pushed_of_isOwn {more : List Event} (h : ∀ event ∈ more, event.isOwn = true) :
    pushed more = [] := by
  refine List.flatMap_eq_nil_iff.mpr fun event hevent => ?_
  have hown := h event hevent
  cases event with
  | peer => cases hown
  | _ => rfl

/-- The thread works off what it has, while the messages wait in the link. -/
theorem Sound.drain (h : Sound start side events x) :
    ∃ events' x', Reaches side x x' ∧ Sound start side events' x' ∧
      x'.station.worker.room.load = 0 ∧ x'.link.arrived side = x.link.arrived side := by
  generalize hworker : x.station.worker = worker
  induction worker using Worker.lighter_wf.induction generalizing x events with
  | _ worker ih =>
    subst hworker
    rcases Nat.eq_zero_or_pos x.station.worker.room.load with hzero | hpos
    · exact ⟨events, x, .refl, h, hzero, rfl⟩
    · obtain ⟨i, worker', hperforms, hi, hlighter⟩ := h.ready.exists_lighter hpos x.clock
      have hstep : Step side x _ _ := .worked hperforms hi
      have hleaves := (h.answers.works side i x.clock).2
      obtain ⟨events', x', hreaches, hsound, hload, harrived⟩ :=
        ih worker' hlighter (hstep.sound h) rfl
      exact ⟨events', x', .head ⟨_, isOwn_meaning side i x, hstep⟩ hreaches, hsound, hload,
        harrived.trans hleaves.arrived⟩

/-- The receiving loop takes the messages that wait, one after the other, and the thread handles
those that are frames. -/
theorem Sound.exhaust (h : Sound start side events x) (hload : x.station.worker.room.load = 0) :
    ∃ events' x', Reaches side x x' ∧ Sound start side events' x' ∧
      x'.station.worker.room.load = 0 ∧ x'.link.arrived side = [] := by
  induction hlength : (x.link.arrived side).length generalizing x events with
  | zero => exact ⟨events, x, .refl, h, hload, List.eq_nil_of_length_eq_zero hlength⟩
  | succ n ih =>
    obtain ⟨-, hdoor, hroom⟩ := h.ready.lane_eq_nil hload
    have hfree : x.station.Free := Station.free_of_door_eq_nil hdoor
    have hwilling : x.station.Willing := fun frame error =>
      Worker.post_of_hasRoom h.ready.inLane hroom 0 ⟨.normal, .handle frame⟩ error
    have hstep : Step side x _ _ := .received hfree hwilling
    have hlength' := congrArg List.length (finds_receive side hwilling).arrived_eq
    rw [List.length_tail, hlength, Nat.add_sub_cancel] at hlength'
    obtain ⟨events₁, x₁, hreaches₁, hsound₁, hload₁, harrived₁⟩ := (hstep.sound h).drain
    obtain ⟨events', x', hreaches, hsound, hload', harrived⟩ :=
      ih hsound₁ hload₁ ((congrArg List.length harrived₁).trans hlength')
    exact ⟨events', x', .head ⟨_, isOwn_finding side x, hstep⟩ (hreaches₁.trans hreaches), hsound,
      hload', harrived⟩

/-! ## The inbound path -/

/-- Whatever a peer pushes into the link of an engine, and whenever the receiving loop and the
thread take their turns, the messages are taken in order, those that are no frames are counted and
reported once each and nothing else comes of them, and the frames are handled in order. An
acknowledgment does no more than to end the wait for it. Any other frame is acknowledged once if
frames are, those that are no repetitions are brought to their endpoints, and the acknowledgments
that the link does not take, the endpoints that fail and those that there are not are reported once
each. There is always a way to come to the end of what has arrived. -/
theorem Run.inbound_like_reference {config : EngineConfig} {reliable : Bool} {outside : ρ}
    {first : Intake ρ χ}
    (hopened : first.station.Opened (MemoryLink.carrier side).watched config ⟨{ reliable }, []⟩
      outside) (hrun : Run side first events x) :
    first.station.engine.config = config ∧
      pushed events = received events ++ x.link.arrived side ∧
      decoded (received events) = (handled events).map (·.1) ++ x.station.worker.room.lane ∧
      (x.link.endOn side).stats.framesReceived = (decoded (received events)).length ∧
      (x.link.endOn side).stats.protocolErrors =
        (received events).countP (fun message => !(Frame.decode message).isOk) ∧
      acks x.station.engine = acksFor first.station.engine (served events) ∧
      x.station.engine.outside = first.station.engine.registry.afterCalls
        (first.station.engine.invocations (frames events)) outside ∧
      (∀ log : ρ → List (UInt16 × Bytes), first.station.engine.registry.Logs log →
        log x.station.engine.outside =
          log outside ++ first.station.engine.invocations (frames events)) ∧
      x.station.engine.errors =
        first.station.engine.errors ++ reports first.station.engine [] events ∧
      (∀ message rest cause, x.link.arrived side = message :: rest →
        Frame.decode message = .error cause → ∃ inbox : Fifo Bytes, inbox.toList = rest ∧
          x.receive side = (x.putLink (x.link.update side fun e =>
            { e with inbox, stats := e.stats.malformed })).publish ⟨0, .protocol, cause.message⟩) ∧
      (∀ clock (f : Frame), f.header.isAck = true →
        x.station.engine.handleFrame (MemoryLink.carrier side).watched clock f =
          (x.station.engine.outbound.tracker.pending[f.header.seq]?).elim x.station.engine
            fun record => x.station.engine.concluded ⟨record.endpoint, f.header.seq, .success⟩) ∧
      ∃ more x', Run side first (events ++ more) x' ∧ (∀ event ∈ more, event.isOwn = true) ∧
        x'.link.arrived side = [] ∧ x'.station.worker.room.lane = [] ∧
        (handled (events ++ more)).map (·.1) = decoded (pushed events) := by
  have hfirst := sound_start hopened
  have hsound := hrun.sound hfirst
  have hanswers := hsound.answers
  have hconveys := hsound.conveys
  obtain ⟨hfresh, -, -⟩ := hopened.fresh
  have houtside : x.station.engine.outside = first.station.engine.registry.afterCalls
      (first.station.engine.invocations (frames events)) outside := by
    rw [hanswers.kept.outside, Engine.outsideAfter, hfresh.outside_eq]
  refine ⟨hfresh.config_eq, hconveys.pushed, hconveys.lane, hconveys.framesReceived,
    hconveys.protocolErrors, hanswers.acks, houtside, ?_, hanswers.errors,
    fun _ _ _ harrived hdecode => receive_of_rejected harrived hdecode, ?_, ?_⟩
  · intro log hlogs
    rw [houtside]
    exact hlogs.afterCalls (fun _ hcall => Engine.contains_of_mem_invocations _ hcall) outside
  · intro clock f hack
    rw [Engine.handleFrame, if_pos hack]
    cases hrecord : x.station.engine.outbound.tracker.pending[f.header.seq]? with
    | none => exact Engine.acknowledge_of_untracked hanswers.wired.heard hrecord
    | some record => exact hanswers.wired.acknowledge_eq hrecord
  · obtain ⟨_, x₁, hreaches₁, hsound₁, hload₁, -⟩ := hsound.drain
    obtain ⟨_, x', hreaches, hsound', hload', hempty⟩ := hsound₁.exhaust hload₁
    obtain ⟨more, hrun', hown⟩ := hrun.of_reaches (hreaches₁.trans hreaches)
    have hlane := (hsound'.ready.lane_eq_nil hload').1
    have hconveys' := (hrun'.sound hfirst).conveys
    have hpushed : pushed (events ++ more) = pushed events := by
      rw [pushed, List.flatMap_append, ← pushed, ← pushed, pushed_of_isOwn hown, List.append_nil]
    refine ⟨more, x', hrun', hown, hempty, hlane, ?_⟩
    have hreceived : received (events ++ more) = pushed events := by
      rw [← hpushed, hconveys'.pushed, hempty, List.append_nil]
    rw [← hreceived, hconveys'.lane, hlane, List.append_nil]

/-- An engine that has just been started at one end of a link. -/
def onLink (config : EngineConfig) (side : Side) (outside : ρ)
    (endpoints : List (UInt16 × Invoker ρ)) : Intake ρ χ where
  station := (Station.start 0 {
    engine := (Engine.onLink config side outside).registerAll endpoints
    worker := .new config.threadName config.queue }).2
  clock := 0

/-- An engine that is put together at an end of a link is opened as a run begins. -/
theorem opened_onLink {config : EngineConfig} (hvalid : config.validate = .ok ()) (side : Side)
    (outside : ρ) (endpoints : List (UInt16 × Invoker ρ)) :
    (onLink config side outside endpoints : Intake ρ χ).station.Opened
      (MemoryLink.carrier side).watched config ⟨{}, []⟩ outside := by
  obtain ⟨detached, hnew, hattach⟩ := Engine.exists_attach_onLink hvalid side outside
  exact Station.opened_of_attach hnew hattach endpoints 0

/-- An endpoint for truth values, which does nothing with them. -/
def endpointForBool : UInt16 × Invoker (Unit × List (UInt16 × Bytes)) :=
  (5, (Invoker.decoding (Binary.codec .bool).serializer fun _ outside =>
    (.done, outside)).watched 5)

/-- A peer pushes a message that is no frame and a frame whose payload its endpoint does not
understand, and goes away before the frame is acknowledged. -/
theorem Run.inbound_like_reference_of_failures :
    ∃ (first x : Intake (Unit × List (UInt16 × Bytes)) Unit) (events : List Event),
      first.station.Opened (MemoryLink.carrier .near).watched {} ⟨{}, []⟩ ((), []) ∧
      Run .near first events x ∧
      pushed events = [[1, 2], Frame.bytes ⟨.new 5 9 1, [2]⟩] ∧
      (x.link.endOn .near).stats.protocolErrors = 1 ∧
      acks x.station.engine = [⟨.ack 9, [], false⟩] ∧
      x.station.engine.outside = ((), [(5, [2])]) ∧
      x.station.engine.errors = [⟨0, .protocol, (FrameError.truncated 8 2).message⟩,
        .ofError 5 MemoryLink.peerGone, .ofError 5 (.serialization (some 5)
          "invalid u8 while decoding bool, expected 0 or 1, found 2")] := by
  have hopened := @opened_onLink (Unit × List (UInt16 × Bytes)) Unit {} rfl .near ((), [])
    [endpointForBool]
  have hstart := @Run.start _ _ .near (@onLink (Unit × List (UInt16 × Bytes)) Unit {} .near ((), [])
    [endpointForBool])
  let message : Bytes := Frame.bytes ⟨.new 5 9 1, [2]⟩
  have hbegun := hstart.step (.worked (.begin rfl) trivial)
  have hready := hbegun.step (.worked (@Worker.Performs.await _ _ _ _ 0 rfl) trivial)
  have hrejected := hready.step (.peer rfl (.sendRaw [1, 2]) (@rfl _ ([] ++ [[1, 2]])))
  have hreported := hrejected.step (.received nofun fun _ _ => nofun)
  have hpushed := hreported.step (.peer rfl (.sendRaw message) (@rfl _ ([] ++ [message])))
  have htaken := hpushed.step (.received nofun fun _ _ => nofun)
  have hremoved := htaken.step (.peer rfl .remove (@rfl _ ([] ++ [])))
  have hserved := hremoved.step (.worked (@Worker.Performs.look _ _ _ _ 100000000 rfl) trivial)
  let events : List Event := [.worked, .worked, .peer [[1, 2]], .took [1, 2], .peer [message],
    .took message, .peer [], .handled ⟨.new 5 9 1, [2]⟩ false]
  have hrun : Run .near _ events _ := hserved
  obtain ⟨-, -, -, -, hcount, hacks, houtside, -, herrors, -⟩ :=
    hrun.inbound_like_reference hopened
  exact ⟨_, _, events, hopened, hrun, rfl, hcount.trans rfl, hacks.trans rfl, houtside.trans rfl,
    herrors.trans rfl⟩

end Intake

end Courier
