import Courier.Proofs.Engine.Errands
import Courier.Proofs.Engine.Lane

/-!
# Two engines at the ends of a link

Two engines with their threads stand at the ends of a link within the process, and one of them calls
endpoints behind the other. Calls are made, frames are received, and something happens on a thread,
in any order. While an engine does something, it has the link as its transport.
-/

namespace Courier

namespace Engine

variable {σ ρ χ : Type} {e : Engine σ ρ} {c : Carrier σ} {clock : Time} {frame : Frame}
  {i : Worker.Incident (EngineTask χ) Unit}

/-- What an engine does about what happens on its thread. Other work on the thread is no concern
of the engine. -/
def attend (c : Carrier σ) (clock : Time) (e : Engine σ ρ) :
    Worker.Incident (EngineTask χ) Unit → Engine σ ρ
  | .look (.start ⟨_, .handle frame⟩) => e.handleFrame c clock frame
  | .fire _ => (e.scan c clock fun _ => clock).2
  | _ => e

/-- A frame that is taken up is handled. -/
theorem attend_of_frame (hframe : i.frame? = some frame) :
    e.attend c clock i = e.handleFrame c clock frame := by
  unfold Worker.Incident.frame? at hframe
  split at hframe
  · next t =>
    obtain ⟨priority, work⟩ := t
    cases work with
    | handle frame' =>
      obtain rfl : frame' = frame := Option.some.inj hframe
      rfl
    | other work => cases hframe
  · cases hframe

/-- Other work does not concern the engine, if no frame is late. -/
theorem attend_of_no_frame (hnone : i.frame? = none)
    (hscan : ∀ timer, i = .fire timer → (e.scan c clock fun _ => clock).2 = e) :
    e.attend c clock i = e := by
  unfold attend
  split
  · cases hnone
  · exact hscan _ rfl
  · rfl

/-- A new engine that is not attached to a link yet. -/
def detached (config : EngineConfig) (outside : ρ) : Engine MemoryLink ρ where
  config
  outbound := { tracker := { timeout := EngineConfig.millis config.ackTimeout }, medium := {} }
  duplicates := .new config.dedupeWindow.toNat
  outside

end Engine

namespace Station

variable {σ ρ χ : Type} {s : Station σ ρ χ} {c : Carrier σ} {engine : Engine σ ρ} {frame : Frame}

/-- Lends the engine of a station another state of its transport. -/
def lend (medium : σ) (s : Station σ ρ χ) : Station σ ρ χ :=
  { s with engine := s.engine.lend medium }

/-- What happens on the thread of a station, and what the engine does about it. -/
def work (c : Carrier σ) (clock : Time) (i : Worker.Incident (EngineTask χ) Unit)
    (worker : Worker (EngineTask χ) Unit) (s : Station σ ρ χ) : Station σ ρ χ :=
  { s with engine := s.engine.attend c clock i, worker }

/-- A station whose receiving loop does not wait for room on the thread. -/
def Free (s : Station σ ρ χ) : Prop := ∀ p ∈ s.worker.room.door, p.number ≠ 0

/-- A station whose thread refuses no frame. -/
def Willing (s : Station σ ρ χ) : Prop :=
  ∀ frame error, (s.worker.post 0 ⟨.normal, .handle frame⟩).1 ≠ .refused error

/-- A receiving loop that finds nothing posts nothing. -/
theorem receive_none (h : s.engine.receive c = (none, engine)) :
    s.receive c = { s with engine } := by
  rw [receive, h]

/-- A frame that is found is posted to the thread. -/
theorem receive_some (h : s.engine.receive c = (some frame, engine)) (hwilling : s.Willing) :
    s.receive c =
      { s with engine, worker := (s.worker.post 0 ⟨.normal, .handle frame⟩).2 } := by
  have hnot := hwilling frame
  rw [receive, h]
  dsimp only
  rcases hpost : s.worker.post 0 ⟨.normal, .handle frame⟩ with ⟨offer, worker⟩
  rw [hpost] at hnot
  cases offer with
  | refused error => exact absurd rfl (hnot error)
  | accepted => rfl
  | full => rfl

/-- A station that was made, attached to a transport, given its endpoints and started. -/
inductive Opened (c : Carrier σ) (config : EngineConfig) (medium : σ) (outside : ρ)
    (s : Station σ ρ χ) : Prop
  | intro {nothing : σ} {made : Station σ ρ χ} {engine : Engine σ ρ}
      {endpoints : List (UInt16 × Invoker ρ)} {clock : Time} :
      Station.new config nothing outside = .ok made →
      made.engine.attach c medium = (.ok (), engine) →
      start clock { made with engine := engine.registerAll endpoints } = (.ok (), s) →
      Opened c config medium outside s

/-- A station that was just opened has an engine that is not used yet and a thread without work. -/
theorem Opened.fresh {config : EngineConfig} {medium : σ} {outside : ρ}
    (h : s.Opened c config medium outside) : s.engine.Fresh config medium outside ∧
      s.worker.room = { queue := { name := config.threadName, config := config.queue } } ∧
        s.worker.phase = .passing := by
  cases h with
  | @intro nothing made engine endpoints clock hnew hattach hstart =>
    cases hengine : Engine.new config nothing outside with
    | error error =>
      rw [Station.new, hengine] at hnew
      cases hnew
    | ok e =>
      rw [Station.new, hengine] at hnew
      obtain rfl := Except.ok.inj hnew
      have hfresh := Engine.fresh_of_attach hengine hattach endpoints
      unfold start at hstart
      split at hstart
      · cases hstart
      · split at hstart
        · obtain rfl := (Prod.mk.inj hstart).2
          exact ⟨hfresh, rfl, rfl⟩
        · obtain rfl := (Prod.mk.inj hstart).2
          refine ⟨{ hfresh with wired := ?_ }, Worker.wake_room _, rfl⟩
          exact { hfresh.wired with }

/-- Receiving is started once there is a transport. -/
theorem start_fst (clock : Time) (h : s.engine.isInitialized = true) :
    (start clock s).1 = .ok () := by
  unfold start
  rw [h]
  cases s.engine.running <;> rfl

/-- A new engine that was attached to a transport can be given its endpoints and started. -/
theorem opened_of_attach {config : EngineConfig} {nothing medium : σ} {outside : ρ}
    {detached attached : Engine σ ρ} (hnew : Engine.new config nothing outside = .ok detached)
    (hattach : detached.attach c medium = (.ok (), attached))
    (endpoints : List (UInt16 × Invoker ρ)) (clock : Time) :
    Opened c config medium outside (start clock {
      engine := attached.registerAll endpoints
      worker := .new config.threadName config.queue } : _ × Station σ ρ χ).2 := by
  have hmade : Station.new (χ := χ) config nothing outside = .ok {
      engine := detached
      worker := .new config.threadName config.queue } := by
    rw [Station.new, hnew]
    rfl
  have hfresh := Engine.fresh_of_attach hnew hattach endpoints
  exact .intro hmade hattach (Prod.ext (start_fst clock hfresh.wired.initialized) rfl)

/-- A station that has just been started at one end of a link. -/
def onLink (config : EngineConfig) (side : Side) (outside : ρ)
    (endpoints : List (UInt16 × Invoker ρ)) : Station MemoryLink ρ χ :=
  (start 0 {
    engine := ((Engine.detached config outside).attach (MemoryLink.carrier side) {}).2.registerAll
      endpoints
    worker := .new config.threadName config.queue }).2

/-- A station that is put together at an end of a link is opened as a run begins. -/
theorem opened_onLink {config : EngineConfig} (hvalid : config.validate = .ok ()) (side : Side)
    (outside : ρ) (endpoints : List (UInt16 × Invoker ρ)) :
    (onLink config side outside endpoints : Station MemoryLink ρ χ).Opened
      (MemoryLink.carrier side) config {} outside := by
  have hnew : Engine.new config {} outside = .ok (.detached config outside) := by
    rw [Engine.new, hvalid]
    rfl
  exact opened_of_attach hnew rfl endpoints 0

/-- A station has received what stands at the front of what has arrived. -/
structure Takes (side : Side) (link link' : MemoryLink) (front back : List Frame)
    (worker worker' : Worker (EngineTask χ) Unit) : Prop where
  length_back : back.length = (front ++ back).length - 1
  lossless : link'.Lossless
  arrived : link'.arrived side = back.map Frame.bytes
  opposite : link'.arrived side.opposite = link.arrived side.opposite
  inLane : worker'.room.InLane
  lane : worker'.room.lane = worker.room.lane ++ front
  config : worker'.room.queue.config = worker.room.queue.config

/-- Over a link that loses nothing a station receives what has arrived, in order. -/
theorem takes_receive {s : Station MemoryLink ρ χ} {side : Side} {link : MemoryLink}
    {frames : List Frame} (hlossless : link.Lossless)
    (harrived : link.arrived side = frames.map Frame.bytes) (hwhole : ∀ f ∈ frames, f.Whole)
    (hlane : s.worker.room.InLane) (hfree : s.Free) (hwilling : s.Willing) :
    ∃ link' worker front back,
      (s.lend link).receive (MemoryLink.carrier side) =
        { s with engine := s.engine.lend link', worker } ∧
      frames = front ++ back ∧ Takes side link link' front back s.worker worker := by
  cases frames with
  | nil =>
    have hreceive : (MemoryLink.carrier side).receive (s.lend link).engine.outbound.medium =
        (.ok none, link) := hlossless.receive_of_nil harrived
    refine ⟨link, s.worker, [], [], ?_, rfl, rfl, hlossless, harrived, rfl, hlane, ?_,
      rfl⟩
    · exact receive_none (Engine.receive_of_ok hreceive)
    · rw [List.append_nil]
  | cons f frames =>
    obtain ⟨link', hlink, hlossless', hrest, hopposite⟩ :=
      hlossless.receive (hwhole f List.mem_cons_self) harrived
    have hreceive : (MemoryLink.carrier side).receive (s.lend link).engine.outbound.medium =
        (.ok (some f), link') := hlink
    obtain ⟨hinLane, hbehind⟩ := Worker.lane_post hlane f hfree (hwilling f)
    refine ⟨link', _, [f], frames, ?_, rfl, rfl, hlossless', hrest, hopposite, hinLane, hbehind,
      ?_⟩
    · exact receive_some (s := s.lend link) (Engine.receive_of_ok hreceive) hwilling
    · exact Worker.config_post ..

end Station

/-- Two engines with their threads at the ends of a link. The endpoints behind the far one write
down what they are called with. -/
structure Joint {κ : Type} (Value : κ → Type) (ρ ρ' χ χ' : Type) where
  near : Station MemoryLink ρ χ
  far : Station MemoryLink (ρ' × List (UInt16 × Argument Value)) χ'
  /-- The link, which an engine has as its transport while it works. -/
  link : MemoryLink
  clock : Time

namespace Joint

variable {κ : Type} {Value : κ → Type} {ρ ρ' χ χ' : Type}

/-- The near station with the link. -/
def nearEnd (j : Joint Value ρ ρ' χ χ') : Station MemoryLink ρ χ := j.near.lend j.link

/-- The far station with the link. -/
def farEnd (j : Joint Value ρ ρ' χ χ') :
    Station MemoryLink (ρ' × List (UInt16 × Argument Value)) χ' :=
  j.far.lend j.link

/-- The near station has worked. -/
def putNear (s : Station MemoryLink ρ χ) (j : Joint Value ρ ρ' χ χ') : Joint Value ρ ρ' χ χ' :=
  { j with near := s, link := s.engine.outbound.medium }

/-- The far station has worked. -/
def putFar (s : Station MemoryLink (ρ' × List (UInt16 × Argument Value)) χ')
    (j : Joint Value ρ ρ' χ χ') : Joint Value ρ ρ' χ χ' :=
  { j with far := s, link := s.engine.outbound.medium }

/-- The near engine calls an endpoint behind the far one. -/
def call (call : RemoteCall Value) (j : Joint Value ρ ρ' χ χ') :
    Except NetworkError UInt16 × Joint Value ρ ρ' χ χ' :=
  let (result, engine) := j.nearEnd.engine.callRemote (MemoryLink.carrier .near) j.clock
    call.serializer call.argument.value call.id
  (result, j.putNear { j.near with engine })

/-- What happens to two engines that are joined. -/
inductive Event {κ : Type} (Value : κ → Type) where
  | tick
  | called (call : RemoteCall Value) (result : Except NetworkError UInt16)
  | received (side : Side)
  /-- Something happens on a thread, which may take up a frame. -/
  | worked (side : Side) (frame? : Option Frame)

/-- How two engines that are joined change with what happens. The far engine has endpoints for all
calls, no frame is refused by the near thread, and no scan of the near engine finds a late frame. -/
inductive Step (j : Joint Value ρ ρ' χ χ') : Event Value → Joint Value ρ ρ' χ χ' → Prop
  | tick {clock : Time} : j.clock ≤ clock → Step j .tick { j with clock }
  | called {call : RemoteCall Value} {payload : Bytes} :
      call.Deliverable j.far.engine.registry payload →
      Step j (.called call (j.call call).1) (j.call call).2
  | receivedNear : j.near.Free → j.near.Willing →
      Step j (.received .near) (j.putNear (j.nearEnd.receive (MemoryLink.carrier .near)))
  | receivedFar : j.far.Free →
      Step j (.received .far) (j.putFar (j.farEnd.receive (MemoryLink.carrier .far)))
  | workedNear {i : Worker.Incident (EngineTask χ) Unit} {worker : Worker (EngineTask χ) Unit} :
      j.near.worker.Performs j.clock i worker → i.IsOrdinary →
      (∀ timer, i = .fire timer → j.near.engine.outbound.tracker.overdue j.clock = []) →
      Step j (.worked .near i.frame?)
        (j.putNear (j.nearEnd.work (MemoryLink.carrier .near) j.clock i worker))
  | workedFar {i : Worker.Incident (EngineTask χ') Unit} {worker : Worker (EngineTask χ') Unit} :
      j.far.worker.Performs j.clock i worker → i.IsOrdinary →
      Step j (.worked .far i.frame?)
        (j.putFar (j.farEnd.work (MemoryLink.carrier .far) j.clock i worker))

/-- What has happened since a start. -/
inductive Run (start : Joint Value ρ ρ' χ χ') :
    List (Event Value) → Joint Value ρ ρ' χ χ' → Prop
  | start : Run start [] start
  | step {events : List (Event Value)} {event : Event Value} {j j' : Joint Value ρ ρ' χ χ'} :
      Run start events j → Step j event j' → Run start (events ++ [event]) j'

/-- The call that an event is, with its result. -/
def Event.call? : Event Value → Option (RemoteCall Value × Except NetworkError UInt16)
  | .called call result => some (call, result)
  | _ => none

/-- Whether the near thread takes up a frame to handle it. -/
def Event.isHandling : Event Value → Bool
  | .worked .near (some _) => true
  | _ => false

/-- The calls that were made, with their results. -/
def calls (events : List (Event Value)) : List (RemoteCall Value × Except NetworkError UInt16) :=
  events.filterMap Event.call?

/-- The number of acknowledgments that the near engine has handled. -/
def acks (events : List (Event Value)) : Nat := events.countP Event.isHandling

/-- Every acknowledgment is handled before another 65536 numbers are drawn. -/
def Timely (events : List (Event Value)) : Prop :=
  ∀ before call result after, events = before ++ .called call result :: after →
    (calls before).length < acks before + 65536

/-- Two new engines at the ends of a link that loses nothing and on which nothing is under way. The
far engine acknowledges what it receives, its filter remembers fewer frames than there are numbers,
and its thread has a queue without a limit. -/
structure Opened (nearConfig farConfig : EngineConfig) (outside : ρ) (outside' : ρ')
    (j : Joint Value ρ ρ' χ χ') : Prop where
  near : j.near.Opened (MemoryLink.carrier .near) nearConfig j.link outside
  far : j.far.Opened (MemoryLink.carrier .far) farConfig j.link (outside', [])
  lossless : j.link.Lossless
  empty : ∀ side, j.link.arrived side = []
  acknowledges : farConfig.sendAcks = true
  window : farConfig.dedupeWindow.toNat ≤ 65535
  unlimited : farConfig.queue.maxDepth = 0

/-- Two engines that have nothing more to receive and to handle. -/
structure Quiet (j : Joint Value ρ ρ' χ χ') : Prop where
  link : ∀ side, j.link.arrived side = []
  near : j.near.worker.room.lane = []
  far : j.far.worker.room.lane = []

variable {nearConfig farConfig : EngineConfig} {outside : ρ} {outside' : ρ'}
  {events : List (Event Value)} {event : Event Value}

/-- A new event adds its call, if it is one. -/
theorem calls_concat (events : List (Event Value)) (event : Event Value) :
    calls (events ++ [event]) = calls events ++ event.call?.toList := by
  rw [calls, List.filterMap_append, List.filterMap_cons, List.filterMap_nil]
  cases event.call? <;> rfl

/-- In a run that is timely there are never as many calls without an acknowledgment as there are
numbers. -/
theorem Timely.of_concat (h : Timely (events ++ [event])) :
    Timely events ∧ (event.call?.isSome → (calls events).length < acks events + 65536) := by
  constructor
  · intro before call result after hevents
    refine h before call result (after ++ [event]) ?_
    rw [hevents, List.append_assoc, List.cons_append]
  · intro hcall
    cases event with
    | called call result => exact h events call result [] rfl
    | _ => cases hcall

/-- In a short run no number is drawn anew. -/
theorem timely_of_length_le (h : events.length ≤ 65536) : Timely events := by
  intro before call result after hevents
  have hcalls : (calls before).length ≤ before.length := List.length_filterMap_le _ _
  rw [hevents, List.length_append, List.length_cons] at h
  omega

/-- Two stations that have just been started at the ends of a link. -/
def onLink (nearConfig farConfig : EngineConfig) (outside : ρ) (outside' : ρ')
    (endpoints : List (UInt16 × Invoker (ρ' × List (UInt16 × Argument Value)))) :
    Joint Value ρ ρ' χ χ' where
  near := .onLink nearConfig .near outside []
  far := .onLink farConfig .far (outside', []) endpoints
  link := {}
  clock := 0

/-- Two stations at the ends of one link are opened as a run begins. -/
theorem opened_onLink (hnear : nearConfig.validate = .ok ()) (hfar : farConfig.validate = .ok ())
    (hacks : farConfig.sendAcks = true) (hwindow : farConfig.dedupeWindow.toNat ≤ 65535)
    (hunlimited : farConfig.queue.maxDepth = 0) (outside : ρ) (outside' : ρ')
    (endpoints : List (UInt16 × Invoker (ρ' × List (UInt16 × Argument Value)))) :
    (onLink nearConfig farConfig outside outside' endpoints : Joint Value ρ ρ' χ χ').Opened
      nearConfig farConfig outside outside' where
  near := Station.opened_onLink hnear .near outside []
  far := Station.opened_onLink hfar .far (outside', []) endpoints
  lossless := MemoryLink.lossless_new false
  empty side := by cases side <;> rfl
  acknowledges := hacks
  window := hwindow
  unlimited := hunlimited

end Joint

end Courier
