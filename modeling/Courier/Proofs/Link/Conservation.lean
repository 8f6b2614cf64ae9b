import Courier.Proofs.Link.Lossless
import Courier.Proofs.Wire.Codec

/-!
# What a link within the process does with its messages

Whatever both ends of a link do, in whatever order: each message that one end puts into the link is
waiting at the other end or was read there, once and in order. The counters of both ends and the
losses that were asked for follow from what the ends have done.
-/

namespace Courier.MemoryLink

/-! ## What happens to a link -/

/-- What one end does, with what comes of it. -/
inductive Event where
  | send (header : Header) (payload : Bytes) (result : Except NetworkError Unit)
  | sendRaw (message : Bytes) (result : Except NetworkError Unit)
  | dropNext (count : Nat)
  | dropAll (all : Bool)
  | receive (result : Except NetworkError (Option Frame))
  | remove

/-- How a link changes with what the end on a side does. -/
inductive Performs (l : MemoryLink) (side : Side) : Event → MemoryLink → Prop
  | send (header : Header) (payload : Bytes) :
      Performs l side (.send header payload (l.send side header payload).1)
        (l.send side header payload).2
  | sendRaw (message : Bytes) :
      Performs l side (.sendRaw message (l.sendRaw side message).1) (l.sendRaw side message).2
  | dropNext (count : Nat) : Performs l side (.dropNext count) (l.setDropNext side count)
  | dropAll (all : Bool) : Performs l side (.dropAll all) (l.setDropAll side all)
  | receive : Performs l side (.receive (l.receive side).1) (l.receive side).2
  | remove : Performs l side .remove (l.remove side)

/-- What an end has done, and the messages that are waiting at the other end since then. -/
structure Happening where
  side : Side
  event : Event
  queued : List Bytes

/-- What happens to a link since it was made. Only an end that is there does anything. -/
inductive Run (reliable : Bool) : List Happening → MemoryLink → Prop
  | new : Run reliable [] { reliable }
  | step {events : List Happening} {l l' : MemoryLink} {side : Side} {event : Event}
      {queued : List Bytes} : Run reliable events l → (l.endOn side).isOpen = true →
      l.Performs side event l' →
      l'.arrived side.opposite = l.arrived side.opposite ++ queued →
      Run reliable (events ++ [⟨side, event, queued⟩]) l'

/-! ## What the history says -/

/-- What an end has done itself. -/
def doings (side : Side) (events : List Happening) : List Happening :=
  events.filter (·.side = side)

/-- The messages that an end has put into the link, in order. -/
def queued (side : Side) (events : List Happening) : List Bytes :=
  (doings side events).flatMap (·.queued)

/-- What an event says of a message that was received. -/
def Event.answer? : Event → Option (Except FrameError Frame)
  | .receive (.ok (some frame)) => some (.ok frame)
  | .receive (.error (.protocol cause)) => some (.error cause)
  | _ => none

/-- What became of the messages that an end has received, in order. -/
def answers (side : Side) (events : List Happening) : List (Except FrameError Frame) :=
  (doings side events).filterMap (·.event.answer?)

/-- Whether a frame was sent well and yet put nothing into the link. -/
def Happening.isLoss (h : Happening) : Bool :=
  match h.event with
  | .send _ _ (.ok ()) => h.queued.isEmpty
  | _ => false

/-- How many frames of an end were lost. -/
def losses (side : Side) (events : List Happening) : Nat :=
  (doings side events).countP (·.isLoss)

/-- Whether an end is removed. -/
def Event.isRemoval : Event → Bool
  | .remove => true
  | _ => false

/-- Whether an end was removed. -/
def gone (side : Side) (events : List Happening) : Bool :=
  (doings side events).any (·.event.isRemoval)

/-- The losses that are asked of an end: all of its frames, or a number of the next ones. -/
structure Demand where
  all : Bool := false
  next : Nat := 0

/-- Whether the next frame is to be lost. -/
def Demand.Loses (d : Demand) : Prop := d.all = true ∨ 0 < d.next

/-- What is left of a demand when a frame could be written and is lost or sent. -/
def Demand.spent (d : Demand) : Demand := if d.all then d else { d with next := d.next - 1 }

/-- A demand after an event. A frame that cannot be written leaves it as it is. -/
def Demand.after (d : Demand) : Event → Demand
  | .dropNext count => { d with next := count }
  | .dropAll all => { d with all }
  | .send header payload _ => if (Frame.encode header payload).isOk then d.spent else d
  | _ => d

/-- The losses that are asked of an end after all that it has done. -/
def demand (side : Side) (events : List Happening) : Demand :=
  (doings side events).foldl (fun d h => d.after h.event) {}

variable {reliable : Bool} {events : List Happening} {l l' : MemoryLink} {side : Side}
  {event : Event} {message : Bytes}

/-- What an end does is added to its doings. -/
theorem doings_append_self (side : Side) (events : List Happening) (event : Event)
    (queued : List Bytes) :
    doings side (events ++ [⟨side, event, queued⟩]) =
      doings side events ++ [⟨side, event, queued⟩] := by
  simp [doings]

/-- What an end does is not added to the doings of the other end. -/
theorem doings_append_opposite (side : Side) (events : List Happening) (event : Event)
    (queued : List Bytes) :
    doings side.opposite (events ++ [⟨side, event, queued⟩]) = doings side.opposite events := by
  cases side <;> simp [doings, Side.opposite]

/-- There are two ends, and no third. -/
theorem eq_opposite_of_ne {side other : Side} (h : side ≠ other) : side = other.opposite := by
  cases side <;> cases other <;> first | rfl | exact absurd rfl h

/-! ## Single operations -/

/-- A message is put into the link exactly if the other end is there. -/
theorem sendRaw_of_open (hopen : (l.endOn side.opposite).isOpen = true) :
    l.sendRaw side message = (.ok (),
      (l.update side.opposite fun e => { e with inbox := e.inbox.push message }).update side
        fun e => { e with stats := e.stats.sent message.length }) := by
  rw [sendRaw, if_pos hopen]

/-- A message for an end that is gone is refused and changes nothing. -/
theorem sendRaw_of_gone (hgone : (l.endOn side.opposite).isOpen = false) :
    l.sendRaw side message = (.error peerGone, l) := by
  rw [sendRaw, if_neg (by rw [hgone]; exact Bool.false_ne_true)]

/-- The losses that an end was told of. -/
def MemoryEnd.demand (e : MemoryEnd) : Demand := ⟨e.dropAll, e.dropNext⟩

/-- An end after it has lost a frame. -/
def MemoryEnd.afterLoss (e : MemoryEnd) : MemoryEnd :=
  { e with dropNext := (MemoryEnd.demand e).spent.next, stats := e.stats.dropped }

/-- A loss is spent of what was asked for. -/
theorem MemoryEnd.demand_afterLoss (e : MemoryEnd) :
    MemoryEnd.demand (MemoryEnd.afterLoss e) = (MemoryEnd.demand e).spent := by
  unfold MemoryEnd.afterLoss MemoryEnd.demand Demand.spent
  split <;> rfl

/-- If a loss is asked for, it happens. -/
theorem MemoryEnd.lose_of_loses {e : MemoryEnd} (h : (MemoryEnd.demand e).Loses) :
    MemoryEnd.lose e = (true, MemoryEnd.afterLoss e) := by
  unfold MemoryEnd.lose MemoryEnd.afterLoss Demand.spent MemoryEnd.demand
  by_cases hall : e.dropAll = true
  · rw [if_pos hall, if_pos hall]
  · have hnext : 0 < e.dropNext := h.resolve_left hall
    rw [if_neg hall, if_pos hnext, if_neg hall]

/-- If none is, nothing happens. -/
theorem MemoryEnd.lose_of_not_loses {e : MemoryEnd} (h : ¬ (MemoryEnd.demand e).Loses) :
    MemoryEnd.lose e = (false, e) := by
  have hall : ¬ e.dropAll = true := fun hall => h (.inl hall)
  have hnext : ¬ 0 < e.dropNext := fun hnext => h (.inr hnext)
  rw [MemoryEnd.lose, if_neg hall, if_neg hnext]

/-- What cannot be written is refused. -/
theorem send_of_error {header : Header} {payload : Bytes} {cause : FrameError}
    (hencode : Frame.encode header payload = .error cause) :
    l.send side header payload = (.error (.protocol cause), l) := by
  rw [send, hencode]

/-- A frame that is to be lost is lost, whether the other end is there or not. -/
theorem send_of_loses {header : Header} {payload : Bytes}
    (hencode : Frame.encode header payload = .ok message)
    (hloses : (MemoryEnd.demand (l.endOn side)).Loses) :
    l.send side header payload = (.ok (), l.update side MemoryEnd.afterLoss) := by
  have hupdate : (l.update side fun _ => MemoryEnd.afterLoss (l.endOn side)) =
      l.update side MemoryEnd.afterLoss := by cases side <;> rfl
  simp only [send, hencode, MemoryEnd.lose_of_loses hloses, hupdate]

/-- Any other frame is put into the link as a message. -/
theorem send_of_not_loses {header : Header} {payload : Bytes}
    (hencode : Frame.encode header payload = .ok message)
    (hkeeps : ¬ (MemoryEnd.demand (l.endOn side)).Loses) :
    l.send side header payload = l.sendRaw side message := by
  simp only [send, hencode, MemoryEnd.lose_of_not_loses hkeeps]

/-- What taking a message from an end comes to. -/
inductive Receives (l : MemoryLink) (side : Side) :
    Except NetworkError (Option Frame) × MemoryLink → Prop
  | frame {message : Bytes} {rest : Fifo Bytes} {f : Frame} :
      l.arrived side = message :: rest.toList → Frame.decode message = .ok f →
      Receives l side (.ok (some f), l.update side fun e =>
        { e with inbox := rest, stats := e.stats.received message.length })
  | malformed {message : Bytes} {rest : Fifo Bytes} {cause : FrameError} :
      l.arrived side = message :: rest.toList → Frame.decode message = .error cause →
      Receives l side (.error (.protocol cause), l.update side fun e =>
        { e with inbox := rest, stats := e.stats.malformed })
  | nothing : l.arrived side = [] → (l.endOn side.opposite).isOpen = true →
      Receives l side (.ok none, l)
  | gone : l.arrived side = [] → (l.endOn side.opposite).isOpen = false →
      Receives l side (.error peerGone, l.update side fun e =>
        { e with stats := e.stats.failed })

/-- Receiving takes a message off, finds that it is malformed, or finds nothing or nobody. -/
theorem receives_receive (l : MemoryLink) (side : Side) : l.Receives side (l.receive side) := by
  cases hpop : (l.endOn side).inbox.pop? with
  | none =>
    have hempty : l.arrived side = [] := Fifo.pop?_eq_none_iff.mp hpop
    simp only [receive, hpop]
    split
    · next hopen => exact .nothing hempty hopen
    · next hgone => exact .gone hempty (by simpa using hgone)
  | some popped =>
    obtain ⟨message, rest⟩ := popped
    have holdest : l.arrived side = message :: rest.toList := Fifo.toList_of_pop? hpop
    simp only [receive, hpop, Frame.ofBuffer_eq_decode]
    cases hdecode : Frame.decode message with
    | ok f => exact .frame holdest hdecode
    | error cause => exact .malformed holdest hdecode

/-! ## What one event changes -/

/-- What an event of the end on a side, with the messages that it puts into the link, changes of
both ends. -/
structure Changes (l : MemoryLink) (side : Side) (event : Event) (queued : List Bytes)
    (l' : MemoryLink) : Prop where
  isOpen : (l'.endOn side).isOpen = ((l.endOn side).isOpen && !event.isRemoval)
  demand : MemoryEnd.demand (l'.endOn side) = (MemoryEnd.demand (l.endOn side)).after event
  framesSent : (l'.endOn side).stats.framesSent = (l.endOn side).stats.framesSent + queued.length
  bytesSent : (l'.endOn side).stats.bytesSent =
    (l.endOn side).stats.bytesSent + (queued.map List.length).sum
  framesDropped : (l'.endOn side).stats.framesDropped =
    (l.endOn side).stats.framesDropped + if (Happening.mk side event queued).isLoss then 1 else 0
  framesReceived : (l'.endOn side).stats.framesReceived =
    (l.endOn side).stats.framesReceived + event.answer?.toList.countP (·.isOk)
  protocolErrors : (l'.endOn side).stats.protocolErrors =
    (l.endOn side).stats.protocolErrors + event.answer?.toList.countP (!·.isOk)
  /-- What was taken from the messages that had arrived was read. -/
  taken : event.isRemoval = false → ∃ taken, l.arrived side = taken ++ l'.arrived side ∧
    event.answer?.toList = taken.map Frame.decode
  /-- The other end gets the messages, and stays as it was otherwise. -/
  put : l'.arrived side.opposite = l.arrived side.opposite ++ queued
  opposite : ∃ inbox, l'.endOn side.opposite = { l.endOn side.opposite with inbox }

/-- An event that neither moves a message nor loses a frame changes no counter of frames. -/
theorem Changes.aside (hopen : (l'.endOn side).isOpen = ((l.endOn side).isOpen && !event.isRemoval))
    (hdemand : MemoryEnd.demand (l'.endOn side) = (MemoryEnd.demand (l.endOn side)).after event)
    (hstats : (l'.endOn side).stats = { (l.endOn side).stats with
      errors := (l'.endOn side).stats.errors })
    (hinbox : event.isRemoval = false → l'.arrived side = l.arrived side)
    (hopposite : l'.endOn side.opposite = l.endOn side.opposite)
    (hanswer : event.answer? = none)
    (hloss : (Happening.mk side event []).isLoss = false) : l.Changes side event [] l' where
  isOpen := hopen
  demand := hdemand
  framesSent := by rw [hstats]; rfl
  bytesSent := by rw [hstats]; rfl
  framesDropped := by rw [hstats, hloss]; rfl
  framesReceived := by rw [hstats, hanswer]; rfl
  protocolErrors := by rw [hstats, hanswer]; rfl
  taken hstays := ⟨[], (hinbox hstays).symm, by rw [hanswer]; rfl⟩
  put := by rw [arrived, hopposite, List.append_nil]; rfl
  opposite := ⟨_, hopposite⟩

/-- A message is put into the link, or the other end is gone and nothing changes, whatever event
this is part of. -/
theorem changes_sendRaw {event : Except NetworkError Unit → Event} (message : Bytes)
    (hremoval : ∀ result, (event result).isRemoval = false)
    (hdemand : ∀ result, (MemoryEnd.demand (l.endOn side)).after (event result) =
      MemoryEnd.demand (l.endOn side))
    (hanswer : ∀ result, (event result).answer? = none)
    (hkept : (Happening.mk side (event (.ok ())) [message]).isLoss = false)
    (hrefused : (Happening.mk side (event (.error peerGone)) []).isLoss = false) :
    ∃ queued, l.Changes side (event (l.sendRaw side message).1) queued
      (l.sendRaw side message).2 := by
  by_cases hopen : (l.endOn side.opposite).isOpen = true
  · rw [sendRaw_of_open hopen]
    exact ⟨[message], {
      isOpen := by simp [hremoval]
      demand := by
        rw [hdemand, endOn_update_self, endOn_opposite_update]
        rfl
      framesSent := by simp [TransportStats.sent]
      bytesSent := by simp [TransportStats.sent]
      framesDropped := by simp [TransportStats.sent, hkept]
      framesReceived := by simp [TransportStats.sent, hanswer]
      protocolErrors := by simp [TransportStats.sent, hanswer]
      taken := fun _ => ⟨[], by simp [arrived], by simp [hanswer]⟩
      put := by simp [arrived]
      opposite := ⟨(l.endOn side.opposite).inbox.push message, by simp⟩ }⟩
  · rw [sendRaw_of_gone (by simpa using hopen)]
    exact ⟨[], .aside (by simp [hremoval]) (hdemand _).symm rfl (fun _ => rfl) rfl (hanswer _)
      hrefused⟩

/-- If no loss is asked for, none is spent. -/
theorem Demand.spent_of_not_loses {d : Demand} (h : ¬ d.Loses) : d.spent = d := by
  have hall : ¬ d.all = true := fun hall => h (.inl hall)
  have hnext : d.next - 1 = d.next := by
    have hzero : ¬ 0 < d.next := fun hnext => h (.inr hnext)
    omega
  rw [spent, if_neg hall, hnext]

/-- A frame changes the demand only if it could be written. -/
theorem Demand.after_send (d : Demand) (header : Header) (payload : Bytes)
    (result : Except NetworkError Unit) : d.after (.send header payload result) =
      if (Frame.encode header payload).isOk then d.spent else d := rfl

/-- Sending changes the link in one of the ways that are counted. -/
theorem changes_send (l : MemoryLink) (side : Side) (header : Header) (payload : Bytes) :
    ∃ queued, l.Changes side (.send header payload (l.send side header payload).1) queued
      (l.send side header payload).2 := by
  cases hencode : Frame.encode header payload with
  | error cause =>
    rw [send_of_error hencode]
    refine ⟨[], .aside (by simp [Event.isRemoval]) ?_ rfl (fun _ => rfl) rfl rfl rfl⟩
    rw [Demand.after_send, hencode]
    rfl
  | ok message =>
    by_cases hloses : (MemoryEnd.demand (l.endOn side)).Loses
    · rw [send_of_loses hencode hloses]
      exact ⟨[], {
        isOpen := by simp [MemoryEnd.afterLoss, Event.isRemoval]
        demand := by
          rw [Demand.after_send, hencode, endOn_update_self, MemoryEnd.demand_afterLoss]
          rfl
        framesSent := by simp [MemoryEnd.afterLoss, TransportStats.dropped]
        bytesSent := by simp [MemoryEnd.afterLoss, TransportStats.dropped]
        framesDropped := by simp [MemoryEnd.afterLoss, TransportStats.dropped, Happening.isLoss]
        framesReceived := by simp [MemoryEnd.afterLoss, TransportStats.dropped, Event.answer?]
        protocolErrors := by simp [MemoryEnd.afterLoss, TransportStats.dropped, Event.answer?]
        taken := fun _ => ⟨[], by simp [arrived, MemoryEnd.afterLoss], rfl⟩
        put := by simp [arrived]
        opposite := ⟨(l.endOn side.opposite).inbox, by simp⟩ }⟩
    · rw [send_of_not_loses hencode hloses]
      refine changes_sendRaw message (fun _ => rfl) (fun result => ?_) (fun _ => rfl) rfl rfl
      rw [Demand.after_send, Demand.spent_of_not_loses hloses, ite_self]

/-- Receiving changes the link in one of the ways that are counted. -/
theorem changes_receive (l : MemoryLink) (side : Side) :
    l.Changes side (.receive (l.receive side).1) [] (l.receive side).2 := by
  have hreceives := l.receives_receive side
  generalize l.receive side = received at hreceives
  cases hreceives with
  | @frame message rest f holdest hdecode =>
    exact {
      isOpen := by simp [Event.isRemoval]
      demand := by simp [MemoryEnd.demand, Demand.after]
      framesSent := by simp [TransportStats.received]
      bytesSent := by simp [TransportStats.received]
      framesDropped := by simp [TransportStats.received, Happening.isLoss]
      framesReceived := by
        rw [endOn_update_self]
        rfl
      protocolErrors := by
        rw [endOn_update_self]
        rfl
      taken := fun _ => ⟨[message], by simpa [arrived] using holdest, by
        rw [List.map_singleton, hdecode]
        rfl⟩
      put := by simp [arrived]
      opposite := ⟨(l.endOn side.opposite).inbox, by simp⟩ }
  | @malformed message rest cause holdest hdecode =>
    exact {
      isOpen := by simp [Event.isRemoval]
      demand := by simp [MemoryEnd.demand, Demand.after]
      framesSent := by simp [TransportStats.malformed]
      bytesSent := by simp [TransportStats.malformed]
      framesDropped := by simp [TransportStats.malformed, Happening.isLoss]
      framesReceived := by
        rw [endOn_update_self]
        rfl
      protocolErrors := by
        rw [endOn_update_self]
        rfl
      taken := fun _ => ⟨[message], by simpa [arrived] using holdest, by
        rw [List.map_singleton, hdecode]
        rfl⟩
      put := by simp [arrived]
      opposite := ⟨(l.endOn side.opposite).inbox, by simp⟩ }
  | nothing => exact .aside (by simp [Event.isRemoval]) rfl rfl (fun _ => rfl) rfl rfl rfl
  | gone =>
    refine .aside ?_ ?_ ?_ (fun _ => ?_) ?_ rfl rfl
    · simp [Event.isRemoval]
    · simp [MemoryEnd.demand, Demand.after]
    · simp [TransportStats.failed]
    · simp [arrived]
    · simp

/-- What an end does puts some messages into the link, and changes what it says it changes. -/
theorem Performs.exists_changes (hperforms : l.Performs side event l') :
    ∃ queued, l.Changes side event queued l' := by
  cases hperforms with
  | send header payload => exact changes_send l side header payload
  | sendRaw message =>
    exact changes_sendRaw message (fun _ => rfl) (fun _ => rfl) (fun _ => rfl) rfl rfl
  | receive => exact ⟨[], changes_receive l side⟩
  | dropNext count | dropAll all =>
    refine ⟨[], .aside ?_ ?_ ?_ (fun _ => ?_) ?_ rfl rfl⟩
    · simp [setDropNext, setDropAll, Event.isRemoval]
    · simp [setDropNext, setDropAll, MemoryEnd.demand, Demand.after]
    · simp [setDropNext, setDropAll]
    · simp [setDropNext, setDropAll, arrived]
    · simp [setDropNext, setDropAll]
  | remove =>
    refine ⟨[], .aside ?_ ?_ ?_ (fun hstays => by cases hstays) ?_ rfl rfl⟩
    · simp [MemoryLink.remove, Event.isRemoval]
    · simp [MemoryLink.remove, MemoryEnd.demand, Demand.after]
    · simp [MemoryLink.remove]
    · simp [MemoryLink.remove]

/-- Whatever an end does puts some messages into the link, and changes what it says it changes. -/
theorem Performs.changes {queued : List Bytes} (hperforms : l.Performs side event l')
    (hput : l'.arrived side.opposite = l.arrived side.opposite ++ queued) :
    l.Changes side event queued l' := by
  obtain ⟨queued', hchanges⟩ := hperforms.exists_changes
  have hsame : queued' = queued := List.append_cancel_left (hchanges.put.symm.trans hput)
  exact hsame ▸ hchanges

/-! ## A run -/

/-- What an end and its counters have of what the end has done. -/
structure Accounted (events : List Happening) (l : MemoryLink) (side : Side) : Prop where
  isOpen : (l.endOn side).isOpen = !gone side events
  demand : MemoryEnd.demand (l.endOn side) = demand side events
  framesSent : (l.endOn side).stats.framesSent = (queued side events).length
  bytesSent : (l.endOn side).stats.bytesSent = ((queued side events).map List.length).sum
  framesDropped : (l.endOn side).stats.framesDropped = losses side events
  framesReceived : (l.endOn side).stats.framesReceived = (answers side events).countP (·.isOk)
  protocolErrors : (l.endOn side).stats.protocolErrors = (answers side events).countP (!·.isOk)

/-- The counters of an end account for what it does next. -/
theorem Accounted.self {queued : List Bytes} (h : Accounted events l side)
    (hchanges : l.Changes side event queued l') :
    Accounted (events ++ [⟨side, event, queued⟩]) l' side where
  isOpen := by
    rw [hchanges.isOpen, h.isOpen, gone, gone, doings_append_self, List.any_append]
    simp
  demand := by
    rw [hchanges.demand, h.demand, MemoryLink.demand, MemoryLink.demand, doings_append_self,
      List.foldl_append]
    rfl
  framesSent := by
    rw [hchanges.framesSent, h.framesSent, MemoryLink.queued, MemoryLink.queued,
      doings_append_self, List.flatMap_append, List.length_append, List.flatMap_singleton]
  bytesSent := by
    rw [hchanges.bytesSent, h.bytesSent, MemoryLink.queued, MemoryLink.queued,
      doings_append_self, List.flatMap_append, List.map_append, List.sum_append,
      List.flatMap_singleton]
  framesDropped := by
    rw [hchanges.framesDropped, h.framesDropped, losses, losses, doings_append_self,
      List.countP_append, List.countP_singleton]
  framesReceived := by
    rw [hchanges.framesReceived, h.framesReceived, answers, answers, doings_append_self,
      List.filterMap_append, List.countP_append]
    cases hanswer : event.answer? <;> simp [hanswer]
  protocolErrors := by
    rw [hchanges.protocolErrors, h.protocolErrors, answers, answers, doings_append_self,
      List.filterMap_append, List.countP_append]
    cases hanswer : event.answer? <;> simp [hanswer]

/-- The counters of an end account for nothing that the other end does. -/
theorem Accounted.opposite {queued : List Bytes} (h : Accounted events l side.opposite)
    (hchanges : l.Changes side event queued l') :
    Accounted (events ++ [⟨side, event, queued⟩]) l' side.opposite := by
  obtain ⟨inbox, hopposite⟩ := hchanges.opposite
  have hdoings := doings_append_opposite side events event queued
  constructor
  · rw [hopposite, gone, hdoings]
    exact h.isOpen
  · rw [hopposite, MemoryLink.demand, hdoings]
    exact h.demand
  · rw [hopposite, MemoryLink.queued, hdoings]
    exact h.framesSent
  · rw [hopposite, MemoryLink.queued, hdoings]
    exact h.bytesSent
  · rw [hopposite, losses, hdoings]
    exact h.framesDropped
  · rw [hopposite, answers, hdoings]
    exact h.framesReceived
  · rw [hopposite, answers, hdoings]
    exact h.protocolErrors

/-- The messages that the other end has put into the link: the first ones were read, in order, and
the others are waiting, as long as the end is there. -/
def Conveyed (events : List Happening) (l : MemoryLink) (side : Side) : Prop :=
  ∃ taken rest, queued side.opposite events = taken ++ rest ∧
    answers side events = taken.map Frame.decode ∧
    ((l.endOn side).isOpen = true → l.arrived side = rest)

/-- An end reads what waits first, and keeps the rest. -/
theorem Conveyed.self {queued : List Bytes} (h : Conveyed events l side)
    (hopen : (l.endOn side).isOpen = true) (hchanges : l.Changes side event queued l') :
    Conveyed (events ++ [⟨side, event, queued⟩]) l' side := by
  obtain ⟨taken, rest, hqueued, hanswers, harrived⟩ := h
  have hqueued' : MemoryLink.queued side.opposite (events ++ [⟨side, event, queued⟩]) =
      taken ++ rest := by
    rw [MemoryLink.queued, doings_append_opposite]
    exact hqueued
  have hanswers' : answers side (events ++ [⟨side, event, queued⟩]) =
      taken.map Frame.decode ++ event.answer?.toList := by
    rw [answers, doings_append_self, List.filterMap_append, ← answers, hanswers]
    cases hanswer : event.answer? <;> simp [hanswer]
  cases hremoval : event.isRemoval with
  | true =>
    have hanswer : event.answer? = none := by
      cases event with
      | remove => rfl
      | _ => cases hremoval
    refine ⟨taken, rest, hqueued', ?_, fun hstays => ?_⟩
    · rw [hanswers', hanswer, Option.toList_none, List.append_nil]
    · rw [hchanges.isOpen, hremoval, Bool.not_true, Bool.and_false] at hstays
      cases hstays
  | false =>
    obtain ⟨read, hsplit, hread⟩ := hchanges.taken hremoval
    refine ⟨taken ++ read, l'.arrived side, ?_, ?_, fun _ => rfl⟩
    · rw [hqueued', ← harrived hopen, hsplit, List.append_assoc]
    · rw [hanswers', hread, List.map_append]

/-- What is put into the link waits behind what waits there. -/
theorem Conveyed.opposite {queued : List Bytes} (h : Conveyed events l side.opposite)
    (hchanges : l.Changes side event queued l') :
    Conveyed (events ++ [⟨side, event, queued⟩]) l' side.opposite := by
  obtain ⟨taken, rest, hqueued, hanswers, harrived⟩ := h
  rw [Side.opposite_opposite] at hqueued
  refine ⟨taken, rest ++ queued, ?_, ?_, fun hopen => ?_⟩
  · rw [Side.opposite_opposite, MemoryLink.queued, doings_append_self, List.flatMap_append,
      ← MemoryLink.queued, hqueued, List.flatMap_singleton, List.append_assoc]
  · rw [answers, doings_append_opposite]
    exact hanswers
  · obtain ⟨inbox, hopposite⟩ := hchanges.opposite
    rw [hopposite] at hopen
    rw [hchanges.put, harrived hopen]

/-- What happens on either side keeps what holds of both. -/
theorem Run.accounted_conveyed (hrun : Run reliable events l) (side : Side) :
    Accounted events l side ∧ Conveyed events l side := by
  induction hrun generalizing side with
  | new =>
    refine ⟨?_, [], [], rfl, rfl, fun _ => ?_⟩
    · cases side <;> exact ⟨rfl, rfl, rfl, rfl, rfl, rfl, rfl⟩
    · cases side <;> rfl
  | @step events l l' acting event queued _ hopen hperforms hput ih =>
    have hchanges := hperforms.changes hput
    by_cases hside : side = acting
    · subst hside
      exact ⟨(ih side).1.self hchanges, (ih side).2.self hopen hchanges⟩
    · obtain rfl := eq_opposite_of_ne hside
      exact ⟨(ih _).1.opposite hchanges, (ih _).2.opposite hchanges⟩

/-- What becomes of the next frame that an end sends, by the losses that are demanded of it. -/
structure Obeys (d : Demand) (isGone : Bool) (l : MemoryLink) (side : Side) (header : Header)
    (payload : Bytes) : Prop where
  /-- What cannot be written is refused, and changes nothing. -/
  malformed : ∀ cause, Frame.encode header payload = .error cause →
    l.send side header payload = (.error (.protocol cause), l)
  /-- Only a loss that is demanded makes a send end well and put nothing into the link. -/
  lost_iff : ∀ message, Frame.encode header payload = .ok message →
    (d.Loses ↔ (l.send side header payload).1 = .ok () ∧
      (l.send side header payload).2.arrived side.opposite = l.arrived side.opposite)
  /-- A loss is counted and uses up what was demanded, and changes nothing else. -/
  lost : ∀ message, Frame.encode header payload = .ok message → d.Loses →
    (l.send side header payload).2 =
      l.update side fun e => { e with dropNext := d.spent.next, stats := e.stats.dropped }
  /-- What is not to be lost is refused if the other end is gone, and changes nothing. -/
  gone : ∀ message, Frame.encode header payload = .ok message → ¬ d.Loses → isGone = true →
    l.send side header payload = (.error peerGone, l)
  /-- Else it waits at the other end. -/
  whole : ∀ message, Frame.encode header payload = .ok message → ¬ d.Loses → isGone = false →
    (l.send side header payload).1 = .ok () ∧
      (l.send side header payload).2.arrived side.opposite = l.arrived side.opposite ++ [message]

/-- A message for an end that is open waits there behind all others. -/
theorem sendRaw_arrived_of_open (hopen : (l.endOn side.opposite).isOpen = true) :
    (l.sendRaw side message).1 = .ok () ∧
      (l.sendRaw side message).2.arrived side.opposite = l.arrived side.opposite ++ [message] := by
  rw [sendRaw_of_open hopen]
  simp [arrived]

/-- Sending does what was asked for. -/
theorem obeys_send (l : MemoryLink) (side : Side) (header : Header) (payload : Bytes) :
    Obeys (MemoryEnd.demand (l.endOn side)) (!(l.endOn side.opposite).isOpen) l side header
      payload where
  malformed _ hencode := send_of_error hencode
  lost_iff message hencode := by
    constructor
    · intro hloses
      rw [send_of_loses hencode hloses]
      exact ⟨rfl, by simp [arrived]⟩
    · rintro ⟨hresult, hsame⟩
      by_contra hkeeps
      rw [send_of_not_loses hencode hkeeps] at hresult hsame
      by_cases hopen : (l.endOn side.opposite).isOpen = true
      · rw [(sendRaw_arrived_of_open hopen).2] at hsame
        simp at hsame
      · rw [sendRaw_of_gone (by simpa using hopen)] at hresult
        cases hresult
  lost message hencode hloses := by
    rw [send_of_loses hencode hloses]
    cases side <;> rfl
  gone message hencode hkeeps hgone := by
    rw [send_of_not_loses hencode hkeeps, sendRaw_of_gone (by simpa using hgone)]
  whole message hencode hkeeps hthere := by
    rw [send_of_not_loses hencode hkeeps]
    exact sendRaw_arrived_of_open (by simpa using hthere)

/-- Whatever both ends of a link have done, with whatever losses were demanded in between. What an
end has received are the readings of the messages that the other end has put into the link, in
order, and the next receive reads the next one, as long as one is waiting. The next frame is lost
exactly if that is demanded, and then counts as sent well. While the other end is there, the frames
that an end has sent are those that were received or rejected there or are still waiting; its bytes
are those of all messages that it has put into the link, and its lost frames those that were sent
well and put nothing there. A frame that cannot be written, or finds the other end gone, changes
nothing. -/
theorem Run.conserves_frames (hrun : Run reliable events l) (side : Side) :
    (∃ taken rest, queued side.opposite events = taken ++ rest ∧
      answers side events = taken.map Frame.decode ∧
      (gone side events = false → l.arrived side = rest)) ∧
    (∀ message rest, l.arrived side = message :: rest →
      (Event.receive (l.receive side).1).answer? = some (Frame.decode message)) ∧
    (l.arrived side = [] → (l.receive side).1 =
      if gone side.opposite events then .error peerGone else .ok none) ∧
    (∀ header payload,
      Obeys (demand side events) (gone side.opposite events) l side header payload) ∧
    (∀ message, gone side.opposite events = true →
      l.sendRaw side message = (.error peerGone, l)) ∧
    (∀ message, gone side.opposite events = false → (l.sendRaw side message).1 = .ok () ∧
      (l.sendRaw side message).2.arrived side.opposite = l.arrived side.opposite ++ [message]) ∧
    (gone side.opposite events = false → (l.endOn side).stats.framesSent =
      (l.endOn side.opposite).stats.framesReceived +
        (l.endOn side.opposite).stats.protocolErrors + (l.arrived side.opposite).length) ∧
    (l.endOn side).stats.bytesSent = ((queued side events).map List.length).sum ∧
    (l.endOn side).stats.framesDropped = losses side events := by
  obtain ⟨haccounted, hconveyed⟩ := hrun.accounted_conveyed side
  obtain ⟨hpeer, hsent⟩ := hrun.accounted_conveyed side.opposite
  have hgone : gone side.opposite events = !(l.endOn side.opposite).isOpen := by
    rw [hpeer.isOpen, Bool.not_not]
  have hopen : (l.endOn side).isOpen = !gone side events := haccounted.isOpen
  refine ⟨?_, ?_, ?_, ?_, ?_, ?_, ?_, haccounted.bytesSent, haccounted.framesDropped⟩
  · obtain ⟨taken, rest, hqueued, hanswers, harrived⟩ := hconveyed
    exact ⟨taken, rest, hqueued, hanswers, fun hthere => harrived (by rw [hopen, hthere]; rfl)⟩
  · intro message rest hwaiting
    have hreceives := l.receives_receive side
    generalize l.receive side = received at hreceives
    cases hreceives with
    | frame holdest hdecode | malformed holdest hdecode =>
      obtain ⟨rfl, -⟩ := List.cons.inj (hwaiting.symm.trans holdest)
      rw [hdecode]
      rfl
    | nothing hempty | gone hempty => cases hwaiting.symm.trans hempty
  · intro hwaiting
    rw [hgone]
    have hreceives := l.receives_receive side
    generalize l.receive side = received at hreceives
    cases hreceives with
    | frame holdest | malformed holdest => cases hwaiting.symm.trans holdest
    | nothing _ hthere => rw [hthere]; rfl
    | gone _ hthere => rw [hthere]; rfl
  · intro header payload
    rw [hgone, ← haccounted.demand]
    exact l.obeys_send side header payload
  · intro message hthere
    exact sendRaw_of_gone (by simpa [hgone] using hthere)
  · intro message hthere
    exact sendRaw_arrived_of_open (by simpa [hgone] using hthere)
  · intro hthere
    obtain ⟨taken, rest, hqueued, hanswers, harrived⟩ := hsent
    rw [Side.opposite_opposite] at hqueued
    rw [harrived (by rw [hpeer.isOpen, hthere]; rfl), haccounted.framesSent, hpeer.framesReceived,
      hpeer.protocolErrors, hqueued, List.length_append, hanswers]
    congr 1
    rw [← List.length_map Frame.decode, List.length_eq_countP_add_countP (·.isOk)]
    simp

/-- One end is told to lose a frame, and then sends that frame, two bytes that are none, and a frame
that waits while the two bytes are rejected. -/
theorem Run.conserves_frames_of_loss_and_garbage :
    let f : Frame := ⟨.new 7 1 1, [5]⟩
    let short : FrameError := .truncated 8 2
    ∃ l, Run false
      [⟨.near, .dropNext 1, []⟩, ⟨.near, .send f.header f.payload (.ok ()), []⟩,
        ⟨.near, .sendRaw [1, 2] (.ok ()), [[1, 2]]⟩,
        ⟨.near, .send f.header f.payload (.ok ()), [f.bytes]⟩,
        ⟨.far, .receive (.error (.protocol short)), []⟩] l ∧
      l.arrived .far = [f.bytes] ∧ (l.endOn .near).stats.framesSent = 0 + 1 + 1 ∧
      (l.endOn .near).stats.bytesSent = 2 + f.bytes.length ∧
      (l.endOn .near).stats.framesDropped = 1 := by
  intro f short
  have hencode : Frame.encode f.header f.payload = .ok f.bytes :=
    Frame.Whole.encode_eq ⟨rfl, rfl⟩
  let asked : MemoryLink := ({} : MemoryLink).setDropNext .near 1
  let lost : MemoryLink := asked.update .near MemoryEnd.afterLoss
  let raw : MemoryLink := (lost.sendRaw .near [1, 2]).2
  let whole : MemoryLink := (raw.sendRaw .near f.bytes).2
  have hlost : asked.send .near f.header f.payload = (.ok (), lost) :=
    send_of_loses hencode (.inr Nat.one_pos)
  have hwhole : raw.send .near f.header f.payload = (.ok (), whole) :=
    send_of_not_loses hencode (by rintro (hall | hnext) <;> contradiction)
  have hloses : asked.Performs .near (.send f.header f.payload (.ok ())) lost := by
    have hsend : asked.Performs .near _ _ := .send f.header f.payload
    rwa [hlost] at hsend
  have hqueues : raw.Performs .near (.send f.header f.payload (.ok ())) whole := by
    have hsend : raw.Performs .near _ _ := .send f.header f.payload
    rwa [hwhole] at hsend
  have hreads : whole.Performs .far (.receive (.error (.protocol short))) _ := .receive
  have hrun : Run false
      [⟨.near, .dropNext 1, []⟩, ⟨.near, .send f.header f.payload (.ok ()), []⟩,
        ⟨.near, .sendRaw [1, 2] (.ok ()), [[1, 2]]⟩,
        ⟨.near, .send f.header f.payload (.ok ()), [f.bytes]⟩] whole :=
    (((Run.new.step rfl (.dropNext 1) (List.append_nil _).symm).step rfl hloses
      (List.append_nil _).symm).step rfl (.sendRaw [1, 2]) rfl).step rfl hqueues rfl
  have hreceived := hrun.step rfl hreads (List.append_nil _).symm
  obtain ⟨-, -, -, -, -, -, hsent, hbytes, hdropped⟩ := hreceived.conserves_frames .near
  exact ⟨_, hreceived, rfl, hsent rfl, hbytes, hdropped⟩

end Courier.MemoryLink
