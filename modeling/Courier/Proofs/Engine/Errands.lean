import Courier.Engine.Remote
import Courier.Proofs.Engine.Service
import Courier.Proofs.Engine.Waiting
import Courier.Proofs.Link.Lossless
import Courier.Proofs.Wire.Codec

/-!
# The two ends of a call

An engine that calls an endpoint behind another engine keeps a record of the call, and with a retry
layer also a copy, until its acknowledgment is handled. The other engine acknowledges the call,
tells it from its repetitions and invokes the endpoint. What one call, one acknowledgment and one
scan do to the two engines is stated here for a carrier that takes what it is handed.
-/

namespace Courier

/-- A call of an endpoint behind an engine, with an argument of some kind and the serializer for
it. -/
structure RemoteCall {κ : Type} (Value : κ → Type) where
  id : UInt16
  argument : Argument Value
  serializer : Serializer (Value argument.kind)

/-- A call that was sent, with its number and its payload. -/
structure Errand {κ : Type} (Value : κ → Type) where
  call : RemoteCall Value
  seq : UInt16
  payload : Bytes

variable {κ : Type} {Value : κ → Type}

namespace Errand

/-- The frame in which a call travels. -/
def frame (x : Errand Value) : Frame :=
  ⟨.new x.call.id x.seq (UInt16.ofNat x.payload.length), x.payload⟩

/-- The acknowledgment of a call. -/
def ack (x : Errand Value) : Frame := ⟨.ack x.seq, []⟩

/-- What an endpoint is called with. -/
def received (x : Errand Value) : UInt16 × Argument Value := (x.call.id, x.call.argument)

/-- The outcome that is published of a call that has arrived. -/
def success (x : Errand Value) : DeliveryStatus := ⟨x.call.id, x.seq, .success⟩

/-- An acknowledgment is read from what it travels as. -/
theorem whole_ack (x : Errand Value) : x.ack.Whole := ⟨rfl, rfl⟩

end Errand

/-- A target whose calls are written down. -/
def Invoker.noting {ρ : Type} (id : UInt16) (kind : κ) (target : Value kind → ρ → Response × ρ) :
    Value kind → ρ × List (UInt16 × Argument Value) →
      Response × (ρ × List (UInt16 × Argument Value)) :=
  fun v (outside, received) =>
    let (response, outside) := target v outside
    (response, (outside, received ++ [(id, ⟨kind, v⟩)]))

/-- A call for which there is an endpoint, with an argument that fits into a frame and is read as
it was written. -/
structure RemoteCall.Deliverable {ρ : Type}
    (registry : Registry (ρ × List (UInt16 × Argument Value))) (payload : Bytes)
    (call : RemoteCall Value) : Prop where
  allowed : Engine.checkEndpoint call.id = .ok ()
  endpoint : ∃ target : Value call.argument.kind → ρ → Response × ρ,
    registry.get? call.id = some (.decoding call.serializer
      (Invoker.noting call.id call.argument.kind target))
  written : call.serializer.encode call.argument.value = .ok payload
  fits : payload.length ≤ maxPayload
  read : call.serializer.read payload = .ok call.argument.value

/-- A call that was sent and can be delivered. -/
def Errand.Deliverable {ρ : Type} (registry : Registry (ρ × List (UInt16 × Argument Value)))
    (x : Errand Value) : Prop := x.call.Deliverable registry x.payload

namespace Errand

variable {ρ : Type} {registry : Registry (ρ × List (UInt16 × Argument Value))} {x : Errand Value}

/-- Calls do not go to the endpoint of acknowledgments. -/
theorem Deliverable.ne_ackId (h : x.Deliverable registry) : x.call.id ≠ ackId := by
  intro hid
  have hallowed := h.allowed
  rw [Engine.checkEndpoint, if_pos hid] at hallowed
  cases hallowed

/-- What is delivered is no acknowledgment. -/
theorem Deliverable.isAck_frame (h : x.Deliverable registry) : x.frame.header.isAck = false := by
  simpa [frame, Header.isAck, Header.new] using h.ne_ackId

/-- What is delivered can be read off the link again. -/
theorem Deliverable.whole_frame (h : x.Deliverable registry) : x.frame.Whole :=
  ⟨rfl, (Frame.toNat_length_new x.call.id x.seq h.fits).symm⟩

end Errand

/-! ## Maps with these keys -/

/-- A map with entries under these numbers. -/
structure Covers {β : Type} (m : Std.ExtTreeMap UInt16 β) (seqs : List UInt16) : Prop where
  mem_iff : ∀ seq, seq ∈ m ↔ seq ∈ seqs
  size_eq : m.size = seqs.length

namespace Covers

variable {β : Type} {m : Std.ExtTreeMap UInt16 β} {seqs : List UInt16} {seq : UInt16}

/-- A map without keys has no numbers. -/
theorem empty : Covers (∅ : Std.ExtTreeMap UInt16 β) [] := ⟨by simp, by simp⟩

/-- A new key comes last among the numbers. -/
theorem insert (h : Covers m seqs) (hnew : seq ∉ seqs) (b : β) :
    Covers (m.insert seq b) (seqs ++ [seq]) := by
  constructor
  · intro other
    rw [Std.ExtTreeMap.mem_insert, h.mem_iff, List.mem_append, List.mem_singleton,
      Std.LawfulEqCmp.compare_eq_iff_eq, or_comm, eq_comm]
  · have hmem : seq ∉ m := fun hmem => hnew ((h.mem_iff seq).mp hmem)
    rw [Std.ExtTreeMap.size_insert, if_neg (mt Std.ExtTreeMap.mem_iff_contains.mpr hmem), h.size_eq,
      List.length_append, List.length_singleton]

/-- The first number is taken out with its key. -/
theorem erase (h : Covers m (seq :: seqs)) (hnew : seq ∉ seqs) : Covers (m.erase seq) seqs := by
  constructor
  · intro other
    have hiff := h.mem_iff other
    rw [List.mem_cons] at hiff
    rw [Std.ExtTreeMap.mem_erase, hiff, ne_eq, Std.LawfulEqCmp.compare_eq_iff_eq]
    constructor
    · rintro ⟨hne, rfl | hmem⟩
      · exact absurd rfl hne
      · exact hmem
    · intro hmem
      refine ⟨?_, .inr hmem⟩
      rintro rfl
      exact hnew hmem
  · have hmem : seq ∈ m := (h.mem_iff seq).mpr List.mem_cons_self
    rw [Std.ExtTreeMap.size_erase, if_pos (Std.ExtTreeMap.mem_iff_contains.mp hmem), h.size_eq,
      List.length_cons]
    rfl

end Covers

/-! ## The layers -/

/-- What is erased is not late. -/
theorem Tracker.overdue_erase_eq_nil {t : Tracker} {seq : UInt16} {now : Time}
    (h : t.overdue now = []) : (t.erase seq).overdue now = [] := by
  refine List.eq_nil_iff_forall_not_mem.mpr ?_
  rintro ⟨other, record⟩ hmem
  obtain ⟨hrecord, hlate⟩ := mem_overdue.mp hmem
  rw [getElem?_erase] at hrecord
  split at hrecord
  · cases hrecord
  · have hmem' : (other, record) ∈ t.overdue now := mem_overdue.mpr ⟨hrecord, hlate⟩
    rw [h] at hmem'
    cases hmem'

/-- Layers whose outcomes reach the engine alone, from the last of them. -/
inductive Setup.Plain : Setup Unit → Prop
  | tracked {timeout : Duration} : Plain ⟨timeout, [.outside ()], none⟩
  | reliable {timeout : Duration} {retries : UInt32} :
      Plain ⟨timeout, [.retryLayer], some (retries, [()])⟩

namespace Outbound

variable {σ : Type} {o : Outbound σ Unit} {c : Carrier σ} {clock : Time} {header : Header}
  {payload : Bytes} {medium : σ} {status : DeliveryStatus}

/-- Without a retry layer there are no copies to change. -/
theorem mapEntries_of_retry_eq_none (hr : o.retry = none)
    (f : Std.ExtTreeMap UInt16 RetryEntry → Std.ExtTreeMap UInt16 RetryEntry) :
    o.mapEntries f = o := by
  rw [mapEntries, hr, Option.map_none, ← hr]

/-- Of a frame that has arrived the retry layer keeps no copy, and the engine hears once. -/
theorem publish_of_plain (h : o.setup.Plain) (hs : status.outcome = .success) :
    o.publish c clock status = (o.mapEntries (·.erase status.seq)).hear () status := by
  generalize hsetup : o.setup = w at h
  rw [publish_eq_foldl]
  cases h with
  | tracked =>
    have hhandlers : o.status.handlers = [.outside ()] := congrArg Setup.tracker hsetup
    have hr : o.retry = none := Option.map_eq_none_iff.mp (congrArg Setup.retry hsetup)
    rw [hhandlers, mapEntries_of_retry_eq_none hr]
    rfl
  | reliable =>
    have hhandlers : o.status.handlers = [.retryLayer] := congrArg Setup.tracker hsetup
    obtain ⟨r, hr, hlisteners⟩ := Option.map_eq_some_iff.mp (congrArg Setup.retry hsetup)
    have hlistener : r.status.handlers = [()] := (Prod.mk.inj hlisteners).2
    have hheard (o' : Outbound σ Unit) (r' : RetryLayer Unit) (hr' : o'.retry = some r')
        (hsame : r'.status = r.status) : o'.publishFinal status = o'.hear () status := by
      rw [publishFinal, hr']
      dsimp only
      rw [Signal.emit_eq_foldl, hsame, hlistener]
      rfl
    rw [hhandlers, List.foldl_cons, List.foldl_nil, react, onStatus, hs]
    refine hheard _ { r with entries := r.entries.erase status.seq } ?_ rfl
    rw [mapEntries, hr]
    rfl

/-- What the layers hold does not matter to how they are put together. -/
theorem setup_of_timeout_eq
    {f : Std.ExtTreeMap UInt16 RetryEntry → Std.ExtTreeMap UInt16 RetryEntry}
    {tracker : Tracker} (h : tracker.timeout = o.tracker.timeout) :
    { o.mapEntries f with tracker, medium }.setup = o.setup := by
  simp [setup, mapEntries, h, Function.comp_def]

/-- What a carrier takes is tracked, and a copy is kept if there is a retry layer. -/
theorem sendReliable_of_taken (hack : header.isAck = false)
    (hsend : c.send header payload o.medium = (.ok (), medium)) :
    o.sendReliable c clock header payload = (.ok (),
      { o.mapEntries (·.insert header.seq ⟨header, payload, o.retries⟩) with
        tracker := o.tracker.add header.seq header.id clock
        medium }) := by
  have hmedium : c.send header payload
      (o.mapEntries (·.insert header.seq ⟨header, payload, o.retries⟩)).medium =
        (.ok (), medium) := hsend
  rw [sendReliable_eq hack]
  dsimp only
  rw [sendTracked_eq hack, hmedium]
  rfl

end Outbound

namespace Engine

variable {σ ρ : Type} {e : Engine σ ρ} {c : Carrier σ} {now clock : Time}
  {waiting : List (Errand Value)}
  {x : Errand Value} {medium : σ}

/-- Lends an engine another state of its transport. -/
def lend (medium : σ) (e : Engine σ ρ) : Engine σ ρ :=
  { e with outbound := { e.outbound with medium } }

/-- An engine that receives passes on what its transport has for it. -/
theorem receive_of_ok {frame? : Option Frame}
    (h : c.receive e.outbound.medium = (.ok frame?, medium)) :
    e.receive c = (frame?, e.lend medium) := by
  rw [receive, h]
  rfl

/-- An engine to which a transport is attached, and that has passed on what it has heard. -/
structure Wired (e : Engine σ ρ) : Prop where
  plain : e.outbound.setup.Plain
  layer : e.dispatcher.layer = some (if e.outbound.setup.retry.isSome then .reliable else .tracked)
  heard : e.outbound.heard = []
  initialized : e.isInitialized = true

/-- A scan that finds no late frame changes nothing. -/
theorem scan_of_overdue_eq_nil {clock : UInt16 → Time} (hheard : e.outbound.heard = [])
    (hlate : e.outbound.tracker.overdue now = []) : (e.scan c now clock).2 = e := by
  have hscan : e.outbound.scan c now clock = (0, e.outbound) := by
    rw [Outbound.scan_eq, hlate]
    rfl
  rw [scan, hscan]
  exact Hall.absorb_of_heard_nil hheard

/-- An outcome of which the engine hears is published. -/
theorem absorb_hear {o : Outbound σ Unit} {status : DeliveryStatus} (hheard : o.heard = []) :
    { e with outbound := o.hear () status }.absorb = { e with
      outbound := o
      waiters := e.waiters.complete status
      delivered := e.delivered ++ [status] } := by
  have houtbound : { o with heard := [] } = o := by rw [← hheard]
  simp only [absorb, Outbound.hear, hheard, houtbound, List.nil_append, List.map_cons,
    List.map_nil, List.foldl_cons, List.foldl_nil]

/-- The engine after the success of a frame: no record and no copy of it are left, and the success
is published. -/
def concluded (status : DeliveryStatus) (e : Engine σ ρ) : Engine σ ρ :=
  { e with
    outbound := {
      e.outbound.mapEntries (·.erase status.seq) with
      tracker := e.outbound.tracker.erase status.seq }
    waiters := e.waiters.complete status
    delivered := e.delivered ++ [status] }

/-- An acknowledgment ends the wait for it, which is published. -/
theorem Wired.acknowledge_eq (h : e.Wired) {seq : UInt16} {record : InFlight}
    (hrecord : e.outbound.tracker.pending[seq]? = some record) :
    e.acknowledge c clock seq = e.concluded ⟨record.endpoint, seq, .success⟩ := by
  let status : DeliveryStatus := ⟨record.endpoint, seq, .success⟩
  have hpublish : ({ e.outbound with tracker := e.outbound.tracker.erase seq }).publish c clock
      status = (({ e.outbound with tracker := e.outbound.tracker.erase seq }).mapEntries
        (·.erase seq)).hear () status :=
    Outbound.publish_of_plain h.plain rfl
  have hoperation : (e.outbound.acknowledge c clock seq).2 =
      (({ e.outbound with tracker := e.outbound.tracker.erase seq }).mapEntries
        (·.erase seq)).hear () status := by
    simp only [Outbound.acknowledge, TrackerHost.acknowledge, Outbound.host, Tracker.settle,
      hrecord]
    exact hpublish
  rw [acknowledge, hoperation]
  exact absorb_hear h.heard

/-- An acknowledgment for which nobody waits changes nothing. -/
theorem acknowledge_of_untracked {seq : UInt16} (hheard : e.outbound.heard = [])
    (hnone : e.outbound.tracker.pending[seq]? = none) : e.acknowledge c clock seq = e := by
  have hoperation : (e.outbound.acknowledge c clock seq).2 = e.outbound := by
    simp only [Outbound.acknowledge, TrackerHost.acknowledge, Outbound.host, Tracker.settle, hnone]
  rw [acknowledge, hoperation]
  exact Hall.absorb_of_heard_nil hheard

/-- Whatever the layers are, a payload that fits goes through all of them. -/
theorem sendOn_eq {id : UInt16} (seq : UInt16) {payload : Bytes} (hid : id ≠ ackId)
    (hfits : payload.length ≤ maxPayload) :
    Dispatcher.sendOn (layers c clock)
        (if e.outbound.setup.retry.isSome then .reliable else .tracked) id seq payload e.outbound =
      e.outbound.sendReliable c clock (.new id seq (UInt16.ofNat payload.length)) payload := by
  rw [Dispatcher.sendOn, if_neg hid, Header.forPayload, if_pos hfits]
  cases hr : e.outbound.retry with
  | none =>
    have hnone : e.outbound.setup.retry.isSome = false := by simp [Outbound.setup, hr]
    rw [hnone, Outbound.sendReliable_of_retry_eq_none hr]
    rfl
  | some r =>
    have hsome : e.outbound.setup.retry.isSome = true := by simp [Outbound.setup, hr]
    rw [hsome]
    rfl

/-! ## The end that calls -/

/-- An engine that waits for the acknowledgments of these calls. -/
structure Awaits (waiting : List (Errand Value)) (e : Engine σ ρ) : Prop where
  wired : e.Wired
  pending : Covers e.outbound.tracker.pending (waiting.map Errand.seq)
  copies : ∀ r, e.outbound.retry = some r → Covers r.entries (waiting.map Errand.seq)
  endpoint : ∀ x ∈ waiting, ∃ sentAt,
    e.outbound.tracker.pending[x.seq]? = some ⟨x.call.id, sentAt⟩

/-- Who waits for acknowledgments does so over whatever link is lent. -/
theorem Awaits.lend (h : e.Awaits waiting) (medium : σ) : (e.lend medium).Awaits waiting :=
  ⟨⟨h.wired.plain, h.wired.layer, h.wired.heard, h.wired.initialized⟩, h.pending, h.copies,
    h.endpoint⟩

/-- Whoever waits has one frame in flight. -/
theorem Awaits.inFlight_eq (h : e.Awaits waiting) : e.inFlight = waiting.length := by
  rw [inFlight, h.pending.size_eq, List.length_map]

/-- With a retry layer it has one copy besides. -/
theorem Awaits.retryPending_eq (h : e.Awaits waiting) :
    e.retryPending = if e.outbound.retry.isSome then waiting.length else 0 := by
  rw [retryPending, Outbound.held]
  cases hr : e.outbound.retry with
  | none => rfl
  | some r =>
    have hsize := (h.copies r hr).size_eq
    rw [List.length_map] at hsize
    exact hsize

/-- The engine after a call that its transport has taken. -/
def called (x : Errand Value) (clock : Time) (medium : σ) (e : Engine σ ρ) : Engine σ ρ :=
  { e with
    outbound := {
      e.outbound.mapEntries (·.insert x.seq ⟨x.frame.header, x.payload, e.outbound.retries⟩) with
      tracker := e.outbound.tracker.add x.seq x.call.id clock
      medium }
    dispatcher := e.dispatcher.draw.2 }

/-- A call is sent under the next number. -/
theorem Wired.callRemote_eq {ρ' : Type} {registry : Registry (ρ' × List (UInt16 × Argument Value))}
    (h : e.Wired) (hserved : x.Deliverable registry) (hseq : x.seq = e.dispatcher.sequence.upcoming)
    (hsend : c.send x.frame.header x.frame.payload e.outbound.medium = (.ok (), medium)) :
    e.callRemote c clock x.call.serializer x.call.argument.value x.call.id =
      (.ok x.seq, e.called x clock medium) := by
  let request : Request :=
    { id := x.call.id, content := .argument (x.call.serializer.encode x.call.argument.value) }
  have hencode : e.payloadOf request = (.ok x.payload, e) := by
    simp only [payloadOf, request, hserved.written]
    rfl
  have hlayers : Dispatcher.sendOn (layers c clock)
      (if e.outbound.setup.retry.isSome then .reliable else .tracked) x.call.id x.seq x.payload
        e.outbound = (.ok (), (e.called x clock medium).outbound) := by
    rw [sendOn_eq x.seq hserved.ne_ackId hserved.fits]
    exact Outbound.sendReliable_of_taken hserved.isAck_frame hsend
  have hdispatch : e.dispatcher.dispatch (layers c clock) x.call.id x.payload e.outbound =
      (.ok x.seq, e.dispatcher.draw.2, (e.called x clock medium).outbound) := by
    simp only [Dispatcher.dispatch, h.layer, Dispatcher.draw, Sequence.draw, ← hseq, hlayers]
  have habsorb : (e.called x clock medium).absorb = e.called x clock medium :=
    Hall.absorb_of_heard_nil h.heard
  have hask : e.callRemote c clock x.call.serializer x.call.argument.value x.call.id =
      e.send c clock x.call.id x.payload := by
    change e.ask c clock request = _
    rw [ask, hencode]
    rfl
  rw [hask, send, hdispatch]
  exact congrArg (Prod.mk _) habsorb

/-- A call under a number that is not in use is one more to wait for. -/
theorem Awaits.called {ρ' : Type} {registry : Registry (ρ' × List (UInt16 × Argument Value))}
    (h : e.Awaits waiting) (hserved : x.Deliverable registry)
    (hnew : x.seq ∉ waiting.map Errand.seq) :
    (e.called x clock medium).Awaits (waiting ++ [x]) := by
  have htracker : (e.called x clock medium).outbound.tracker.pending =
      e.outbound.tracker.pending.insert x.seq ⟨x.call.id, clock⟩ := by
    change (e.outbound.tracker.add x.seq x.call.id clock).pending = _
    rw [Tracker.add, if_neg hserved.ne_ackId]
  have hsetup : (e.called x clock medium).outbound.setup = e.outbound.setup :=
    Outbound.setup_of_timeout_eq Tracker.timeout_add
  refine ⟨⟨?_, ?_, h.wired.heard, h.wired.initialized⟩, ?_, ?_, ?_⟩
  · rw [hsetup]
    exact h.wired.plain
  · rw [hsetup]
    exact h.wired.layer
  · rw [htracker, List.map_append]
    exact h.pending.insert hnew _
  · intro r hr
    obtain ⟨r', hr', rfl⟩ := Option.map_eq_some_iff.mp hr
    rw [List.map_append]
    exact (h.copies r' hr').insert hnew _
  · intro y hy
    have hget := @Tracker.getElem?_add e.outbound.tracker x.seq y.seq x.call.id clock
      hserved.ne_ackId
    change ∃ sentAt, (e.outbound.tracker.add x.seq x.call.id clock).pending[y.seq]? = _
    rw [hget]
    rcases List.mem_append.mp hy with hy | hy
    · have hne : x.seq ≠ y.seq := by
        intro hsame
        refine hnew ?_
        rw [hsame]
        exact List.mem_map_of_mem hy
      rw [if_neg hne]
      exact h.endpoint y hy
    · obtain rfl := List.mem_singleton.mp hy
      rw [if_pos rfl]
      exact ⟨clock, rfl⟩

/-- The engine after the acknowledgment of a call for which it has waited. -/
def settled (x : Errand Value) (e : Engine σ ρ) : Engine σ ρ :=
  { e with
    outbound := {
      e.outbound.mapEntries (·.erase x.seq) with
      tracker := e.outbound.tracker.erase x.seq }
    waiters := e.waiters.complete x.success
    delivered := e.delivered ++ [x.success] }

/-- The acknowledgment of a call ends the wait for it, which is published. -/
theorem Awaits.handle_ack (h : e.Awaits waiting) (hx : x ∈ waiting) :
    e.handleFrame c clock x.ack = e.settled x := by
  obtain ⟨sentAt, hrecord⟩ := h.endpoint x hx
  have hack : x.ack.header.isAck = true := rfl
  rw [handleFrame, if_pos hack]
  exact h.wired.acknowledge_eq hrecord

/-- Once the first acknowledgment is handled, the others are still waited for. -/
theorem Awaits.settled (h : e.Awaits (x :: waiting)) (hnew : x.seq ∉ waiting.map Errand.seq) :
    (e.settled x).Awaits waiting := by
  have hsetup : (e.settled x).outbound.setup = e.outbound.setup :=
    Outbound.setup_of_timeout_eq Tracker.timeout_erase
  refine ⟨⟨?_, ?_, h.wired.heard, h.wired.initialized⟩, ?_, ?_, ?_⟩
  · rw [hsetup]
    exact h.wired.plain
  · rw [hsetup]
    exact h.wired.layer
  · exact h.pending.erase hnew
  · intro r hr
    obtain ⟨r', hr', rfl⟩ := Option.map_eq_some_iff.mp hr
    exact (h.copies r' hr').erase hnew
  · intro y hy
    have hne : x.seq ≠ y.seq := by
      intro hsame
      refine hnew ?_
      rw [hsame]
      exact List.mem_map_of_mem hy
    change ∃ sentAt, (e.outbound.tracker.erase x.seq).pending[y.seq]? = _
    rw [Tracker.getElem?_erase, if_neg hne]
    exact h.endpoint y (List.mem_cons_of_mem x hy)

/-! ## The end that is called -/

section

variable {e : Engine σ (ρ × List (UInt16 × Argument Value))}
  {registry : Registry (ρ × List (UInt16 × Argument Value))} {window : Nat}
  {done : List (Errand Value)}

/-- An engine that has served these calls, one after the other, and has sent nothing but
acknowledgments. -/
structure HasServed (registry : Registry (ρ × List (UInt16 × Argument Value))) (window : Nat)
    (done : List (Errand Value)) (e : Engine σ (ρ × List (UInt16 × Argument Value))) : Prop where
  wired : e.Wired
  acknowledges : e.config.sendAcks = true
  pending : e.outbound.tracker.pending = ∅
  registry_eq : e.registry = registry
  capacity : e.duplicates.capacity = window
  remembers : e.duplicates.Remembers (done.map fun x => x.frame.key)
  received : e.outside.2 = done.map Errand.received

/-- What was served was served, over whatever link is lent. -/
theorem HasServed.lend (h : e.HasServed registry window done) (medium : σ) :
    (e.lend medium).HasServed registry window done :=
  ⟨⟨h.wired.plain, h.wired.layer, h.wired.heard, h.wired.initialized⟩, h.acknowledges, h.pending,
    h.registry_eq, h.capacity, h.remembers, h.received⟩

/-- Nothing is late where nothing is in flight. -/
theorem HasServed.overdue_eq_nil (h : e.HasServed registry window done) (now : Time) :
    e.outbound.tracker.overdue now = [] := by
  simp [Tracker.overdue, h.pending]

/-- A call that is not taken for a repetition is acknowledged and served. -/
theorem HasServed.handle (h : e.HasServed registry window done) (hserved : x.Deliverable registry)
    (hnew : x.frame.key ∉ (done.map fun x => x.frame.key).rtake window)
    (hsend : c.send x.ack.header x.ack.payload e.outbound.medium = (.ok (), medium))
    (clock : Time) :
    (e.handleFrame c clock x.frame).HasServed registry window (done ++ [x]) ∧
      (e.handleFrame c clock x.frame).outbound.medium = medium := by
  have hack : e.sendAck c x.frame.header = e.lend medium := by
    have hraw : e.outbound.sendRaw c (.ack x.frame.header.seq) [] =
        (.ok (), { e.outbound with medium }) := by
      have hsend' : c.send (.ack x.frame.header.seq) [] e.outbound.medium = (.ok (), medium) :=
        hsend
      rw [Outbound.sendRaw, hsend']
    rw [sendAck, h.acknowledges, h.wired.initialized, hraw]
    rfl
  rw [← h.capacity] at hnew
  obtain ⟨duplicates, hcheck, hcapacity, hremembers⟩ := h.remembers.check_of_not_mem hnew
  obtain ⟨target, hendpoint⟩ := hserved.endpoint
  have hinvoker : ({ e.lend medium with duplicates }).registry.get? x.frame.header.id =
      some (.decoding x.call.serializer
        (Invoker.noting x.call.id x.call.argument.kind target)) := by
    rw [← hendpoint, ← h.registry_eq]
    rfl
  have hhandle : e.handleFrame c clock x.frame =
      ({ e.lend medium with duplicates }).invoke x.frame := by
    have hcheck' : (e.lend medium).duplicates.check
        ⟨x.frame.header.id, x.frame.header.seq⟩ = (true, duplicates) := hcheck
    simp only [handleFrame, hserved.isAck_frame, Bool.false_eq_true, if_false, hack, hcheck']
  rw [hhandle]
  have hpayload : x.frame.payload = x.payload := rfl
  simp only [invoke, hinvoker, Invoker.decoding, hpayload, hserved.read, Invoker.noting]
  have hafter (outside : ρ) (errors : List ErrorEvent) :
      ({ e.lend medium with
        duplicates, errors, outside := (outside, e.outside.2 ++ [x.received]) }).HasServed registry
          window (done ++ [x]) := {
    wired := ⟨h.wired.plain, h.wired.layer, h.wired.heard, h.wired.initialized⟩
    acknowledges := h.acknowledges
    pending := h.pending
    registry_eq := h.registry_eq
    capacity := hcapacity.trans h.capacity
    remembers := by
      rw [List.map_append]
      exact hremembers
    received := by rw [h.received, List.map_append]; rfl }
  split
  · exact ⟨hafter _ _, rfl⟩
  · exact ⟨hafter _ _, rfl⟩
  · exact ⟨hafter _ _, rfl⟩

end

/-! ## The beginning -/

/-- Registers endpoints one after the other. -/
def registerAll (endpoints : List (UInt16 × Invoker ρ)) (e : Engine σ ρ) : Engine σ ρ :=
  endpoints.foldl (fun e (id, invoker) => e.register id invoker) e

/-- Registering endpoints changes the registry and nothing else. -/
theorem registerAll_eq (endpoints : List (UInt16 × Invoker ρ)) :
    ∃ registry, e.registerAll endpoints = { e with registry } := by
  induction endpoints generalizing e with
  | nil => exact ⟨e.registry, rfl⟩
  | cons endpoint endpoints ih => exact ih (e := e.register endpoint.1 endpoint.2)

/-- A new engine to which a transport is attached, with any endpoints. -/
structure Fresh (config : EngineConfig) (medium : σ) (outside : ρ) (e : Engine σ ρ) : Prop where
  wired : e.Wired
  config_eq : e.config = config
  medium_eq : e.outbound.medium = medium
  outside_eq : e.outside = outside
  pending : e.outbound.tracker.pending = ∅
  copies : ∀ r, e.outbound.retry = some r → r.entries = ∅
  upcoming : e.dispatcher.sequence.upcoming = 0
  duplicates : e.duplicates = .new config.dedupeWindow.toNat
  delivered : e.delivered = []

/-- An engine with a transport and endpoints that is not used yet is what attaching and registering
give. -/
theorem fresh_of_attach {e' : Engine σ ρ} {config : EngineConfig} {nothing : σ} {outside : ρ}
    (hnew : Engine.new config nothing outside = .ok e)
    (hattach : e.attach c medium = (.ok (), e')) (endpoints : List (UInt16 × Invoker ρ)) :
    (e'.registerAll endpoints).Fresh config medium outside := by
  obtain ⟨registry, hregistry⟩ := registerAll_eq (e := e') endpoints
  rw [hregistry]
  obtain rfl := eq_of_new hnew
  unfold attach build at hattach
  simp only [Bool.false_eq_true, if_false] at hattach
  split at hattach
  · obtain ⟨-, rfl⟩ := Prod.mk.inj hattach
    refine ⟨⟨.tracked, rfl, rfl, rfl⟩, rfl, rfl, rfl, rfl, ?_, rfl, rfl, rfl⟩
    intro r hr
    cases hr
  · obtain ⟨-, rfl⟩ := Prod.mk.inj hattach
    refine ⟨⟨.reliable, rfl, rfl, rfl⟩, rfl, rfl, rfl, rfl, ?_, rfl, rfl, rfl⟩
    intro r hr
    obtain rfl := Option.some.inj hr
    rfl

/-- Nobody waits for anything from an engine that is not used yet. -/
theorem Fresh.awaits {config : EngineConfig} {outside : ρ} (h : e.Fresh config medium outside) :
    e.Awaits ([] : List (Errand Value)) where
  wired := h.wired
  pending := by rw [h.pending]; exact .empty
  copies r hr := by rw [h.copies r hr]; exact .empty
  endpoint x hx := (List.not_mem_nil hx).elim

/-- An engine that is not used yet has served nothing. -/
theorem Fresh.hasServed {e : Engine σ (ρ × List (UInt16 × Argument Value))} {config : EngineConfig}
    {outside : ρ} (h : e.Fresh config medium (outside, [])) (hacks : config.sendAcks = true) :
    e.HasServed e.registry config.dedupeWindow.toNat [] where
  wired := h.wired
  acknowledges := by rw [h.config_eq, hacks]
  pending := h.pending
  registry_eq := rfl
  capacity := by rw [h.duplicates]; rfl
  remembers := by rw [h.duplicates]; exact DuplicateFilter.remembers_new _
  received := by rw [h.outside_eq]; rfl

end Engine

end Courier
