import Courier.Engine.Inbound
import Courier.Link.Memory
import Courier.Proofs.Delivery.Runs
import Mathlib.Data.List.Nodup

/-!
# What engines do

An engine sends, scans for late frames, and handles the frames that reach it. Seen from one
sequence number, a deed of an engine sends a frame under it, confirms one that has arrived, or
continues or ends the wait for an acknowledgment.
-/

namespace Courier

namespace Slice

variable {timeout : Duration} {seq : UInt16} {op : Outbound.Operation} {v v' : Slice}
  {l : List DeliveryStatus}

/-- A slice with outcomes that were published earlier. -/
def after (l : List DeliveryStatus) (v : Slice) : Slice := { v with told := l ++ v.told }

/-- It does not matter whether an outcome is told before or after what was published earlier is put
in front. -/
@[simp] theorem after_tell (status : DeliveryStatus) :
    (v.tell status).after l = (v.after l).tell status := by
  simp [after, tell]

/-- What was published earlier does not matter to what is handed over. -/
@[simp] theorem after_hand (t : Transmission) : (v.hand t).after l = (v.after l).hand t := rfl

/-- What was published earlier does not matter to a frame that is not in flight any more. -/
@[simp] theorem after_settle (status : DeliveryStatus) :
    (v.settle status).after l = (v.after l).settle status := by
  simp [after, settle, tell]

/-- What was published earlier does not matter to what a late frame comes to. -/
theorem Late.after {clock : Time} {status : DeliveryStatus} (h : Late clock status v v') :
    Late clock status (v.after l) (v'.after l) := by
  cases h with
  | untracked hcopy => rw [after_settle]; exact .untracked hcopy
  | exhausted hcopy hzero => rw [after_settle]; exact .exhausted hcopy hzero
  | abandoned hcopy hpos => rw [after_settle, after_hand]; exact .abandoned hcopy hpos
  | resent hcopy hpos => exact .resent hcopy hpos

end Slice

namespace Outbound

variable {σ κ : Type} {o : Outbound σ κ} {c : Carrier σ} {clock : Time} {header : Header}
  {payload : Bytes}

/-- Without a retry layer no copy is kept. -/
theorem sendReliable_of_retry_eq_none (hr : o.retry = none) :
    o.sendReliable c clock header payload = o.sendTracked c clock header payload := by
  have herase (o' : Outbound σ κ) (h : o'.setup.retry = none) :
      o'.mapEntries (·.erase header.seq) = o' := by
    have : o'.retry = none := Option.map_eq_none_iff.mp h
    rcases o' with ⟨_, _, _, _, _⟩
    cases this
    rfl
  have hsetup : (o.sendTracked c clock header payload).2.setup.retry = none := by
    rw [setup_sendTracked]
    simp [setup, hr]
  unfold sendReliable
  split
  · rfl
  · simp only [hr]
    generalize o.sendTracked c clock header payload = sent at hsetup
    rcases sent with ⟨_ | _, o'⟩
    · exact congrArg (Prod.mk _) (herase o' hsetup)
    · rfl

end Outbound

namespace Sequence

variable {first next : UInt16} {drawn : List UInt16}

/-- Numbers that were drawn one after the other, beginning with a first one, and the number that
comes next. -/
structure Consecutive (first : UInt16) (drawn : List UInt16) (next : UInt16) : Prop where
  drawn_eq : drawn = (List.range drawn.length).map (first + UInt16.ofNat ·)
  next_eq : next = first + UInt16.ofNat drawn.length

/-- Without a draw the first number is the next. -/
theorem Consecutive.nil : Consecutive first [] first := ⟨rfl, by simp⟩

/-- The next number is one more than the last that was drawn. -/
theorem Consecutive.concat (h : Consecutive first drawn next) :
    Consecutive first (drawn ++ [next]) (next + 1) := by
  obtain ⟨hdrawn, hnext⟩ := h
  constructor
  · rw [List.length_append, List.length_singleton, List.range_succ, List.map_append, ← hdrawn,
      List.map_singleton, ← hnext]
  · simp [hnext, UInt16.add_assoc]

/-- The first 65536 numbers differ. -/
theorem Consecutive.nodup (h : Consecutive first drawn next) (hfew : drawn.length ≤ 65536) :
    drawn.Nodup := by
  rw [h.drawn_eq]
  refine List.Nodup.map_on ?_ List.nodup_range
  intro i hi j hj hij
  rw [List.mem_range] at hi hj
  have hmod := congrArg UInt16.toNat ((UInt16.add_right_inj _).mp hij)
  simp only [UInt16.toNat_ofNat'] at hmod
  omega

/-- A stretch of such numbers is one that begins with another number. -/
theorem Consecutive.stretch {before stretch after : List UInt16}
    (h : Consecutive first (before ++ stretch ++ after) next) :
    ∃ start stop, Consecutive start stretch stop := by
  refine ⟨first + UInt16.ofNat before.length, _, ?_, rfl⟩
  have hdrawn := h.drawn_eq
  rw [List.length_append, List.length_append, List.range_add, List.range_add, List.map_append,
    List.map_append, List.map_map, List.map_map] at hdrawn
  have hfront := (List.append_inj hdrawn (by simp)).1
  have hstretch := (List.append_inj hfront (by simp)).2
  refine hstretch.trans (List.map_congr_left fun i _ => ?_)
  simp [UInt16.add_assoc]

/-- Any 65536 numbers that follow each other differ. -/
theorem Consecutive.nodup_stretch {before stretch after : List UInt16}
    (h : Consecutive first (before ++ stretch ++ after) next) (hfew : stretch.length ≤ 65536) :
    stretch.Nodup := by
  obtain ⟨start, stop, hstretch⟩ := h.stretch
  exact hstretch.nodup hfew

end Sequence

namespace Dispatcher

variable {σ : Type} {d : Dispatcher} {carrier : Layer → Carrier σ} {layer : Layer} {s : σ}

/-- Dispatching draws a number and sends under it. -/
theorem dispatch_eq (id : UInt16) (payload : Bytes) (h : d.layer = some layer) :
    (d.dispatch carrier id payload s).2 =
      (d.draw.2, (sendOn carrier layer id d.sequence.upcoming payload s).2) := by
  simp only [dispatch, h, draw, Sequence.draw]
  split <;> next heq => rw [heq]

/-- Dispatching fails exactly if sending fails. -/
theorem isOk_dispatch (id : UInt16) (payload : Bytes) (h : d.layer = some layer) :
    (d.dispatch carrier id payload s).1.isOk =
      (sendOn carrier layer id d.sequence.upcoming payload s).1.isOk := by
  simp only [dispatch, h, draw, Sequence.draw]
  split <;> next heq => rw [heq]; rfl

/-- What is not refused beforehand is sent with a header of its own. -/
theorem sendOn_cases (carrier : Layer → Carrier σ) (layer : Layer) (id seq : UInt16)
    (payload : Bytes) (s : σ) :
    (∃ error, sendOn carrier layer id seq payload s = (.error error, s)) ∨
      ∃ header : Header, header.id = id ∧ header.seq = seq ∧ header.isAck = false ∧
        sendOn carrier layer id seq payload s = (carrier layer).send header payload s := by
  unfold sendOn
  split
  · exact .inl ⟨_, rfl⟩
  · next hid =>
    cases hheader : Header.forPayload id seq payload with
    | error cause => exact .inl ⟨_, rfl⟩
    | ok header =>
      obtain rfl : Header.new id seq (UInt16.ofNat payload.length) = header := by
        unfold Header.forPayload at hheader
        split at hheader
        · exact Except.ok.inj hheader
        · cases hheader
      exact .inr ⟨_, rfl, rfl, by simpa [Header.isAck, Header.new] using hid, rfl⟩

end Dispatcher

namespace Engine

variable {σ ρ : Type} {e e' : Engine (Watched σ) ρ} {c : Carrier σ} {clock : Time}

/-- What belongs to each sequence number of an engine, with what it has published. -/
def slices (e : Engine (Watched σ) ρ) (seq : UInt16) : Slice :=
  (e.outbound.slices () seq).after (e.delivered.filter (·.seq = seq))

/-- What is done to an engine from outside. -/
inductive Deed where
  /-- A payload is sent under a number that is drawn for it. -/
  | send (clock : Time) (id seq : UInt16) (payload : Bytes)
  | scan (now : Time) (clock : UInt16 → Time)
  | handle (clock : Time) (frame : Frame)
  /-- A caller that waits looks for its outcome, the transport is asked for a frame, or the like:
  nothing that is about the layers or the endpoints. -/
  | aside

/-- Ends the tracking of the late frames of an engine in a given order. -/
def expire (c : Carrier (Watched σ)) (clock : UInt16 → Time) (late : List (UInt16 × InFlight))
    (e : Engine (Watched σ) ρ) : Engine (Watched σ) ρ :=
  { e with outbound := e.outbound.expireAll c clock late }.absorb

/-- How a deed changes an engine whose endpoints are registered. A payload is sent with or
without somebody waiting, and a scan takes the late frames in any order. -/
inductive Does (c : Carrier σ) (e : Engine (Watched σ) ρ) : Deed → Engine (Watched σ) ρ → Prop
  | send {clock : Time} {id : UInt16} {payload : Bytes} :
      Does c e (.send clock id e.dispatcher.sequence.upcoming payload)
        (e.send c.watched clock id payload).2
  | beginWait {clock : Time} {id : UInt16} {payload : Bytes} :
      Does c e (.send clock id e.dispatcher.sequence.upcoming payload)
        (e.beginWait c.watched clock id payload).2
  | scan {now : Time} {clock : UInt16 → Time} {late : List (UInt16 × InFlight)} :
      late.Perm (e.outbound.tracker.overdue now) →
      Does c e (.scan now clock) (e.expire c.watched clock late)
  | handle {clock : Time} {frame : Frame} :
      Does c e (.handle clock frame) (e.handleFrame c.watched clock frame)
  | aside {waiters : Waiters} {errors : List ErrorEvent} {running : Bool} {state : σ} :
      Does c e .aside { e with
        outbound := { e.outbound with medium := { e.outbound.medium with state } }
        waiters, errors, running }

/-- An engine to which a transport is attached, so that final outcomes reach it, and which sends
through the last layer. -/
structure Attached (e : Engine (Watched σ) ρ) : Prop where
  ready : e.outbound.Ready ()
  layer : e.dispatcher.layer = some (if e.outbound.setup.retry.isSome then .reliable else .tracked)

/-- An engine to which a transport has just been attached for the first time. -/
structure Unused (e : Engine (Watched σ) ρ) : Prop where
  attached : e.Attached
  blank : ∀ seq, e.slices seq = {}

/-- An engine that has handed over no acknowledgments. -/
def Silent (e : Engine (Watched σ) ρ) : Prop :=
  ∀ t ∈ e.outbound.medium.handed, t.header.isAck = false

/-- The engine after a payload was sent through a layer under the next number. -/
def sentOn (c : Carrier (Watched σ)) (clock : Time) (layer : Layer) (id : UInt16) (payload : Bytes)
    (e : Engine (Watched σ) ρ) : Engine (Watched σ) ρ :=
  { e with
    outbound := (Dispatcher.sendOn (layers c clock) layer id e.dispatcher.sequence.upcoming payload
      e.outbound).2
    dispatcher := e.dispatcher.draw.2 }.absorb

/-- What a deed comes to, as far as the layers are concerned: a payload is sent through them, they
look for late frames or take an acknowledgment, the transport is handed an acknowledgment, or
nothing. -/
inductive Comes (c : Carrier σ) (e : Engine (Watched σ) ρ) : Deed → Engine (Watched σ) ρ → Prop
  | sent {clock : Time} {id : UInt16} {payload : Bytes} {layer : Layer} {errors : List ErrorEvent}
      {waiters : Waiters} : e.dispatcher.layer = some layer →
      Comes c e (.send clock id e.dispatcher.sequence.upcoming payload)
        { e.sentOn c.watched clock layer id payload with errors, waiters }
  | expired {now : Time} {clock : UInt16 → Time} {late : List (UInt16 × InFlight)} :
      late.Perm (e.outbound.tracker.overdue now) →
      Comes c e (.scan now clock) (e.expire c.watched clock late)
  | acknowledged {clock : Time} {frame : Frame} : frame.header.isAck = true →
      Comes c e (.handle clock frame) (e.acknowledge c.watched clock frame.header.seq)
  | confirmed {clock : Time} {frame : Frame} {errors : List ErrorEvent} {outside : ρ}
      {duplicates : DuplicateFilter} : frame.header.isAck = false →
      Comes c e (.handle clock frame) { e with
        outbound := (e.outbound.sendRaw c.watched (.ack frame.header.seq) []).2
        errors, outside, duplicates }
  | ignored {clock : Time} {frame : Frame} {errors : List ErrorEvent} {outside : ρ}
      {duplicates : DuplicateFilter} : frame.header.isAck = false →
      Comes c e (.handle clock frame) { e with errors, outside, duplicates }
  | aside {waiters : Waiters} {errors : List ErrorEvent} {running : Bool} {state : σ} :
      Comes c e .aside { e with
        outbound := { e.outbound with medium := { e.outbound.medium with state } }
        waiters, errors, running }

end Engine

namespace Slice

/-- What a deed of an engine does to the slice of a sequence number. -/
inductive Follows (seq : UInt16) (v : Slice) : Engine.Deed → Slice → Prop
  | same {d : Engine.Deed} : Follows seq v d v
  /-- A frame is sent. -/
  | sent {clock : Time} {id : UInt16} {payload : Bytes} {header : Header} {taken : Bool}
      {copy : Option RetryEntry} : header.id = id → header.seq = seq → header.isAck = false →
      (∀ e, copy = some e → e.header = header ∧ e.payload = payload) →
      Follows seq v (.send clock id seq payload)
        { v.sent clock header payload taken with copy := copy }
  /-- A frame that has arrived is acknowledged. -/
  | confirmed {clock : Time} {frame : Frame} {taken : Bool} : frame.header.isAck = false →
      frame.header.seq = seq → Follows seq v (.handle clock frame) (v.hand ⟨.ack seq, [], taken⟩)
  /-- An acknowledgment has arrived. -/
  | acknowledged {clock : Time} {frame : Frame} {record : InFlight} : frame.header.isAck = true →
      frame.header.seq = seq → v.record = some record →
      Follows seq v (.handle clock frame) (v.settle ⟨record.endpoint, seq, .success⟩)
  | late {now : Time} {clock : UInt16 → Time} {record : InFlight} {v' : Slice} :
      v.record = some record →
      Late (clock seq) ⟨record.endpoint, seq, .timeout⟩ { v with record := none } v' →
      Follows seq v (.scan now clock) v'

end Slice

namespace Engine

open Function (update_self update_of_ne)

variable {σ ρ : Type} {e e' : Engine (Watched σ) ρ} {c : Carrier σ} {clock : Time}

/-! ## What does not matter to the layers -/

/-- What belongs to a number is the same before and after it is passed on. -/
@[simp] theorem slices_absorb : e.absorb.slices = e.slices := by
  funext seq
  simp [slices, absorb, Slice.after, Outbound.slices, Outbound.heardBy, Outbound.entry?]

/-- A scan takes the late frames in the order of their numbers. -/
theorem scan_eq (now : Time) (clock : UInt16 → Time) : (e.scan c.watched now clock).2 =
    e.expire c.watched clock (e.outbound.tracker.overdue now) := by
  simp [scan, expire, Outbound.scan_eq]

/-- Publishing a failure changes nothing else. -/
theorem reported_eq {α : Type} (id : UInt16) (result : Except NetworkError α) :
    ∃ errors, (e.reported id result).2 = { e with errors } := by
  cases result with
  | ok a => exact ⟨e.errors, rfl⟩
  | error error => exact ⟨e.errors ++ [.ofError id error], rfl⟩

/-- Calling an endpoint changes what is outside, and failures are published. -/
theorem invoke_eq (frame : Frame) :
    ∃ errors outside, e.invoke frame = { e with errors, outside } := by
  unfold invoke
  dsimp only
  split
  · exact ⟨_, e.outside, rfl⟩
  · split
    · exact ⟨_, _, rfl⟩
    · exact ⟨e.errors, _, rfl⟩
    · exact ⟨e.errors, _, rfl⟩

/-- Whatever becomes of a payload that is sent, the layers change by what sending it does. -/
theorem send_eq {layer : Layer} (id : UInt16) (payload : Bytes)
    (h : e.dispatcher.layer = some layer) : ∃ errors,
      (e.send c.watched clock id payload).2 =
        { e.sentOn c.watched clock layer id payload with errors } := by
  have hdispatch :=
    @Dispatcher.dispatch_eq _ e.dispatcher (layers c.watched clock) layer e.outbound id payload h
  unfold send
  generalize e.dispatcher.dispatch (layers c.watched clock) id payload e.outbound = sent
    at hdispatch
  obtain ⟨result, dispatcher, outbound⟩ := sent
  obtain ⟨rfl, rfl⟩ := Prod.mk.inj hdispatch
  exact reported_eq id result

/-- Whatever becomes of a payload that is waited for, the layers change by what sending it does. -/
theorem beginWait_eq {layer : Layer} (id : UInt16) (payload : Bytes)
    (h : e.dispatcher.layer = some layer) : ∃ errors waiters,
      (e.beginWait c.watched clock id payload).2 =
        { e.sentOn c.watched clock layer id payload with errors, waiters } := by
  have hdraw : e.dispatcher.draw = (e.dispatcher.sequence.upcoming, e.dispatcher.draw.2) := rfl
  have hlayer : e.dispatcher.draw.2.layer = some layer := h
  unfold beginWait
  rw [hdraw]
  simp only [Dispatcher.dispatchWith, hlayer, sentOn]
  generalize Dispatcher.sendOn (layers c.watched clock) layer id e.dispatcher.sequence.upcoming
    payload e.outbound = sent
  rcases sent with ⟨error | ⟨⟩, outbound⟩
  · obtain ⟨errors, heq⟩ := reported_eq (α := UInt16) id (.error error)
    dsimp only
    rw [heq]
    exact ⟨errors, _, rfl⟩
  · exact ⟨e.errors, _, rfl⟩

/-- A frame for an endpoint is acknowledged, and then at most the filter, what is outside and what
is published of failures change. -/
theorem handleFrame_eq {frame : Frame} (clock : Time) (h : frame.header.isAck = false) :
    ∃ errors outside duplicates, e.handleFrame c.watched clock frame =
      { e.sendAck c.watched frame.header with errors, outside, duplicates } := by
  simp only [handleFrame, h, Bool.false_eq_true, if_false]
  split
  · next duplicates _ =>
    obtain ⟨errors, outside, heq⟩ := invoke_eq (e := { e.sendAck c.watched frame.header with
      duplicates }) frame
    exact ⟨errors, outside, duplicates, heq⟩
  · next duplicates _ => exact ⟨_, _, duplicates, rfl⟩

/-- An acknowledgment goes to the transport, past the layers, or is not sent at all. -/
theorem sendAck_eq (header : Header) : e.sendAck c.watched header = e ∨
    ∃ errors, e.sendAck c.watched header =
      { e with outbound := (e.outbound.sendRaw c.watched (.ack header.seq) []).2, errors } := by
  unfold sendAck
  split
  · obtain ⟨errors, heq⟩ := reported_eq
      (e := { e with outbound := (e.outbound.sendRaw c.watched (.ack header.seq) []).2 }) header.id
      (e.outbound.sendRaw c.watched (.ack header.seq) []).1
    exact .inr ⟨errors, heq⟩
  · exact .inl rfl

/-- Whatever becomes of a frame for an endpoint, it is acknowledged first. -/
theorem handed_handleFrame {frame : Frame} (clock : Time) (h : frame.header.isAck = false)
    (hacks : e.config.sendAcks = true) (hinit : e.isInitialized = true) :
    ∃ taken, (e.handleFrame c.watched clock frame).outbound.medium.handed =
      e.outbound.medium.handed ++ [⟨.ack frame.header.seq, [], taken⟩] := by
  obtain ⟨errors, outside, duplicates, heq⟩ := handleFrame_eq clock h
  rw [heq, sendAck, hacks, hinit]
  obtain ⟨errors', hreported⟩ := reported_eq
    (e := { e with outbound := (e.outbound.sendRaw c.watched (.ack frame.header.seq) []).2 })
    frame.header.id (e.outbound.sendRaw c.watched (.ack frame.header.seq) []).1
  exact ⟨_, congrArg (fun e => e.outbound.medium.handed) hreported⟩

/-! ## Deeds -/

/-- Whether a transport is attached does not depend on what was published and handed over. -/
theorem Attached.congr (h : e.Attached) (hsetup : e'.outbound.setup = e.outbound.setup)
    (hentry : ∀ seq, e'.outbound.entry? seq = e.outbound.entry? seq)
    (hlayer : e'.dispatcher.layer = e.dispatcher.layer) : e'.Attached where
  ready.tells := hsetup ▸ h.ready.tells
  ready.proper seq copy hcopy := h.ready.proper seq copy ((hentry seq).symm.trans hcopy)
  layer := by rw [hlayer, hsetup, h.layer]

/-- What is not refused beforehand goes through all layers that there are. -/
theorem Attached.sendOn_cases {layer : Layer} (h : e.Attached)
    (hlayer : e.dispatcher.layer = some layer) (c : Carrier σ) (clock : Time) (id seq : UInt16)
    (payload : Bytes) :
    (∃ error, Dispatcher.sendOn (layers c.watched clock) layer id seq payload e.outbound =
        (.error error, e.outbound)) ∨
      ∃ header : Header, header.id = id ∧ header.seq = seq ∧ header.isAck = false ∧
        Dispatcher.sendOn (layers c.watched clock) layer id seq payload e.outbound =
          e.outbound.sendReliable c.watched clock header payload := by
  rcases Dispatcher.sendOn_cases (layers c.watched clock) layer id seq payload e.outbound with
    hrefused | ⟨header, hid, hseq, hack, hsent⟩
  · exact .inl hrefused
  · refine .inr ⟨header, hid, hseq, hack, hsent.trans ?_⟩
    obtain rfl := Option.some.inj (h.layer.symm.trans hlayer)
    cases hr : e.outbound.retry with
    | none =>
      have hnone : e.outbound.setup.retry.isSome = false := by simp [Outbound.setup, hr]
      rw [hnone, Outbound.sendReliable_of_retry_eq_none hr]
      rfl
    | some r =>
      have hsome : e.outbound.setup.retry.isSome = true := by simp [Outbound.setup, hr]
      rw [hsome]
      rfl

/-- The layers are as promised after a payload was sent through them. -/
theorem Attached.sentOn {layer : Layer} (h : e.Attached) (hlayer : e.dispatcher.layer = some layer)
    (id : UInt16) (payload : Bytes) : (e.sentOn c.watched clock layer id payload).Attached := by
  rcases h.sendOn_cases hlayer c clock id e.dispatcher.sequence.upcoming payload with
    ⟨error, hrefused⟩ | ⟨header, -, -, hack, hsent⟩
  · simp only [Engine.sentOn, hrefused]
    exact h.congr rfl (fun _ => rfl) rfl
  · have hlayers : ({ e with
        outbound := (e.outbound.sendReliable c.watched clock header payload).2 } :
        Engine (Watched σ) ρ).Attached :=
      ⟨h.ready.sendReliable hack, by simpa using h.layer⟩
    simp only [Engine.sentOn, hsent]
    exact hlayers.congr rfl (fun _ => rfl) rfl

/-- Sending follows its course under the number that is drawn, and touches no other. -/
theorem Attached.follows_sentOn {layer : Layer} (h : e.Attached)
    (hlayer : e.dispatcher.layer = some layer) (id : UInt16) (payload : Bytes) (seq : UInt16) :
    (e.slices seq).Follows seq (.send clock id e.dispatcher.sequence.upcoming payload)
      ((e.sentOn c.watched clock layer id payload).slices seq) := by
  rcases h.sendOn_cases hlayer c clock id e.dispatcher.sequence.upcoming payload with
    ⟨error, hrefused⟩ | ⟨header, hid, hseq, hack, hsent⟩
  · simp only [Engine.sentOn, hrefused, slices_absorb]
    exact .same
  · simp only [Engine.sentOn, hsent, slices_absorb]
    change Slice.Follows seq _ _ (((e.outbound.sendReliable c.watched clock header payload).2.slices
      () seq).after _)
    rw [Outbound.slices_sendReliable hack, ← hseq]
    by_cases hs : seq = header.seq
    · subst hs
      rw [update_self]
      refine .sent hid rfl hack ?_
      intro copy hcopy
      dsimp only at hcopy
      split at hcopy
      · obtain ⟨r, -, rfl⟩ := Option.map_eq_some_iff.mp hcopy
        exact ⟨rfl, rfl⟩
      · cases hcopy
    · rw [update_of_ne hs]
      exact .same

/-- An acknowledgment or a scan, as an operation of the layers. -/
theorem Attached.perform {op : Outbound.Operation} {o' : Outbound (Watched σ) Unit} (h : e.Attached)
    (hop : Outbound.Performs c e.outbound op o') : { e with outbound := o' }.absorb.Attached := by
  have hlayers : ({ e with outbound := o' } : Engine (Watched σ) ρ).Attached :=
    ⟨hop.ready h.ready, by simpa [hop.setup_eq] using h.layer⟩
  exact hlayers.congr rfl (fun _ => rfl) rfl

/-- Every deed comes to one of these. -/
theorem Does.comes {d : Deed} (h : e.Attached) (hdoes : Does c e d e') : Comes c e d e' := by
  cases hdoes with
  | send =>
    obtain ⟨errors, heq⟩ := send_eq _ _ h.layer
    rw [heq]
    exact .sent h.layer
  | beginWait =>
    obtain ⟨errors, waiters, heq⟩ := beginWait_eq _ _ h.layer
    rw [heq]
    exact .sent h.layer
  | scan hlate => exact .expired hlate
  | @handle clock frame =>
    cases hack : frame.header.isAck with
    | true =>
      rw [handleFrame, if_pos hack]
      exact .acknowledged hack
    | false =>
      obtain ⟨errors, outside, duplicates, heq⟩ := handleFrame_eq clock hack
      rw [heq]
      rcases sendAck_eq frame.header with hsame | ⟨errors', hsent⟩
      · rw [hsame]
        exact .ignored hack
      · rw [hsent]
        exact .confirmed hack
  | aside => exact .aside

/-- What is promised of the layers is promised after every deed. -/
theorem Does.attached {d : Deed} (h : e.Attached) (hdoes : Does c e d e') : e'.Attached := by
  cases hdoes.comes h with
  | sent hlayer => exact (h.sentOn hlayer _ _).congr rfl (fun _ => rfl) rfl
  | @expired now clock late hlate =>
    have hscan : Outbound.Performs c e.outbound (.scan now clock)
      (e.outbound.expireAll c.watched clock late) := .scan hlate
    exact h.perform hscan
  | acknowledged => exact h.perform .acknowledge
  | confirmed => exact h.congr rfl (fun _ => rfl) rfl
  | ignored => exact h.congr rfl (fun _ => rfl) rfl
  | aside => exact h.congr rfl (fun _ => rfl) rfl

/-- Under each number a deed sends, confirms, continues or ends, or does nothing. -/
theorem Does.follows {d : Deed} (h : e.Attached) (hdoes : Does c e d e') (seq : UInt16) :
    (e.slices seq).Follows seq d (e'.slices seq) := by
  cases hdoes.comes h with
  | sent hlayer => exact h.follows_sentOn hlayer _ _ seq
  | @expired now clock late hlate =>
    have hscan : Outbound.Performs c e.outbound (.scan now clock)
      (e.outbound.expireAll c.watched clock late) := .scan hlate
    have hevolves : (e.outbound.slices () seq).Evolves _ seq (.scan now clock) _ :=
      hscan.evolves h.ready rfl
    rw [expire, slices_absorb]
    change Slice.Follows seq _ _
      (((e.outbound.expireAll c.watched clock late).slices () seq).after _)
    generalize (e.outbound.expireAll c.watched clock late).slices () seq = v' at hevolves
    cases hevolves with
    | same => exact .same
    | late hrec _ hlate => exact .late hrec hlate.after
  | @acknowledged clock frame hack =>
    rw [acknowledge, slices_absorb]
    have hevolves : (e.outbound.slices () seq).Evolves _ seq
        (.acknowledge clock frame.header.seq) _ :=
      Outbound.Performs.evolves (c := c) h.ready .acknowledge rfl
    change Slice.Follows seq _ _
      (((e.outbound.acknowledge c.watched clock frame.header.seq).2.slices () seq).after _)
    generalize (e.outbound.acknowledge c.watched clock frame.header.seq).2.slices () seq = v'
      at hevolves
    generalize hs : frame.header.seq = acked at hevolves
    cases hevolves with
    | same => exact .same
    | acknowledged hrec =>
      rw [Slice.after_settle]
      exact .acknowledged hack hs hrec
  | @confirmed clock frame _ _ _ hack =>
    have hseq : (Header.ack frame.header.seq).seq = frame.header.seq := rfl
    change Slice.Follows seq _ _
      (((e.outbound.sendRaw c.watched (.ack frame.header.seq) []).2.slices () seq).after _)
    rw [Outbound.slices_sendRaw, hseq]
    by_cases hs : seq = frame.header.seq
    · subst hs
      rw [update_self]
      exact .confirmed hack rfl
    · rw [update_of_ne hs]
      exact .same
  | ignored => exact .same
  | aside => exact .same

/-- Sending draws a number, and nothing else does. -/
theorem Does.upcoming_eq {d : Deed} (h : e.Attached) (hdoes : Does c e d e') :
    (∃ clock id payload, d = .send clock id e.dispatcher.sequence.upcoming payload ∧
        e'.dispatcher.sequence.upcoming = e.dispatcher.sequence.upcoming + 1) ∨
      ((∀ clock id seq payload, d ≠ .send clock id seq payload) ∧
        e'.dispatcher.sequence.upcoming = e.dispatcher.sequence.upcoming) := by
  cases hdoes.comes h with
  | sent => exact .inl ⟨_, _, _, rfl, rfl⟩
  | _ => exact .inr ⟨nofun, rfl⟩

/-! ## The beginning -/

/-- Whatever was handed over belongs to its number. -/
theorem mem_slices_of_mem_handed {t : Transmission} (ht : t ∈ e.outbound.medium.handed) :
    t ∈ (e.slices t.header.seq).handed :=
  List.mem_filter.mpr ⟨ht, decide_eq_true rfl⟩

/-- Nothing has been handed over by an engine that was not used. -/
theorem Unused.silent (h : e.Unused) : e.Silent := by
  intro t ht
  have hslice := mem_slices_of_mem_handed ht
  rw [h.blank] at hslice
  cases hslice

/-- What a new engine is made of, if its settings are accepted. -/
theorem eq_of_new {σ ρ : Type} {e : Engine σ ρ} {config : EngineConfig} {medium : σ} {outside : ρ}
    (hnew : Engine.new config medium outside = .ok e) : e = {
      config
      outbound := { tracker := { timeout := EngineConfig.millis config.ackTimeout }, medium }
      duplicates := .new config.dedupeWindow.toNat
      outside } := by
  unfold Engine.new at hnew
  cases hvalid : config.validate with
  | error error =>
    rw [hvalid] at hnew
    cases hnew
  | ok =>
    rw [hvalid] at hnew
    exact (Except.ok.inj hnew).symm

/-- Attaching a transport to a new engine connects the layers to it. -/
theorem unused_of_attach {config : EngineConfig} {nothing medium : Watched σ} {outside : ρ}
    (hnew : Engine.new config nothing outside = .ok e) (hmedium : medium.handed = [])
    (hattach : e.attach c.watched medium = (.ok (), e')) : e'.Unused := by
  obtain rfl := eq_of_new hnew
  unfold attach build at hattach
  simp only [Bool.false_eq_true, if_false] at hattach
  split at hattach
  · obtain ⟨-, rfl⟩ := Prod.mk.inj hattach
    refine ⟨⟨⟨?_, ?_⟩, ?_⟩, ?_⟩
    · simp [Outbound.setup, Signal.handlers, Signal.connect, Setup.Tells]
    · intro seq copy hcopy
      simp [Outbound.slices, Outbound.entry?] at hcopy
    · simp [Outbound.setup]
    · intro seq
      simp [slices, Slice.after, Outbound.slices, Outbound.entry?, Outbound.heardBy, hmedium]
  · obtain ⟨-, rfl⟩ := Prod.mk.inj hattach
    refine ⟨⟨⟨?_, ?_⟩, ?_⟩, ?_⟩
    · simp [Outbound.setup, Outbound.attachRetry, Signal.handlers, Signal.connect, Setup.Tells]
    · intro seq copy hcopy
      simp [Outbound.slices, Outbound.attachRetry, Outbound.entry?] at hcopy
    · simp [Outbound.setup, Outbound.attachRetry]
    · intro seq
      simp [slices, Slice.after, Outbound.slices, Outbound.attachRetry, Outbound.entry?,
        Outbound.heardBy, hmedium]

/-- A new engine at one end of a link within the process. -/
def onLink (config : EngineConfig) (s : Side) (outside : ρ) : Engine (Watched MemoryLink) ρ :=
  let detached : Engine (Watched MemoryLink) ρ := {
    config
    outbound := {
      tracker := { timeout := EngineConfig.millis config.ackTimeout }
      medium := ⟨{}, []⟩ }
    duplicates := .new config.dedupeWindow.toNat
    outside }
  (detached.attach (MemoryLink.carrier s).watched ⟨{}, []⟩).2

/-- Attaching an end of a link to a new engine is done, and gives the engine that is described. -/
theorem exists_attach_onLink {config : EngineConfig} (hvalid : config.validate = .ok ()) (s : Side)
    (outside : ρ) : ∃ e, Engine.new config ⟨{}, []⟩ outside = .ok e ∧
      e.attach (MemoryLink.carrier s).watched ⟨{}, []⟩ = (.ok (), onLink config s outside) := by
  cases hnew : Engine.new config (⟨{}, []⟩ : Watched MemoryLink) outside with
  | error error =>
    rw [Engine.new, hvalid] at hnew
    cases hnew
  | ok e =>
    obtain rfl := eq_of_new hnew
    exact ⟨_, rfl, rfl⟩

/-- This engine is not used yet. -/
theorem unused_onLink {config : EngineConfig} (hvalid : config.validate = .ok ()) (s : Side)
    (outside : ρ) : (onLink config s outside).Unused := by
  obtain ⟨e, hnew, hattach⟩ := exists_attach_onLink hvalid s outside
  exact unused_of_attach hnew rfl hattach

end Engine

end Courier
