import Courier.Proofs.Engine.Answers
import Courier.Proofs.Engine.Reattaching
import Mathlib.Logic.Relation

/-!
# Engines with and without a transport

An engine exists before it has a transport, and calls are made to it all the same. What holds of it
then and afterwards is kept by everything that is done with it: whatever the layers have published
was passed on, and there are copies only of frames in flight.
-/

namespace Courier

namespace Slice

variable {timeout : Duration} {seq : UInt16} {op : Outbound.Operation} {v v' : Slice}

/-- There is a copy only of a frame in flight. -/
def Tidy (v : Slice) : Prop := v.copy.isSome → v.record.isSome

/-- Copies of frames in flight are all that there is, whatever is done. -/
theorem Tidy.evolves (h : v.Tidy) (he : v.Evolves timeout seq op v') : v'.Tidy := by
  cases he with
  | same => exact h
  | acknowledged => nofun
  | late _ _ hlate =>
    cases hlate with
    | untracked => nofun
    | exhausted => nofun
    | abandoned => nofun
    | resent => exact fun _ => rfl

end Slice

namespace Outbound

variable {σ κ : Type} {o : Outbound σ κ} {c : Carrier σ}

/-- What is published while nobody listens to the tracker changes nothing. -/
theorem publish_of_slots_eq_nil (h : o.status.slots = []) (clock : Time) (status : DeliveryStatus) :
    o.publish c clock status = o := by
  rw [publish, Signal.emit, h]
  rfl

/-- While nobody listens, an acknowledgment ends the tracking of its frame and that is all. -/
theorem acknowledge_of_slots_eq_nil (h : o.status.slots = []) (clock : Time) (seq : UInt16) :
    (o.acknowledge c clock seq).2 = { o with tracker := o.tracker.erase seq } := by
  let erased := { o with tracker := o.tracker.erase seq }
  have hquiet (status : DeliveryStatus) : erased.publish c clock status = erased :=
    publish_of_slots_eq_nil (o := erased) h clock status
  simp only [acknowledge, TrackerHost.acknowledge, host, Tracker.settle]
  cases hrecord : o.tracker.pending[seq]? with
  | some record => exact hquiet ⟨record.endpoint, seq, .success⟩
  | none => rw [Tracker.erase_of_getElem?_eq_none hrecord]

/-- While nobody listens, the tracking of late frames ends and that is all. -/
theorem expireAll_of_slots_eq_nil (h : o.status.slots = []) (clock : UInt16 → Time)
    (late : List (UInt16 × InFlight)) : o.expireAll c clock late =
      { o with tracker := late.foldl (fun t (seq, _) => t.erase seq) o.tracker } := by
  rw [expireAll]
  generalize late.foldl (fun t (seq, _) => t.erase seq) o.tracker = tracker
  have hquiet (status : DeliveryStatus) (clock : Time) :
      publish c clock status { o with tracker } = { o with tracker } :=
    publish_of_slots_eq_nil (o := { o with tracker }) h clock status
  induction late with
  | nil => rfl
  | cons x late ih =>
    exact (congrArg (late.foldl _) (hquiet _ _)).trans ih

end Outbound

namespace Engine

open Function (update_self update_of_ne)

/-! ## Everything that is done with an engine -/

variable {σ ρ : Type} {e e' start : Engine (Watched σ) ρ} {c c' : Carrier σ} {clock : Time}
  {seq : UInt16}

/-- One thing that is done with an engine and the transport it was given last: it is given another
one, an endpoint is registered, or it does something itself. Before the first transport it has only
a name for one. -/
inductive Step : Carrier σ × Engine (Watched σ) ρ → Carrier σ × Engine (Watched σ) ρ → Prop
  | attach {c c' : Carrier σ} {medium : Watched σ} {e e' : Engine (Watched σ) ρ} :
      e.attach c'.watched medium = (.ok (), e') → Step (c, e) (c', e')
  | register {c : Carrier σ} {e : Engine (Watched σ) ρ} (id : UInt16) (invoker : Invoker ρ) :
      Step (c, e) (c, e.register id invoker)
  | does {c : Carrier σ} {e e' : Engine (Watched σ) ρ} {d : Deed} : Does c e d e' →
      Step (c, e) (c, e')

/-- Whether a number is drawn on the way from one state to the next. -/
def Draws (seq : UInt16) (e e' : Engine (Watched σ) ρ) : Prop :=
  e.dispatcher.sequence.upcoming = seq ∧ e'.dispatcher.sequence ≠ e.dispatcher.sequence

/-- A number is drawn with every frame. -/
theorem draws_of_draw (h : e'.dispatcher = e.dispatcher.draw.2) :
    Draws e.dispatcher.sequence.upcoming e e' := by
  refine ⟨rfl, fun hsame => ?_⟩
  have hnext := congrArg Sequence.upcoming hsame
  rw [h] at hnext
  simp [Dispatcher.draw, Sequence.draw] at hnext

/-- What holds of an engine with or without a transport, whatever frames are on record: it has
passed on whatever the layers have published, and it either is connected to all of its layers or
has nothing to send with. -/
structure Steady (e : Engine (Watched σ) ρ) : Prop where
  linked : Linked e.outbound.bare e.forwarding
  heard : e.outbound.heard = []
  attached : e.Attached ∨ e.forwarding = none ∧ e.dispatcher.layer = none

/-- What holds besides of an engine whose frames are put on record by itself alone: there are copies
only of frames in flight, and without a transport there are no frames in flight. -/
structure Sound (e : Engine (Watched σ) ρ) : Prop where
  linked : Linked e.outbound.bare e.forwarding
  heard : e.outbound.heard = []
  tidy : ∀ seq, (e.outbound.slices () seq).Tidy
  attached : e.Orderly ∨ e.forwarding = none ∧ e.dispatcher.layer = none ∧
    ∀ seq : UInt16, e.outbound.tracker.pending[seq]? = none

/-- Whether others put frames on record does not matter to the rest. -/
theorem Sound.steady (h : e.Sound) : e.Steady :=
  ⟨h.linked, h.heard, h.attached.imp (·.attached) fun hnone => ⟨hnone.1, hnone.2.1⟩⟩

/-- A new engine has no frames and no transport. -/
theorem sound_new {config : EngineConfig} {nothing : Watched σ} {outside : ρ}
    (hnew : Engine.new config nothing outside = .ok e) : e.Sound := by
  have hlinked := linked_new hnew
  obtain rfl := eq_of_new hnew
  exact ⟨hlinked, rfl, fun _ => nofun, .inr ⟨rfl, rfl, fun _ => rfl⟩⟩

/-! ## Without a transport -/

/-- An engine without a transport. -/
structure Detached (e : Engine (Watched σ) ρ) : Prop where
  linked : Linked e.outbound.bare none
  heard : e.outbound.heard = []
  forwarding : e.forwarding = none
  layer : e.dispatcher.layer = none

/-- An engine has a transport, or it has not. -/
theorem Steady.detached_or_attached (h : e.Steady) : e.Detached ∨ e.Attached := by
  rcases h.attached with hattached | ⟨hforwarding, hlayer⟩
  · exact .inr hattached
  · exact .inl ⟨hforwarding ▸ h.linked, h.heard, hforwarding, hlayer⟩

/-- If it has one, its layers are in order; if not, nothing is in flight. -/
theorem Sound.detached_or_orderly (h : e.Sound) :
    (e.Detached ∧ ∀ seq : UInt16, e.outbound.tracker.pending[seq]? = none) ∨ e.Orderly := by
  rcases h.attached with horderly | ⟨hforwarding, hlayer, hidle⟩
  · exact .inr horderly
  · exact .inl ⟨⟨hforwarding ▸ h.linked, h.heard, hforwarding, hlayer⟩, hidle⟩

/-- Having nothing to send with is one of the two. -/
theorem Detached.steady (h : e.Detached) : e.Steady :=
  ⟨h.forwarding ▸ h.linked, h.heard, .inr ⟨h.forwarding, h.layer⟩⟩

/-- Nobody listens to the tracker of an engine without a transport. -/
theorem Detached.slots_eq_nil (h : e.Detached) : e.outbound.status.slots = [] := h.linked.1

/-- Without a transport there is no retry layer, and no copy. -/
theorem Detached.entry?_eq (h : e.Detached) (seq : UInt16) : e.outbound.entry? seq = none := by
  have hretry : e.outbound.retry = none := Option.map_eq_none_iff.mp h.linked.2
  simp [Outbound.entry?, hretry]

/-- Without a transport there are no copies but of frames in flight, of which there are none. -/
theorem Detached.sound (h : e.Detached)
    (hidle : ∀ seq : UInt16, e.outbound.tracker.pending[seq]? = none) : e.Sound where
  linked := h.forwarding ▸ h.linked
  heard := h.heard
  tidy seq := by
    intro hcopy
    rw [show (e.outbound.slices () seq).copy = none from h.entry?_eq seq] at hcopy
    cases hcopy
  attached := .inr ⟨h.forwarding, h.layer, hidle⟩

/-- Without a transport a payload is not even given a number. -/
theorem send_of_unattached (hlayer : e.dispatcher.layer = none) (hheard : e.outbound.heard = [])
    (c : Carrier σ) (clock : Time) (id : UInt16) (payload : Bytes) :
    e.send c.watched clock id payload =
      (.error Dispatcher.unattached, e.publishError (.ofError id Dispatcher.unattached)) := by
  simp only [send, Dispatcher.dispatch, hlayer]
  exact congrArg (Engine.reported id (.error Dispatcher.unattached))
    (Hall.absorb_of_heard_nil hheard)

/-- A caller that waits uses up a number, and its slot is removed again if its payload is not
sent. -/
theorem beginWait_of_refused {id : UInt16} {payload : Bytes} {error : NetworkError}
    {outbound : Outbound (Watched σ) Unit} (hheard : outbound.heard = [])
    (hrefused : e.dispatcher.dispatchWith (layers c.watched clock) id
      e.dispatcher.sequence.upcoming payload e.outbound = (.error error, outbound)) :
    e.beginWait c.watched clock id payload = (.error error, { e with
      outbound
      dispatcher := e.dispatcher.draw.2
      waiters := (e.waiters.register e.dispatcher.sequence.upcoming).cancel
        e.dispatcher.sequence.upcoming
      errors := e.errors ++ [.ofError id error] }) := by
  obtain ⟨sent, hsent, hcases⟩ := Hall.beginWait_cases (c := c.watched) e clock id payload
  obtain rfl : sent = (.error error, outbound) := hsent.symm.trans hrefused
  rcases hcases with ⟨hok, -⟩ | ⟨error', herror, hbegin⟩
  · cases hok
  · cases herror
    let told := { Hall.afterRegister e with outbound }
    have htold : told.absorb = told := Hall.absorb_of_heard_nil hheard
    exact hbegin.trans (congrArg (fun told : Engine (Watched σ) ρ => (Except.error error,
      ({ told with waiters := told.waiters.cancel e.dispatcher.sequence.upcoming }.reported
        (α := UInt16) id (.error error)).2)) htold)

/-- A caller that wants to wait without a transport uses up a number. -/
theorem Detached.beginWait_eq (h : e.Detached) (c : Carrier σ) (clock : Time) (id : UInt16)
    (payload : Bytes) : e.beginWait c.watched clock id payload =
      (.error Dispatcher.unattached, { e with
        dispatcher := e.dispatcher.draw.2
        waiters := (e.waiters.register e.dispatcher.sequence.upcoming).cancel
          e.dispatcher.sequence.upcoming
        errors := e.errors ++ [.ofError id Dispatcher.unattached] }) := by
  refine beginWait_of_refused h.heard ?_
  rw [Dispatcher.dispatchWith, h.layer]

/-- What can become of an engine without a transport: frames that were put on record are forgotten,
and nothing is published. -/
structure Detached.Leaves (e e' : Engine (Watched σ) ρ) : Prop where
  detached : e'.Detached
  delivered_eq : e'.delivered = e.delivered
  idle : ∀ seq : UInt16, e.outbound.tracker.pending[seq]? = none →
    e'.outbound.tracker.pending[seq]? = none

/-- Without a transport nothing is done that is about a frame but forgetting it. -/
theorem Detached.does {d : Deed} (h : e.Detached) (hdoes : Does c e d e') :
    Detached.Leaves e e' := by
  have hforget {tracker : Tracker} (htimeout : tracker.timeout = e.outbound.tracker.timeout)
      (hfewer : ∀ seq : UInt16, e.outbound.tracker.pending[seq]? = none →
        tracker.pending[seq]? = none) :
      Detached.Leaves e { e with outbound := { e.outbound with tracker } }.absorb := by
    have hsame : { e with outbound := { e.outbound with tracker } }.absorb =
        { e with outbound := { e.outbound with tracker } } := Hall.absorb_of_heard_nil h.heard
    have hbare : ({ e.outbound with tracker } : Outbound (Watched σ) Unit).bare =
        e.outbound.bare := by
      dsimp only [Outbound.bare]
      rw [htimeout]
    rw [hsame]
    exact ⟨⟨hbare ▸ h.linked, h.heard, h.forwarding, h.layer⟩, rfl, hfewer⟩
  cases hdoes with
  | @send clock id payload =>
    rw [send_of_unattached h.layer h.heard]
    exact ⟨⟨h.linked, h.heard, h.forwarding, h.layer⟩, rfl, fun _ hnone => hnone⟩
  | @beginWait clock id payload =>
    rw [h.beginWait_eq]
    exact ⟨⟨h.linked, h.heard, h.forwarding, h.layer⟩, rfl, fun _ hnone => hnone⟩
  | @scan now clock late hlate =>
    rw [expire, Outbound.expireAll_of_slots_eq_nil h.slots_eq_nil]
    refine hforget (Outbound.timeout_foldl_erase late _) fun seq hnone => ?_
    rw [Outbound.getElem?_foldl_erase, hnone, ite_self]
  | @handle clock frame =>
    cases hack : frame.header.isAck with
    | true =>
      rw [handleFrame, if_pos hack, acknowledge,
        Outbound.acknowledge_of_slots_eq_nil h.slots_eq_nil]
      refine hforget (by simp) fun seq hnone => ?_
      rw [Tracker.getElem?_erase, hnone, ite_self]
    | false =>
      obtain ⟨errors, outside, duplicates, heq⟩ :=
        handleFrame_eq (e := e) (c := c) clock hack
      rw [heq]
      rcases sendAck_eq (e := e) (c := c) frame.header with hsame | ⟨errors', hsent⟩
      · rw [hsame]
        exact ⟨⟨h.linked, h.heard, h.forwarding, h.layer⟩, rfl, fun _ hnone => hnone⟩
      · rw [hsent]
        exact ⟨⟨h.linked, h.heard, h.forwarding, h.layer⟩, rfl, fun _ hnone => hnone⟩
  | aside => exact ⟨⟨h.linked, h.heard, h.forwarding, h.layer⟩, rfl, fun _ hnone => hnone⟩

/-! ## With a transport -/

/-- A payload that is sent leaves a copy only beside a record. -/
theorem Attached.tidy_sentOn {layer : Layer} (h : e.Attached)
    (hlayer : e.dispatcher.layer = some layer) (id : UInt16) (payload : Bytes)
    (htidy : ∀ seq, (e.outbound.slices () seq).Tidy) (seq : UInt16) :
    ((e.sentOn c.watched clock layer id payload).outbound.slices () seq).Tidy := by
  rcases h.sendOn_cases hlayer c clock id e.dispatcher.sequence.upcoming payload with
    ⟨error, hrefused⟩ | ⟨header, -, -, hack, hsent⟩
  · simp only [Engine.sentOn, hrefused]
    exact htidy seq
  · have hslice :
        ((e.outbound.sendReliable c.watched clock header payload).2.slices () seq).Tidy := by
      rw [Outbound.slices_sendReliable hack]
      by_cases hs : seq = header.seq
      · subst hs
        rw [update_self]
        intro hcopy
        cases htaken : (e.outbound.sendReliable c.watched clock header payload).1.isOk with
        | true => rfl
        | false => simp [htaken] at hcopy
      · rw [update_of_ne hs]
        exact htidy seq
    simp only [Engine.sentOn, hsent]
    exact hslice

/-- Whatever an engine with a transport does, there are copies only of frames in flight. -/
theorem Attached.tidy_does {d : Deed} (h : e.Attached) (hdoes : Does c e d e')
    (htidy : ∀ seq, (e.outbound.slices () seq).Tidy) (seq : UInt16) :
    (e'.outbound.slices () seq).Tidy := by
  cases hdoes.comes h with
  | sent hlayer => exact h.tidy_sentOn hlayer _ _ htidy seq
  | @expired now clock late hlate =>
    have hscan : Outbound.Performs c e.outbound (.scan now clock)
      (e.outbound.expireAll c.watched clock late) := .scan hlate
    have hevolves : (e.outbound.slices () seq).Evolves _ seq (.scan now clock) _ :=
      hscan.evolves h.ready rfl
    have hlater := (htidy seq).evolves hevolves
    exact hlater
  | @acknowledged clock frame =>
    have hacked : Outbound.Performs c e.outbound (.acknowledge clock frame.header.seq)
      (e.outbound.acknowledge c.watched clock frame.header.seq).2 := .acknowledge
    have hevolves : (e.outbound.slices () seq).Evolves _ seq
        (.acknowledge clock frame.header.seq) _ := hacked.evolves h.ready rfl
    have hlater := (htidy seq).evolves hevolves
    exact hlater
  | confirmed => exact htidy seq
  | ignored => exact htidy seq
  | aside => exact htidy seq

/-- Whatever is done with an engine, it passes on what is published and stays connected. -/
theorem Steady.step {s s' : Carrier σ × Engine (Watched σ) ρ} (h : s.2.Steady)
    (hstep : Step s s') : s'.2.Steady := by
  cases hstep with
  | attach hattach =>
    have hattaches := attaches_attach h.linked hattach
    have horderly := hattaches.orderly h.heard
    exact ⟨hattaches.linked, horderly.heard, .inl horderly.attached⟩
  | register id invoker =>
    refine ⟨h.linked, h.heard, h.attached.imp_left fun hattached => ?_⟩
    exact hattached.congr rfl (fun _ => rfl) rfl
  | does hdoes =>
    rcases h.detached_or_attached with hdetached | hattached
    · exact (hdetached.does hdoes).detached.steady
    · obtain ⟨hbare, hforwarding⟩ := hdoes.bare_eq hattached
      refine ⟨?_, hdoes.heard_eq hattached h.heard, .inl (hdoes.attached hattached)⟩
      rw [hbare, hforwarding]
      exact h.linked

/-- As long as an engine alone puts frames on record, there are copies only of those. -/
theorem Sound.step {s s' : Carrier σ × Engine (Watched σ) ρ} (h : s.2.Sound) (hstep : Step s s') :
    s'.2.Sound := by
  obtain ⟨hlinked, hheard, -⟩ := h.steady.step hstep
  cases hstep with
  | attach hattach =>
    have hattaches := attaches_attach h.linked hattach
    refine ⟨hlinked, hheard, fun seq => ?_, .inl (hattaches.orderly h.heard)⟩
    cases hattaches <;> simp [Slice.Tidy, Outbound.slices, Outbound.entry?]
  | register id invoker =>
    refine ⟨hlinked, hheard, h.tidy, h.attached.imp_left fun horderly => ?_⟩
    exact ⟨horderly.attached.congr rfl (fun _ => rfl) rfl, horderly.matched, horderly.heard⟩
  | does hdoes =>
    rcases h.detached_or_orderly with ⟨hdetached, hidle⟩ | horderly
    · have hleaves := hdetached.does hdoes
      exact hleaves.detached.sound fun seq => hleaves.idle seq (hidle seq)
    · exact ⟨hlinked, hheard, horderly.attached.tidy_does hdoes h.tidy, .inl (horderly.does hdoes)⟩

/-- What holds of every engine that came from a new one. -/
theorem sound_of_steps {config : EngineConfig} {nothing : Watched σ} {outside : ρ}
    (hnew : Engine.new config nothing outside = .ok start)
    {s : Carrier σ × Engine (Watched σ) ρ} (hsteps : Relation.ReflTransGen Step (c, start) s) :
    s.2.Sound := by
  induction hsteps with
  | refl => exact sound_new hnew
  | tail _ hstep ih => exact ih.step hstep

/-- Under a number that is not drawn nothing is sent. -/
theorem Does.ne_send {d : Deed} (h : e.Attached) (hdoes : Does c e d e') (hdraw : ¬Draws seq e e')
    (clock : Time) (id : UInt16) (payload : Bytes) : d ≠ .send clock id seq payload := by
  rintro rfl
  rcases hdoes.upcoming_eq h with ⟨_, _, _, hsend, hnext⟩ | ⟨hother, -⟩
  · cases hsend
    refine hdraw ⟨rfl, fun hsame => ?_⟩
    rw [hsame] at hnext
    simp at hnext
  · exact hother _ _ _ _ rfl

end Engine

end Courier
