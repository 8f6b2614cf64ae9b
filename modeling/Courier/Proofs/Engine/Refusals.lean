import Courier.Engine.Remote
import Courier.Proofs.Delivery.Failures
import Courier.Proofs.Engine.SharedTracker
import Mathlib.Logic.Function.Iterate

/-!
# Calls that fail

Before the frame of a call is handed to the transport, room is made for it in up to three places:
a slot for a caller that waits, a copy, and a record. If the frame cannot be sent, each of these is
taken back by the layer that made it, and the failure is published once, where the call returns.

Nobody looks whether the number that a call draws is still in use somewhere. What was left under it,
the slot of a caller that has not picked up its outcome or a copy whose record was taken away, is
then taken back together with what was made.
-/

namespace Courier

namespace Tracker

variable {t : Tracker} {seq id : UInt16} {clock : Time}

/-- Stopping to track a frame undoes tracking it, unless its number was in use. -/
theorem erase_add (h : t.pending[seq]? = none) : (t.add seq id clock).erase seq = t := by
  refine ext_getElem? (by simp) fun other => ?_
  rw [getElem?_erase]
  by_cases hs : seq = other
  · rw [if_pos hs, ← hs, h]
  · by_cases hack : id = ackId
    · rw [if_neg hs, add, if_pos hack]
    · rw [if_neg hs, getElem?_add hack, if_neg hs]

end Tracker

namespace Outbound

variable {σ κ : Type} {o : Outbound σ κ} {c : Carrier σ} {clock : Time} {header : Header}
  {payload : Bytes}

/-- Forgetting a copy forgets the copy that was kept last under its number, and any before it. -/
theorem mapEntries_erase_insert (seq : UInt16) (copy : RetryEntry) :
    (o.mapEntries (·.insert seq copy)).mapEntries (·.erase seq) = o.mapEntries (·.erase seq) := by
  have hentries (entries : Std.ExtTreeMap UInt16 RetryEntry) :
      (entries.insert seq copy).erase seq = entries.erase seq := by
    refine Std.ExtTreeMap.ext_getElem? fun other => ?_
    simp only [Std.ExtTreeMap.getElem?_erase, Std.ExtTreeMap.getElem?_insert]
    by_cases hs : compare seq other = .eq
    · simp [hs]
    · simp [hs]
  simp [mapEntries, Function.comp_def, hentries]

/-- Forgetting the copy under a number changes nothing if there is none. -/
theorem mapEntries_erase_of_entry?_eq_none {seq : UInt16} (h : o.entry? seq = none) :
    o.mapEntries (·.erase seq) = o := by
  obtain ⟨tracker, status, _ | r, medium, heard⟩ := o
  · rfl
  · have hentries : r.entries.erase seq = r.entries := by
      refine Std.ExtTreeMap.ext_getElem? fun other => ?_
      rw [Std.ExtTreeMap.getElem?_erase]
      by_cases hs : seq = other
      · have hnone : r.entries[seq]? = none := h
        simp [← hs, hnone]
      · simp [Std.LawfulEqCmp.compare_eq_iff_eq, hs]
    simp only [mapEntries, Option.map_some, hentries]

/-- Of a frame under a free number that is not taken, nothing is left behind in the layers; neither
is a copy that was kept under its number before. -/
theorem sendReliable_of_refused (hack : header.isAck = false)
    (hrecord : o.tracker.pending[header.seq]? = none)
    (hrefused : (o.sendReliable c clock header payload).1.isOk = false) :
    (o.sendReliable c clock header payload).2 =
      { o.mapEntries (·.erase header.seq) with medium := (c.send header payload o.medium).2 } := by
  rw [sendReliable_eq hack] at hrefused ⊢
  dsimp only at hrefused ⊢
  rw [sendTracked_eq hack] at hrefused ⊢
  dsimp only at hrefused ⊢
  have hmedium (f) : (o.mapEntries f).medium = o.medium := rfl
  have htracker (f) : (o.mapEntries f).tracker = o.tracker := rfl
  rw [hmedium] at hrefused ⊢
  rw [hrefused, htracker, Tracker.erase_add hrecord]
  simp only [Bool.false_eq_true, if_false]
  have hundone := mapEntries_erase_insert (o := o) header.seq ⟨header, payload, o.retries⟩
  exact congrArg (fun o' => { o' with medium := (c.send header payload o.medium).2 }) hundone

/-- What is left of the layers when a payload is refused under a free number: nothing was handed
over, or the transport did not take the frame, and there is no copy under its number any more. -/
inductive Refused (seq : UInt16) (o : Outbound (Watched σ) κ) : Outbound (Watched σ) κ → Prop
  | beforehand : Refused seq o o
  | handed {state : σ} {t : Transmission} : t.header.seq = seq → t.taken = false →
      Refused seq o
        { o.mapEntries (·.erase seq) with medium := ⟨state, o.medium.handed ++ [t]⟩ }

/-- Nobody hears of a payload that is refused. -/
theorem Refused.heard_eq {seq : UInt16} {o o' : Outbound (Watched σ) κ} (h : Refused seq o o') :
    o'.heard = o.heard := by cases h <;> rfl

end Outbound

/-- Encoding does not fail because a delivery failed. -/
def Content.Candid : Content → Prop
  | .payload _ => True
  | .argument encoded => Courier.Candid encoded

/-- A codec says for itself why a value cannot be encoded. -/
theorem candid_encode {α : Type} (codec : Codec α) (v : α) :
    (Content.argument (codec.serializer.encode v)).Candid := by
  have hreport (written : Except String Bytes) :
      Candid (written.mapError (NetworkError.serialization none)) := by
    cases written with
    | ok bytes => exact candid_ok bytes
    | error text => exact candid_error nofun
  exact hreport _

namespace Engine

variable {σ ρ : Type} {e e' start : Engine (Watched σ) ρ} {c : Carrier σ} {clock : Time}
  {seq id : UInt16} {payload : Bytes} {error : NetworkError} {r : Request}

/-! ## Calls -/

/-- Whether a number is drawn and the transport refuses the frame with it on the way from one state
to the next. -/
def Refuses (seq : UInt16) (e e' : Engine (Watched σ) ρ) : Prop :=
  Draws seq e e' ∧ ∃ t : Transmission, t.header.seq = seq ∧ t.taken = false ∧
    e'.outbound.medium.handed = e.outbound.medium.handed ++ [t]

/-- What is left of a call that failed: the record, the copy and the slot that were made for it are
gone, no others are touched, nothing was published but the failure, once. If there was a copy under
the number that was drawn, it is gone if the transport refused the frame, and if there was a slot,
it is gone if the caller would have waited. -/
structure Undone (r : Request) (error : NetworkError) (e e' : Engine (Watched σ) ρ) : Prop where
  tracker_eq : e'.outbound.tracker = e.outbound.tracker
  retry_eq : (∀ seq, Refuses seq e e' → e.outbound.entry? seq = none) →
    e'.outbound.retry = e.outbound.retry
  retry_eq_erase : ∀ seq, Refuses seq e e' →
    e'.outbound.retry = (e.outbound.mapEntries (·.erase seq)).retry
  waiters_eq : (r.waits = true → ∀ seq, Draws seq e e' → e.waiters.slots[seq]? = none) →
    e'.waiters = e.waiters
  waiters_eq_cancel : r.waits = true → ∀ seq, Draws seq e e' → e'.waiters = e.waiters.cancel seq
  delivered_eq : e'.delivered = e.delivered
  errors_eq : e'.errors = e.errors ++ [.ofError r.id error]

/-- A call that draws no number leaves nothing behind but its failure. -/
theorem undone_publishError (r : Request) (error : NetworkError) (e : Engine (Watched σ) ρ) :
    Undone r error e (e.publishError (.ofError r.id error)) where
  tracker_eq := rfl
  retry_eq _ := rfl
  retry_eq_erase _ hrefuses := absurd rfl hrefuses.1.2
  waiters_eq _ := rfl
  waiters_eq_cancel _ _ hdraws := absurd rfl hdraws.2
  delivered_eq := rfl
  errors_eq := rfl

/-- Waiting callers are the same if they have the same slots. -/
theorem waiters_ext {w w' : Waiters} (h : ∀ seq : UInt16, w.slots[seq]? = w'.slots[seq]?) :
    w = w' := congrArg Waiters.mk (Std.ExtTreeMap.ext_getElem? fun seq => h seq)

/-- Removing a slot undoes making it, and removes a slot that was there before. -/
theorem cancel_register (w : Waiters) (seq : UInt16) :
    (w.register seq).cancel seq = w.cancel seq := by
  refine waiters_ext fun other => ?_
  rw [Hall.getElem?_cancel, Hall.getElem?_cancel, Hall.getElem?_register]
  by_cases hs : seq = other
  · rw [if_pos hs, if_pos hs]
  · rw [if_neg hs, if_neg hs, if_neg hs]

/-- Removing the slot under a number changes nothing if there is none. -/
theorem cancel_of_getElem?_eq_none {w : Waiters} (h : w.slots[seq]? = none) : w.cancel seq = w := by
  refine waiters_ext fun other => ?_
  rw [Hall.getElem?_cancel]
  by_cases hs : seq = other
  · rw [if_pos hs, ← hs, h]
  · rw [if_neg hs]

/-- A call whose payload is refused under the number that was drawn for it. -/
theorem undone_of_refused {outbound : Outbound (Watched σ) Unit}
    (hrefused : e.outbound.Refused e.dispatcher.sequence.upcoming outbound) (r : Request)
    (error : NetworkError) : Undone r error e { e with
      outbound
      dispatcher := e.dispatcher.draw.2
      waiters := if r.waits then e.waiters.cancel e.dispatcher.sequence.upcoming else e.waiters
      errors := e.errors ++ [.ofError r.id error] } where
  tracker_eq := by cases hrefused <;> rfl
  retry_eq hnone := by
    cases hrefused with
    | beforehand => rfl
    | handed hseq htaken =>
      have hcopy := hnone _ ⟨draws_of_draw rfl, _, hseq, htaken, rfl⟩
      have hsame : (e.outbound.mapEntries (·.erase e.dispatcher.sequence.upcoming)).retry =
          e.outbound.retry := by rw [Outbound.mapEntries_erase_of_entry?_eq_none hcopy]
      exact hsame
  retry_eq_erase seq hrefuses := by
    obtain ⟨hdraws, t, -, -, hhanded⟩ := hrefuses
    obtain rfl : e.dispatcher.sequence.upcoming = seq := hdraws.1
    cases hrefused with
    | beforehand => exact absurd hhanded.symm (by simp)
    | handed => rfl
  waiters_eq hnone := by
    cases hwaits : r.waits with
    | false => rfl
    | true => exact cancel_of_getElem?_eq_none (hnone hwaits _ (draws_of_draw rfl))
  waiters_eq_cancel hwaits seq hdraws := by
    obtain rfl : e.dispatcher.sequence.upcoming = seq := hdraws.1
    exact if_pos hwaits
  delivered_eq := rfl
  errors_eq := rfl

/-- What the layers refuse under a free number leaves nothing behind in them. -/
theorem Steady.sendOn_refused {layer : Layer} (h : e.Steady)
    (hlayer : e.dispatcher.layer = some layer)
    (hfree : e.outbound.tracker.pending[e.dispatcher.sequence.upcoming]? = none)
    (hrefused : (Dispatcher.sendOn (layers c.watched clock) layer id e.dispatcher.sequence.upcoming
      payload e.outbound).1 = .error error) :
    ∃ outbound, Dispatcher.sendOn (layers c.watched clock) layer id e.dispatcher.sequence.upcoming
        payload e.outbound = (.error error, outbound) ∧
      e.outbound.Refused e.dispatcher.sequence.upcoming outbound := by
  rcases h.attached with hattached | ⟨-, hnone⟩
  · rcases hattached.sendOn_cases hlayer c clock id e.dispatcher.sequence.upcoming payload with
      ⟨error', hsame⟩ | ⟨header, -, hseq, hack, hsent⟩
    · rw [hsame] at hrefused ⊢
      exact ⟨e.outbound, by rw [Except.error.inj hrefused], .beforehand⟩
    · rw [hsent] at hrefused ⊢
      rw [← hseq] at hfree ⊢
      have hfailed : (e.outbound.sendReliable c.watched clock header payload).1.isOk = false := by
        rw [hrefused]
        rfl
      have htaken : (c.send header payload e.outbound.medium.state).1.isOk = false := by
        rw [Outbound.sendReliable_eq hack] at hfailed
        dsimp only at hfailed
        rw [Outbound.sendTracked_eq hack] at hfailed
        exact hfailed
      refine ⟨_, Prod.ext hrefused (Outbound.sendReliable_of_refused hack hfree hfailed), ?_⟩
      exact .handed (t := ⟨header, payload, _⟩) rfl htaken
  · cases hnone.symm.trans hlayer

/-- A caller that does not wait, and whose payload the layers refuse, uses up a number. -/
theorem send_of_refused {layer : Layer} {outbound : Outbound (Watched σ) Unit}
    (hlayer : e.dispatcher.layer = some layer) (hheard : outbound.heard = [])
    (hrefused : Dispatcher.sendOn (layers c.watched clock) layer id
      e.dispatcher.sequence.upcoming payload e.outbound = (.error error, outbound)) :
    e.send c.watched clock id payload = (.error error, { e with
      outbound
      dispatcher := e.dispatcher.draw.2
      errors := e.errors ++ [.ofError id error] }) := by
  have hdraw : e.dispatcher.draw = (e.dispatcher.sequence.upcoming, e.dispatcher.draw.2) := rfl
  have hdispatch : e.dispatcher.dispatch (layers c.watched clock) id payload e.outbound =
      (.error error, e.dispatcher.draw.2, outbound) := by
    simp only [Dispatcher.dispatch, hlayer]
    rw [hdraw]
    simp only [hrefused]
  let sent := { e with outbound, dispatcher := e.dispatcher.draw.2 }
  have hsent : sent.absorb = sent := Hall.absorb_of_heard_nil hheard
  rw [send, hdispatch]
  exact congrArg (Engine.reported id (.error error)) hsent

/-- Publishing a failure passes it on. -/
theorem fst_reported {α : Type} (id : UInt16) (result : Except NetworkError α)
    (e : Engine (Watched σ) ρ) : (e.reported id result).1 = result := by
  cases result <;> rfl

/-- Sending fails as the layers do. -/
theorem sendOn_of_failed_send {layer : Layer} (hlayer : e.dispatcher.layer = some layer)
    (hfailed : (e.send c.watched clock id payload).1 = .error error) :
    (Dispatcher.sendOn (layers c.watched clock) layer id e.dispatcher.sequence.upcoming payload
      e.outbound).1 = .error error := by
  have hdraw : e.dispatcher.draw = (e.dispatcher.sequence.upcoming, e.dispatcher.draw.2) := rfl
  rw [send] at hfailed
  simp only [Dispatcher.dispatch, hlayer, fst_reported] at hfailed
  rw [hdraw] at hfailed
  dsimp only at hfailed
  generalize Dispatcher.sendOn (layers c.watched clock) layer id e.dispatcher.sequence.upcoming
    payload e.outbound = sent at hfailed ⊢
  obtain ⟨error' | ⟨⟩, outbound⟩ := sent
  · exact congrArg _ (Except.error.inj hfailed)
  · cases hfailed

/-- A call that does not wait, and whose payload cannot be sent. -/
theorem Steady.undone_send (h : e.Steady) (hwaits : r.waits = false)
    (hfailed : (e.send c.watched clock r.id payload).1 = .error error)
    (hfree : ∀ seq, Draws seq e (e.send c.watched clock r.id payload).2 →
      e.outbound.tracker.pending[seq]? = none) :
    Undone r error e (e.send c.watched clock r.id payload).2 := by
  cases hlayer : e.dispatcher.layer with
  | none =>
    rw [send_of_unattached hlayer h.heard] at hfailed ⊢
    rw [← Except.error.inj hfailed]
    exact undone_publishError r _ e
  | some layer =>
    obtain ⟨errors, hsent⟩ : ∃ errors, (e.send c.watched clock r.id payload).2 =
        { e.sentOn c.watched clock layer r.id payload with errors } := send_eq r.id payload hlayer
    have hdraws : Draws e.dispatcher.sequence.upcoming e (e.send c.watched clock r.id payload).2 :=
      draws_of_draw (by rw [hsent]; rfl)
    obtain ⟨outbound, hnothing, hrefused⟩ :=
      h.sendOn_refused hlayer (hfree _ hdraws) (sendOn_of_failed_send hlayer hfailed)
    rw [send_of_refused hlayer (hrefused.heard_eq.trans h.heard) hnothing]
    have hundone := undone_of_refused hrefused r error
    rwa [hwaits] at hundone

/-- A call that waits, and whose payload cannot be sent. -/
theorem Steady.undone_beginWait (h : e.Steady) (hwaits : r.waits = true)
    (hfailed : (e.beginWait c.watched clock r.id payload).1 = .error error)
    (hfree : ∀ seq, Draws seq e (e.beginWait c.watched clock r.id payload).2 →
      e.outbound.tracker.pending[seq]? = none) :
    Undone r error e (e.beginWait c.watched clock r.id payload).2 := by
  obtain ⟨sent, hsent, hcases⟩ := Hall.beginWait_cases (c := c.watched) e clock r.id payload
  rcases hcases with ⟨-, hbegin⟩ | ⟨error', herror, hbegin⟩
  · rw [hbegin] at hfailed
    cases hfailed
  · have hdraws : Draws e.dispatcher.sequence.upcoming e
        (e.beginWait c.watched clock r.id payload).2 := draws_of_draw (by rw [hbegin]; rfl)
    rw [hbegin] at hfailed
    obtain rfl : error' = error := Except.error.inj hfailed
    obtain ⟨outbound, hnothing, hrefused⟩ : ∃ outbound,
        e.dispatcher.dispatchWith (layers c.watched clock) r.id e.dispatcher.sequence.upcoming
          payload e.outbound = (.error error', outbound) ∧
        e.outbound.Refused e.dispatcher.sequence.upcoming outbound := by
      have hsame : e.dispatcher.dispatchWith (layers c.watched clock) r.id
        e.dispatcher.sequence.upcoming payload e.outbound = sent := hsent
      cases hlayer : e.dispatcher.layer with
      | none =>
        rw [Dispatcher.dispatchWith, hlayer] at hsame ⊢
        rw [← hsame] at herror
        exact ⟨e.outbound, by rw [Except.error.inj herror], .beforehand⟩
      | some layer =>
        rw [Dispatcher.dispatchWith, hlayer] at hsame ⊢
        rw [← hsame] at herror
        exact h.sendOn_refused hlayer (hfree _ hdraws) herror
    rw [beginWait_of_refused (hrefused.heard_eq.trans h.heard) hnothing, cancel_register]
    have hundone := undone_of_refused hrefused r error'
    rwa [hwaits] at hundone

/-- A call that is taken publishes no failure. -/
theorem errors_of_ok_send (hok : (e.send c.watched clock id payload).1 = .ok seq) :
    (e.send c.watched clock id payload).2.errors = e.errors := by
  rw [send] at hok ⊢
  generalize e.dispatcher.dispatch (layers c.watched clock) id payload e.outbound = sent at hok ⊢
  obtain ⟨error | seq', dispatcher, outbound⟩ := sent
  · cases hok
  · rfl

/-- A call whose caller begins to wait publishes no failure. -/
theorem errors_of_ok_beginWait (hok : (e.beginWait c.watched clock id payload).1 = .ok seq) :
    (e.beginWait c.watched clock id payload).2.errors = e.errors := by
  obtain ⟨sent, -, ⟨-, hbegin⟩ | ⟨error', -, hbegin⟩⟩ :=
    Hall.beginWait_cases (c := c.watched) e clock id payload
  · rw [hbegin]
    rfl
  · rw [hbegin] at hok
    cases hok

/-- The payload of a call is there, or the failure to encode it was published. -/
theorem payloadOf_cases (r : Request) (e : Engine (Watched σ) ρ) :
    (∃ payload, e.payloadOf r = (.ok payload, e)) ∨
      ∃ error, (r.content.Candid → error.kind ≠ .delivery) ∧
        e.payloadOf r = (.error error, e.publishError (.ofError r.id error)) := by
  unfold payloadOf
  split
  · next bytes _ => exact .inl ⟨bytes, rfl⟩
  · next encoded hcontent =>
    cases encoded with
    | ok bytes => exact .inl ⟨bytes, rfl⟩
    | error error =>
      refine .inr ⟨error.forEndpoint r.id, fun hcandid => ?_, rfl⟩
      rw [hcontent] at hcandid
      have hkind : (error.forEndpoint r.id).kind = error.kind := by
        unfold NetworkError.forEndpoint
        split <;> rfl
      rw [hkind]
      exact hcandid error rfl

/-- A call that fails before anybody waits fails for a reason of the transport or the dispatcher. -/
theorem candid_send (hc : c.Candid) : Courier.Candid (e.send c.watched clock id payload).1 := by
  intro error hfailed
  cases hlayer : e.dispatcher.layer with
  | none =>
    rw [send] at hfailed
    simp only [Dispatcher.dispatch, hlayer, fst_reported] at hfailed
    rw [← Except.error.inj hfailed]
    have hkind : Dispatcher.unattached.kind ≠ .delivery := by decide
    exact hkind
  | some layer =>
    have hwatched : c.watched.Candid := fun header payload w => hc header payload w.state
    have hcandid := e.dispatcher.candid_dispatchWith hwatched clock id
      e.dispatcher.sequence.upcoming payload e.outbound
    rw [Dispatcher.dispatchWith, hlayer] at hcandid
    exact hcandid error (sendOn_of_failed_send hlayer hfailed)

/-- Beginning to wait fails for a reason of the transport or the dispatcher. -/
theorem candid_beginWait (hc : c.Candid) :
    Courier.Candid (e.beginWait c.watched clock id payload).1 := by
  intro error hfailed
  obtain ⟨sent, hsent, hcases⟩ := Hall.beginWait_cases (c := c.watched) e clock id payload
  rcases hcases with ⟨-, hbegin⟩ | ⟨error', herror, hbegin⟩
  · rw [hbegin] at hfailed
    cases hfailed
  · rw [hbegin] at hfailed
    obtain rfl : error' = error := Except.error.inj hfailed
    have hwatched : c.watched.Candid := fun header payload w => hc header payload w.state
    have hcandid := (Hall.afterRegister e).dispatcher.candid_dispatchWith hwatched clock id
      e.dispatcher.sequence.upcoming payload (Hall.afterRegister e).outbound
    rw [hsent] at hcandid
    exact hcandid error' herror

/-- A call is one thing that is done with an engine. -/
theorem step_ask (c : Carrier σ) (clock : Time) (r : Request) (e : Engine (Watched σ) ρ) :
    Step (c, e) (c, (e.ask c.watched clock r).2) := by
  unfold ask
  rcases payloadOf_cases r e with ⟨payload, hpayload⟩ | ⟨error, -, hfailed⟩
  · rw [hpayload]
    dsimp only
    split
    · split
      · exact .does .aside
      · exact .does .beginWait
    · exact .does .send
  · rw [hfailed]
    exact .does .aside

/-- What becomes of a call, up to the point where a caller begins to wait. -/
theorem Steady.ask_cases (h : e.Steady) (c : Carrier σ) (clock : Time) (r : Request) :
    let result := e.ask c.watched clock r
    (∀ error, result.1 = .error error →
      (∀ seq, Draws seq e result.2 → e.outbound.tracker.pending[seq]? = none) →
      (c.Candid → r.content.Candid → error.kind ≠ .delivery) ∧ Undone r error e result.2) ∧
    ∀ seq, result.1 = .ok seq → result.2.errors = e.errors := by
  unfold ask
  rcases payloadOf_cases r e with ⟨payload, hpayload⟩ | ⟨error, hcandid, hfailed⟩
  · rw [hpayload]
    dsimp only
    cases hwaits : r.waits with
    | false =>
      simp only [Bool.false_eq_true, if_false]
      exact ⟨fun error herror hfree =>
          ⟨fun hc _ => candid_send hc error herror, h.undone_send hwaits herror hfree⟩,
        fun seq => errors_of_ok_send⟩
    | true =>
      cases hthread : r.onThread with
      | false =>
        simp only [Bool.false_eq_true, if_false, if_true]
        exact ⟨fun error herror hfree =>
            ⟨fun hc _ => candid_beginWait hc error herror, h.undone_beginWait hwaits herror hfree⟩,
          fun seq => errors_of_ok_beginWait⟩
      | true =>
        simp only [if_true]
        refine ⟨fun error herror _ => ?_, nofun⟩
        obtain rfl := Except.error.inj herror
        exact ⟨fun _ _ => nofun, undone_publishError r _ e⟩
  · rw [hfailed]
    refine ⟨fun error' herror _ => ?_, nofun⟩
    obtain rfl := Except.error.inj herror
    exact ⟨fun _ => hcandid, undone_publishError r _ e⟩

/-- A caller that waits is answered without a failure being published, and the only failures that it
is told of are those of a delivery. -/
theorem waiting_publishes_nothing (e : Engine (Watched σ) ρ) (id seq : UInt16) :
    (e.poll id seq).2.errors = e.errors ∧ (e.giveUp id seq).2.errors = e.errors ∧
      ∀ error, (e.poll id seq).1 = some (.error error) ∨ (e.giveUp id seq).1 = .error error →
        error.kind = .delivery := by
  have hanswer (outcome : Option Outcome) (error : NetworkError)
      (herror : e.waitAnswer id seq outcome = .error error) : error.kind = .delivery := by
    rcases outcome with _ | _ | _
    · rw [← Except.error.inj herror]
      rfl
    · cases herror
    · rw [← Except.error.inj herror]
      rfl
  refine ⟨rfl, rfl, fun error herror => ?_⟩
  rcases herror with hpoll | hgiveUp
  · rcases Hall.poll_cases e id seq with ⟨-, hnothing⟩ | ⟨outcome, -, hfound⟩
    · rw [hnothing] at hpoll
      cases hpoll
    · rw [hfound] at hpoll
      exact hanswer (some outcome) error (Option.some.inj hpoll)
  · exact hanswer (e.waiters.giveUp seq).1 error hgiveUp

/-! ## A number that comes round again -/

/-- A call that is refused again and again uses up numbers, and changes nothing else but what was
published of failures. -/
theorem exists_iterate_ask {layer : Layer} (hlayer : e.dispatcher.layer = some layer)
    (hheard : e.outbound.heard = []) (n : ℕ) : ∃ errors,
      (fun e => (e.ask c.watched clock ⟨ackId, .payload payload, false, false⟩).2)^[n] e =
        e.numberedFrom (e.dispatcher.sequence.upcoming + UInt16.ofNat n) errors := by
  induction n with
  | zero => exact ⟨e.errors, by simp [numberedFrom]⟩
  | succ n ih =>
    obtain ⟨errors, hn⟩ := ih
    have hsucc : UInt16.ofNat (n + 1) = UInt16.ofNat n + 1 := UInt16.ofNat_add n 1
    rw [Function.iterate_succ_apply', hn, hsucc, ← UInt16.add_assoc]
    generalize e.dispatcher.sequence.upcoming + UInt16.ofNat n = next
    have hrefused : ∃ errors', ((e.numberedFrom next errors).send c.watched clock ackId payload).2 =
        e.numberedFrom (next + 1) errors' :=
      send_ackId_of_numberedFrom hlayer hheard next errors payload
    exact hrefused

/-- A call that is made again and again is a use of the engine. -/
theorem uses_iterate_ask (c : Carrier σ) (clock : Time) (r : Request) (e : Engine (Watched σ) ρ)
    (n : ℕ) :
    Relation.ReflTransGen Use (c, e) (c, (fun e => (e.ask c.watched clock r).2)^[n] e) := by
  induction n with
  | zero => exact .refl
  | succ n ih =>
    rw [Function.iterate_succ_apply']
    exact .tail ih (.step (step_ask c clock r _))

/-! ## Every call -/

/-- Whatever was done with an engine and its tracker, and whether or not it has a transport: a call
that fails before its caller waits leaves nothing behind if nothing is on record under the number
that was drawn for it, and takes away nothing but a copy or a slot that was left under this number.
Its failure is published once, and no outcome is published under the number before it is drawn or
put on record again. A call that is taken publishes no failure, and neither does waiting. -/
theorem failed_calls_are_undone {config : EngineConfig} {nothing : Watched σ} {outside : ρ}
    {c₀ : Carrier σ} (hnew : Engine.new config nothing outside = .ok start)
    (huses : Relation.ReflTransGen Use (c₀, start) (c, e)) (clock : Time) (r : Request) :
    let result := e.ask c.watched clock r
    (∀ error, result.1 = .error error →
      (∀ seq, Draws seq e result.2 → e.outbound.tracker.isPending seq = false) →
      (c.Candid → r.content.Candid → error.kind ≠ .delivery) ∧ Undone r error e result.2 ∧
      ∀ seq, Draws seq e result.2 → ∀ s, Undrawn seq (c, result.2) s →
        s.2.delivered.filter (·.seq = seq) = e.delivered.filter (·.seq = seq)) ∧
    (∀ seq, result.1 = .ok seq → result.2.errors = e.errors) ∧
    ∀ id seq, (e.poll id seq).2.errors = e.errors ∧ (e.giveUp id seq).2.errors = e.errors ∧
      ∀ error, (e.poll id seq).1 = some (.error error) ∨ (e.giveUp id seq).1 = .error error →
        error.kind = .delivery := by
  intro result
  have hsteady : e.Steady := steady_of_uses hnew huses
  obtain ⟨hfails, htaken⟩ := hsteady.ask_cases c clock r
  refine ⟨fun error herror hunused => ?_, htaken, waiting_publishes_nothing e⟩
  have hfree : ∀ seq, Draws seq e result.2 → e.outbound.tracker.pending[seq]? = none := by
    intro seq hdraw
    have hpending := hunused seq hdraw
    rwa [Tracker.isPending_eq, Option.isSome_eq_false_iff, Option.isNone_iff_eq_none] at hpending
  obtain ⟨hkind, hundone⟩ := hfails error herror hfree
  refine ⟨hkind, hundone, fun seq hdraw s hlater => ?_⟩
  have hidle : result.2.outbound.tracker.pending[seq]? = none := by
    rw [hundone.tracker_eq]
    exact hfree seq hdraw
  have hlast : result.2.Steady := hsteady.step (step_ask c clock r e)
  rw [hlater.quiet hlast hidle, hundone.delivered_eq]

/-- A caller wants to wait for an endpoint behind an end that is gone: a slot, a copy and a record
are made, and none of them is left. -/
theorem failed_calls_are_undone_of_gone_peer :
    let c := MemoryLink.carrier .near
    ∃ start e : Engine (Watched MemoryLink) Unit, Engine.new {} ⟨{}, []⟩ () = .ok start ∧
      Relation.ReflTransGen Use (c, start) (c, e) ∧ e.outbound.retry.isSome ∧
      let result := e.ask c.watched 5 ⟨9, .payload [1], true, false⟩
      result.1 = .error MemoryLink.peerGone ∧
      (∀ seq, Draws seq e result.2 → e.outbound.tracker.isPending seq = false) ∧
      result.2.outbound.tracker = e.outbound.tracker ∧
      result.2.outbound.retry = e.outbound.retry ∧ result.2.waiters = e.waiters ∧
      result.2.errors = [⟨9, .transport, "Transport error: memory peer disconnected"⟩] := by
  intro c
  let gone : MemoryLink := { far := { isOpen := false } }
  let attached := onLink {} .near ()
  let e := { attached with outbound := { attached.outbound with
    medium := { attached.outbound.medium with state := gone } } }
  have hvalid : ({} : EngineConfig).validate = .ok () := rfl
  obtain ⟨start, hnew, hattach⟩ := exists_attach_onLink hvalid .near ()
  have hattached : Use (c, start) (c, attached) := .step (.attach hattach)
  have hgone : Use (c, attached) (c, e) := .step (.does .aside)
  have huses : Relation.ReflTransGen Use (c, start) (c, e) := .tail (.single hattached) hgone
  have hfailed : (e.ask c.watched 5 ⟨9, .payload [1], true, false⟩).1 =
    .error MemoryLink.peerGone := rfl
  have hunused : ∀ seq, Draws seq e (e.ask c.watched 5 ⟨9, .payload [1], true, false⟩).2 →
      e.outbound.tracker.isPending seq = false := fun seq _ => rfl
  obtain ⟨-, hundone, -⟩ := (failed_calls_are_undone hnew huses 5 _).1 _ hfailed hunused
  exact ⟨start, e, hnew, huses, rfl, hfailed, hunused, hundone.tracker_eq,
    hundone.retry_eq fun _ _ => rfl, hundone.waiters_eq fun _ _ _ => rfl, hundone.errors_eq⟩

/-- A caller waits under the number 0, which comes round again. In one run the frame was
acknowledged, and the caller has not picked that up when another one that wants to wait is refused:
its slot is gone. In another run the tracker was told to forget the frame, and the other end closes
before the next frame is sent: the copy is gone. Nothing is on record under the number in either
run. -/
theorem failed_calls_take_what_was_left :
    let c := MemoryLink.carrier .near
    let refuse (e : Engine (Watched MemoryLink) Unit) : Engine (Watched MemoryLink) Unit :=
      (e.ask c.watched 2 ⟨ackId, .payload [], false, false⟩).2
    let close (e : Engine (Watched MemoryLink) Unit) : Engine (Watched MemoryLink) Unit :=
      { e with outbound := { e.outbound with
        medium := { e.outbound.medium with state := { far := { isOpen := false } } } } }
    let waiting := ((onLink {} .near ()).ask c.watched 0 ⟨9, .payload [1], true, false⟩).2
    let answered := refuse^[65535] (waiting.handleFrame c.watched 1 ⟨.ack 0, []⟩)
    let late := answered.ask c.watched 3 ⟨ackId, .payload [], true, false⟩
    let forgotten := refuse^[65535] (waiting.retrack (waiting.outbound.tracker.erase 0).pending)
    let lost := (close forgotten).ask c.watched 3 ⟨9, .payload [2], false, false⟩
    ∃ start, Engine.new {} ⟨{}, []⟩ () = .ok start ∧
      (Relation.ReflTransGen Use (c, start) (c, answered) ∧
        late.1 = .error Dispatcher.reservedId ∧ Draws 0 answered late.2 ∧
        answered.outbound.tracker.isPending 0 = false ∧
        answered.waiters.slots[(0 : UInt16)]? = some (some .success) ∧
        late.2.waiters.slots[(0 : UInt16)]? = none) ∧
      Relation.ReflTransGen Use (c, start) (c, close forgotten) ∧
        lost.1 = .error MemoryLink.peerGone ∧ Draws 0 (close forgotten) lost.2 ∧
        (close forgotten).outbound.tracker.isPending 0 = false ∧
        ((close forgotten).outbound.entry? 0).isSome ∧ lost.2.outbound.entry? 0 = none := by
  intro c refuse close waiting answered late forgotten lost
  have hvalid : ({} : EngineConfig).validate = .ok () := rfl
  have hround : (1 : UInt16) + UInt16.ofNat 65535 = 0 := by decide
  obtain ⟨start, hnew, hattach⟩ := exists_attach_onLink hvalid .near ()
  have hwaiting : Relation.ReflTransGen Use (c, start) (c, waiting) :=
    .tail (.single (.step (.attach hattach))) (.step (step_ask c 0 _ _))
  refine ⟨start, hnew, ?_, ?_⟩
  · let acked := waiting.handleFrame c.watched 1 ⟨.ack 0, []⟩
    have hacked : Use (c, waiting) (c, acked) := .step (.does .handle)
    have hlayer : acked.dispatcher.layer = some .reliable := rfl
    obtain ⟨errors, heq⟩ : ∃ errors, answered =
        acked.numberedFrom (1 + UInt16.ofNat 65535) errors := exists_iterate_ask hlayer rfl 65535
    rw [hround] at heq
    -- The slot with the outcome is still there, and the one that is made in its place is removed.
    have hslot : acked.waiters.slots[(0 : UInt16)]? = some (some .success) := by decide +kernel
    have hremoved : ((acked.waiters.register 0).cancel 0).slots[(0 : UInt16)]? = none := by
      rw [Hall.getElem?_cancel, if_pos rfl]
    have hlate : late = Engine.ask c.watched 3 ⟨ackId, .payload [], true, false⟩ answered := rfl
    refine ⟨(hwaiting.tail hacked).trans (uses_iterate_ask c 2 _ _ 65535), ?_⟩
    rw [hlate, heq]
    exact ⟨rfl, draws_of_draw rfl, rfl, hslot, hremoved⟩
  · let untracked := waiting.retrack (waiting.outbound.tracker.erase 0).pending
    have hlayer : untracked.dispatcher.layer = some .reliable := rfl
    obtain ⟨errors, heq⟩ : ∃ errors, forgotten =
        untracked.numberedFrom (1 + UInt16.ofNat 65535) errors :=
      exists_iterate_ask hlayer rfl 65535
    rw [hround] at heq
    have hforgotten : Relation.ReflTransGen Use (c, start) (c, forgotten) :=
      (hwaiting.tail (.retrack _)).trans (uses_iterate_ask c 2 _ _ 65535)
    have hlost : lost =
      Engine.ask c.watched 3 ⟨9, .payload [2], false, false⟩ (close forgotten) := rfl
    refine ⟨hforgotten.tail (.step (.does .aside)), ?_⟩
    rw [hlost, heq]
    exact ⟨rfl, draws_of_draw rfl, rfl, rfl, rfl⟩

end Engine

end Courier
