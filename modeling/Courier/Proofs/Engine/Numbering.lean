import Courier.Proofs.Engine.Deeds

/-!
# Numbers in flight

The counter of an engine starts anew after 65535 numbers, whatever is still in flight. A number is
drawn while a frame is in flight under it exactly if a payload that was sent under it has no
outcome yet when the number comes around. As long as this does not happen, every payload that was
sent has an outcome of its own or is in flight; each time it does happen, one is left without.
-/

namespace Courier

namespace Engine

/-! ## What is noticed of an engine -/

/-- What a user of an engine notices: that a payload is sent to an endpoint under the number that is
drawn for it, with or without a failure, or that an outcome is published. Beside a payload it is
written down whether a frame was in flight under its number just then. -/
inductive Notice where
  | sent (id seq : UInt16) (taken inUse : Bool)
  | told (status : DeliveryStatus)
deriving DecidableEq, Repr

/-- The number that a notice is about. -/
def Notice.seq : Notice → UInt16
  | .sent _ seq _ _ => seq
  | .told status => status.seq

/-- The notices about a number. -/
def under (seq : UInt16) (notices : List Notice) : List Notice := notices.filter (·.seq = seq)

/-- The numbers that were drawn. -/
def drawn (notices : List Notice) : List UInt16 :=
  notices.filterMap fun
    | .sent _ seq _ _ => some seq
    | .told _ => none

/-- The endpoints of the payloads that were sent without a failure. -/
def accepted (notices : List Notice) : List UInt16 :=
  notices.filterMap fun
    | .sent id _ true _ => some id
    | _ => none

/-- The endpoints of the payloads that were sent without a failure under a number that was in
use. -/
def replacing (notices : List Notice) : List UInt16 :=
  notices.filterMap fun
    | .sent id _ true true => some id
    | _ => none

/-- The endpoints of the outcomes that were published. -/
def ended (notices : List Notice) : List UInt16 :=
  notices.filterMap fun
    | .sent .. => none
    | .told status => some status.endpoint

/-- What a notice about a number makes of the endpoint whose payload waits for its outcome. -/
def Notice.awaits (waiting : Option UInt16) : Notice → Option UInt16
  | .sent id _ taken _ => if taken then some id else waiting
  | .told _ => none

/-- Among the notices about one number, the endpoint of the last payload that was sent without a
failure, if no outcome was published since. -/
def awaited (notices : List Notice) : Option UInt16 := notices.foldl Notice.awaits none

/-- Among the notices about one number, whenever the number is drawn, whatever was sent under it
before has its outcome. -/
def Separate (notices : List Notice) : Prop :=
  ∀ before id seq taken inUse after, notices = before ++ .sent id seq taken inUse :: after →
    awaited before = none

/-- No number was in use when it was drawn. -/
def Unshared (notices : List Notice) : Prop := ∀ id seq taken, .sent id seq taken true ∉ notices

variable {σ ρ : Type} {e e' start : Engine (Watched σ) ρ} {c : Carrier σ}

/-- The endpoint of the frame in flight under a number. -/
def inFlightUnder (e : Engine (Watched σ) ρ) (seq : UInt16) : Option UInt16 :=
  e.outbound.tracker.pending[seq]?.map (·.endpoint)

/-- The notice of a payload that is sent under the next number, with the result of sending it. -/
def drawing (e : Engine (Watched σ) ρ) (id : UInt16) (result : Except NetworkError UInt16) :
    Notice :=
  .sent id e.dispatcher.sequence.upcoming result.isOk
    (e.outbound.tracker.isPending e.dispatcher.sequence.upcoming)

/-- A deed of an engine, with the notice of a payload if it sends one. -/
inductive Shows (c : Carrier σ) (e : Engine (Watched σ) ρ) :
    List Notice → Engine (Watched σ) ρ → Prop
  | send {clock : Time} {id : UInt16} {payload : Bytes} :
      Shows c e [e.drawing id (e.send c.watched clock id payload).1]
        (e.send c.watched clock id payload).2
  | beginWait {clock : Time} {id : UInt16} {payload : Bytes} :
      Shows c e [e.drawing id (e.beginWait c.watched clock id payload).1]
        (e.beginWait c.watched clock id payload).2
  | other {d : Deed} {e' : Engine (Watched σ) ρ} : Does c e d e' →
      (∀ clock id seq payload, d ≠ .send clock id seq payload) → Shows c e [] e'

/-- Deeds of an engine one after the other, as they are noticed: what is drawn, and then what is
published. -/
inductive Life (c : Carrier σ) (start : Engine (Watched σ) ρ) :
    List Notice → Engine (Watched σ) ρ → Prop
  | stop : Life c start [] start
  | step {e e' : Engine (Watched σ) ρ} {notices draws : List Notice}
      {told : List DeliveryStatus} : Life c start notices e → Shows c e draws e' →
      e'.delivered = e.delivered ++ told →
      Life c start (notices ++ (draws ++ told.map .told)) e'

/-- What a deed may do under one number: nothing, send a payload, which takes the place of what is
in flight or, if it fails, may end that without an outcome, or publish an outcome of what is in
flight. -/
inductive Moves (seq : UInt16) (flying : Option UInt16) : List Notice → Option UInt16 → Prop
  | rest : Moves seq flying [] flying
  | accepted {id : UInt16} : Moves seq flying [.sent id seq true flying.isSome] (some id)
  | refused {id : UInt16} {flying' : Option UInt16} : flying' = flying ∨ flying' = none →
      Moves seq flying [.sent id seq false flying.isSome] flying'
  | ended {id : UInt16} {outcome : Outcome} : flying = some id →
      Moves seq flying [.told ⟨id, seq, outcome⟩] none

/-- What the notices about one number say of what is in flight under it. -/
structure Accounted (notices : List Notice) (flying : Option UInt16) : Prop where
  /-- The number is in use when it is drawn exactly if something sent under it has no outcome. -/
  separate_iff : Separate notices ↔ Unshared notices
  /-- If it never is, what waits for its outcome is in flight. -/
  flying_eq : Unshared notices → flying = awaited notices
  /-- Then everything that was sent has its outcome, in order, but for what is in flight. -/
  accepted_eq : Unshared notices → accepted notices = ended notices ++ flying.toList
  /-- In any case each time one payload takes the place of another, one is left without. -/
  length_le : (ended notices).length + flying.toList.length + (replacing notices).length ≤
    (accepted notices).length

/-! ## One number -/

/-- A payload is noticed under the number that was drawn for it. -/
theorem under_sent_self (id seq : UInt16) (taken inUse : Bool) :
    under seq [.sent id seq taken inUse] = [.sent id seq taken inUse] := by
  simp [under, Notice.seq]

/-- A payload is not noticed under a number other than the one that was drawn for it. -/
theorem under_sent_of_ne {id drawn seq : UInt16} {taken inUse : Bool} (h : drawn ≠ seq) :
    under seq [.sent id drawn taken inUse] = [] := by
  simp [under, Notice.seq, h]

variable {notices own : List Notice} {n : Notice} {seq : UInt16} {flying flying' : Option UInt16}

/-- What was accepted is counted notice by notice. -/
theorem accepted_append (first second : List Notice) :
    accepted (first ++ second) = accepted first ++ accepted second := List.filterMap_append

/-- What has ended is counted notice by notice. -/
theorem ended_append (first second : List Notice) :
    ended (first ++ second) = ended first ++ ended second := List.filterMap_append

/-- What took the place of something else is counted notice by notice. -/
theorem replacing_append (first second : List Notice) :
    replacing (first ++ second) = replacing first ++ replacing second := List.filterMap_append

/-- A new notice decides what is waited for. -/
theorem awaited_concat (notices : List Notice) (n : Notice) :
    awaited (notices ++ [n]) = n.awaits (awaited notices) := by
  rw [awaited, List.foldl_append]
  rfl

/-- A number is kept apart if nothing is waited for whenever it is drawn. -/
theorem separate_concat : Separate (notices ++ [n]) ↔
    Separate notices ∧
      ∀ id seq taken inUse, n = .sent id seq taken inUse → awaited notices = none := by
  constructor
  · intro h
    constructor
    · rintro before id seq taken inUse after rfl
      exact h before id seq taken inUse (after ++ [n]) (by simp)
    · rintro id seq taken inUse rfl
      exact h notices id seq taken inUse [] rfl
  · rintro ⟨hearlier, hlast⟩ before id seq taken inUse after heq
    rcases List.eq_nil_or_concat after with rfl | ⟨after, last, rfl⟩
    · obtain ⟨rfl, hn⟩ := List.append_inj' heq rfl
      exact hlast id seq taken inUse (List.cons.inj hn).1
    · rw [List.concat_eq_append, ← List.cons_append, ← List.append_assoc] at heq
      exact hearlier before id seq taken inUse after (List.append_inj' heq rfl).1

/-- A number is unshared if it is never drawn while it is in use. -/
theorem unshared_concat : Unshared (notices ++ [n]) ↔
    Unshared notices ∧ ∀ id seq taken, n ≠ .sent id seq taken true := by
  simp only [Unshared, List.mem_append, List.mem_singleton, not_or, forall_and]
  exact and_congr_right fun _ => forall₃_congr fun _ _ _ => ne_comm

/-- At first nothing is in flight and nothing was noticed. -/
theorem Accounted.nil : Accounted [] none where
  separate_iff := ⟨fun _ _ _ _ => nofun, fun _ _ _ _ _ _ _ h => by simp at h⟩
  flying_eq _ := rfl
  accepted_eq _ := rfl
  length_le := Nat.le_refl 0

/-- Whether a number is in use when it is drawn can be told from what was noticed before. -/
theorem Accounted.separate_concat_sent {id : UInt16} {taken : Bool}
    (h : Accounted notices flying) :
    Separate (notices ++ [.sent id seq taken flying.isSome]) ↔
      Unshared (notices ++ [.sent id seq taken flying.isSome]) := by
  rw [separate_concat, unshared_concat, h.separate_iff]
  refine and_congr_right fun hunshared => ?_
  rw [← h.flying_eq hunshared]
  cases flying <;> simp

/-- Where no number is shared, nothing is in flight under a number that is drawn. -/
theorem Accounted.eq_none_of_unshared {id : UInt16} {taken : Bool}
    (h : Unshared (notices ++ [.sent id seq taken flying.isSome])) :
    Unshared notices ∧ flying = none := by
  obtain ⟨hunshared, hlast⟩ := unshared_concat.mp h
  refine ⟨hunshared, ?_⟩
  cases flying with
  | none => rfl
  | some endpoint => exact absurd rfl (hlast id seq taken)

/-- Whatever a deed does under a number, the notices about the number go on telling what is in
flight under it. -/
theorem Accounted.moves (h : Accounted notices flying) (hmoves : Moves seq flying own flying') :
    Accounted (notices ++ own) flying' := by
  cases hmoves with
  | rest => rwa [List.append_nil]
  | @accepted id => exact {
      separate_iff := h.separate_concat_sent
      flying_eq := fun _ => by rw [awaited_concat]; rfl
      accepted_eq := by
        intro hunshared
        obtain ⟨hearlier, rfl⟩ := eq_none_of_unshared hunshared
        rw [accepted_append, ended_append, h.accepted_eq hearlier]
        simp [accepted, ended]
      length_le := by
        have hle := h.length_le
        rw [accepted_append, ended_append, replacing_append]
        cases flying <;> simp [accepted, ended, replacing] at hle ⊢ <;> omega }
  | @refused id _ hflying => exact {
      separate_iff := h.separate_concat_sent
      flying_eq := by
        intro hunshared
        obtain ⟨hearlier, rfl⟩ := eq_none_of_unshared hunshared
        obtain rfl : flying' = none := or_self_iff.mp hflying
        rw [awaited_concat, ← h.flying_eq hearlier]
        rfl
      accepted_eq := by
        intro hunshared
        obtain ⟨hearlier, rfl⟩ := eq_none_of_unshared hunshared
        obtain rfl : flying' = none := or_self_iff.mp hflying
        rw [accepted_append, ended_append, h.accepted_eq hearlier]
        simp [accepted, ended]
      length_le := by
        have hle := h.length_le
        rw [accepted_append, ended_append, replacing_append]
        rcases hflying with rfl | rfl <;> simp [accepted, ended, replacing] at hle ⊢ <;> omega }
  | @ended id outcome hflying =>
    subst hflying
    have hnotices (hunshared : Unshared (notices ++ [.told ⟨id, seq, outcome⟩])) :
        Unshared notices := (unshared_concat.mp hunshared).1
    exact {
      separate_iff := by
        rw [separate_concat, unshared_concat, h.separate_iff]
        exact and_congr_right fun _ => ⟨fun _ => nofun, fun _ => nofun⟩
      flying_eq := fun _ => by rw [awaited_concat]; rfl
      accepted_eq := by
        intro hunshared
        rw [accepted_append, ended_append, h.accepted_eq (hnotices hunshared)]
        simp [accepted, ended]
      length_le := by
        have hle := h.length_le
        rw [accepted_append, ended_append, replacing_append]
        simp [accepted, ended, replacing] at hle ⊢
        omega }

end Engine

/-! ## One deed -/

namespace Slice

variable {seq : UInt16} {d : Engine.Deed} {v v' : Slice}

/-- The record and the copy under a number are of frames for one endpoint. -/
def Matched (v : Slice) : Prop :=
  ∀ copy record, v.copy = some copy → v.record = some record → record.endpoint = copy.header.id

/-- What is resent is recorded for the endpoint that it was sent to at first. -/
theorem Matched.follows (h : v.Matched) (hfollows : v.Follows seq d v') : v'.Matched := by
  cases hfollows with
  | same => exact h
  | @sent clock id payload header taken copy hid hseq hack hcopy =>
    intro copy record hsome hrecord
    rw [(hcopy copy hsome).1]
    cases taken with
    | false => cases hrecord
    | true => rw [← Option.some.inj hrecord]
  | confirmed => exact h
  | acknowledged => nofun
  | late hrecord hlate =>
    cases hlate with
    | untracked => nofun
    | exhausted => nofun
    | abandoned => nofun
    | resent hcopy =>
      rintro copy record ⟨⟩ ⟨⟩
      rfl

/-- A deed that draws no number leaves a number alone or ends what is in flight under it. -/
theorem Follows.moves (h : v.Matched) (hfollows : v.Follows seq d v')
    (hno : ∀ clock id seq payload, d ≠ .send clock id seq payload) :
    ∃ told, v'.told = v.told ++ told ∧
      Engine.Moves seq (v.record.map (·.endpoint)) (told.map .told)
        (v'.record.map (·.endpoint)) := by
  have hended {record : InFlight} (outcome : Outcome) (hrecord : v.record = some record) :
      Engine.Moves seq (v.record.map (·.endpoint)) [.told ⟨record.endpoint, seq, outcome⟩]
        none := by
    refine .ended ?_
    rw [hrecord, Option.map_some]
  cases hfollows with
  | same => exact ⟨[], (List.append_nil _).symm, .rest⟩
  | sent => exact absurd rfl (hno _ _ _ _)
  | confirmed => exact ⟨[], (List.append_nil _).symm, .rest⟩
  | @acknowledged clock frame record hack hseq hrecord => exact ⟨_, rfl, hended .success hrecord⟩
  | @late now clock record _ hrecord hlate =>
    cases hlate with
    | untracked => exact ⟨_, rfl, hended .timeout hrecord⟩
    | exhausted => exact ⟨_, rfl, hended .timeout hrecord⟩
    | abandoned => exact ⟨_, rfl, hended .timeout hrecord⟩
    | @resent copy hcopy =>
      refine ⟨[], (List.append_nil _).symm, ?_⟩
      have hsame : v.record.map (·.endpoint) = some copy.header.id := by
        rw [hrecord, Option.map_some, h copy record hcopy hrecord]
      rw [hsame]
      exact .rest

end Slice

namespace Engine

open Function (update_self update_of_ne)

variable {σ ρ : Type} {e e' start : Engine (Watched σ) ρ} {c : Carrier σ} {clock : Time}
  {notices draws : List Notice} {seq : UInt16}

/-- Sending fails exactly if the layers fail. -/
theorem isOk_send {layer : Layer} (id : UInt16) (payload : Bytes)
    (h : e.dispatcher.layer = some layer) : (e.send c.watched clock id payload).1.isOk =
      (Dispatcher.sendOn (layers c.watched clock) layer id e.dispatcher.sequence.upcoming payload
        e.outbound).1.isOk := by
  rw [← Dispatcher.isOk_dispatch id payload h, send]
  generalize e.dispatcher.dispatch (layers c.watched clock) id payload e.outbound = sent
  rcases sent with ⟨error | seq, dispatcher, outbound⟩ <;> rfl

/-- A call that would wait is taken exactly if the layers take its payload. -/
theorem isOk_beginWait {layer : Layer} (id : UInt16) (payload : Bytes)
    (h : e.dispatcher.layer = some layer) : (e.beginWait c.watched clock id payload).1.isOk =
      (Dispatcher.sendOn (layers c.watched clock) layer id e.dispatcher.sequence.upcoming payload
        e.outbound).1.isOk := by
  have hdraw : e.dispatcher.draw = (e.dispatcher.sequence.upcoming, e.dispatcher.draw.2) := rfl
  have hlayer : e.dispatcher.draw.2.layer = some layer := h
  unfold beginWait
  rw [hdraw]
  simp only [Dispatcher.dispatchWith, hlayer]
  generalize Dispatcher.sendOn (layers c.watched clock) layer id e.dispatcher.sequence.upcoming
    payload e.outbound = sent
  rcases sent with ⟨error | ⟨⟩, outbound⟩ <;> rfl

/-- With or without somebody waiting, a payload is sent in the same way; any other deed draws no
number. -/
theorem Shows.comes (h : e.Attached) (hshows : Shows c e draws e') :
    (∃ clock id payload layer, ∃ result : Except NetworkError UInt16, ∃ errors waiters,
      e.dispatcher.layer = some layer ∧
      result.isOk = (Dispatcher.sendOn (layers c.watched clock) layer id
        e.dispatcher.sequence.upcoming payload e.outbound).1.isOk ∧
      draws = [e.drawing id result] ∧
      e' = { e.sentOn c.watched clock layer id payload with errors, waiters }) ∨
    draws = [] ∧ ∃ d, Does c e d e' ∧ ∀ clock id seq payload, d ≠ .send clock id seq payload := by
  cases hshows with
  | @send clock id payload =>
    obtain ⟨errors, heq⟩ := send_eq id payload h.layer
    exact .inl ⟨clock, id, payload, _, _, errors, _, h.layer, isOk_send id payload h.layer,
      rfl, heq⟩
  | @beginWait clock id payload =>
    obtain ⟨errors, waiters, heq⟩ := beginWait_eq id payload h.layer
    exact .inl ⟨clock, id, payload, _, _, errors, waiters, h.layer,
      isOk_beginWait id payload h.layer, rfl, heq⟩
  | other hdoes hno => exact .inr ⟨rfl, _, hdoes, hno⟩

/-- Sending a payload publishes nothing, and the payload takes the place of what is in flight under
its number, unless it was refused. -/
theorem Attached.moves_sentOn {layer : Layer} (h : e.Attached)
    (hlayer : e.dispatcher.layer = some layer) (id : UInt16) (payload : Bytes) (seq : UInt16)
    {result : Except NetworkError UInt16}
    (hresult : result.isOk = (Dispatcher.sendOn (layers c.watched clock) layer id
      e.dispatcher.sequence.upcoming payload e.outbound).1.isOk) :
    ((e.sentOn c.watched clock layer id payload).slices seq).told = (e.slices seq).told ∧
      Moves seq (e.inFlightUnder seq) (under seq [e.drawing id result])
        ((e.sentOn c.watched clock layer id payload).inFlightUnder seq) := by
  have hinUse : e.outbound.tracker.isPending e.dispatcher.sequence.upcoming =
      (e.inFlightUnder e.dispatcher.sequence.upcoming).isSome := by
    rw [Tracker.isPending_eq, inFlightUnder, Option.isSome_map]
  have hslice : (e.sentOn c.watched clock layer id payload).slices seq =
      ((Dispatcher.sendOn (layers c.watched clock) layer id e.dispatcher.sequence.upcoming payload
        e.outbound).2.slices () seq).after (e.delivered.filter (·.seq = seq)) := by
    rw [Engine.sentOn, slices_absorb]
    rfl
  have hflying : (e.sentOn c.watched clock layer id payload).inFlightUnder seq =
      ((e.sentOn c.watched clock layer id payload).slices seq).record.map (·.endpoint) := rfl
  rw [drawing, hinUse, hresult, hflying, hslice]
  rcases h.sendOn_cases hlayer c clock id e.dispatcher.sequence.upcoming payload with
    ⟨error, hrefused⟩ | ⟨header, rfl, hseq, hack, hsent⟩
  · rw [hrefused]
    refine ⟨rfl, ?_⟩
    by_cases hs : e.dispatcher.sequence.upcoming = seq
    · rw [hs, under_sent_self]
      exact .refused (.inl rfl)
    · rw [under_sent_of_ne hs]
      exact .rest
  · rw [hsent, Outbound.slices_sendReliable hack, ← hseq]
    by_cases hs : header.seq = seq
    · subst hs
      rw [update_self, under_sent_self]
      cases (e.outbound.sendReliable c.watched clock header payload).1.isOk with
      | true => exact ⟨rfl, .accepted⟩
      | false => exact ⟨rfl, .refused (.inr rfl)⟩
    · rw [update_of_ne fun h => hs h.symm, under_sent_of_ne hs]
      exact ⟨rfl, .rest⟩

/-! ## Whole lives -/

/-- What is kept up by every deed: the layers are in order, and whatever they have published was
passed on. -/
structure Orderly (e : Engine (Watched σ) ρ) : Prop where
  attached : e.Attached
  matched : ∀ seq, (e.slices seq).Matched
  heard : e.outbound.heard = []

/-- An engine that is not used yet has nothing to put in order. -/
theorem Unused.orderly (h : e.Unused) : e.Orderly where
  attached := h.attached
  matched seq := by
    rw [h.blank]
    nofun
  heard := by
    refine List.eq_nil_iff_forall_not_mem.mpr ?_
    rintro ⟨⟨⟩, status⟩ hmem
    have htold : status ∈ (e.slices status.seq).told := by
      refine List.mem_append_right _ (List.mem_filter.mpr ⟨?_, decide_eq_true rfl⟩)
      exact List.mem_filterMap.mpr ⟨_, hmem, if_pos rfl⟩
    rw [h.blank] at htold
    cases htold

/-- What was told of a number has been passed on, if whatever was heard of has been. -/
theorem told_eq_of_heard_nil (h : e.outbound.heard = []) (seq : UInt16) :
    (e.slices seq).told = e.delivered.filter (·.seq = seq) := by
  simp [slices, Slice.after, Outbound.slices, Outbound.heardBy, h]

/-- Of each number exactly that was told which the engine has published. -/
theorem Orderly.told_eq (h : e.Orderly) (seq : UInt16) :
    (e.slices seq).told = e.delivered.filter (·.seq = seq) := told_eq_of_heard_nil h.heard seq

/-- Whatever the layers have published is passed on before a deed is done. -/
theorem Does.heard_eq {d : Deed} (h : e.Attached) (hheard : e.outbound.heard = [])
    (hdoes : Does c e d e') : e'.outbound.heard = [] := by
  cases hdoes.comes h with
  | sent => rfl
  | expired => rfl
  | acknowledged => rfl
  | confirmed => exact hheard
  | ignored => exact hheard
  | aside => exact hheard

/-- An engine stays in order, whatever it does. -/
theorem Orderly.does {d : Deed} (h : e.Orderly) (hdoes : Does c e d e') : e'.Orderly where
  attached := hdoes.attached h.attached
  matched seq := (h.matched seq).follows (hdoes.follows h.attached seq)
  heard := hdoes.heard_eq h.attached h.heard

/-- What is noticed is a deed. -/
theorem Shows.exists_does (h : Shows c e draws e') : ∃ d, Does c e d e' := by
  cases h with
  | send => exact ⟨_, .send⟩
  | beginWait => exact ⟨_, .beginWait⟩
  | other hdoes => exact ⟨_, hdoes⟩

/-- What is noticed under a number is noticed event by event. -/
theorem under_append (first second : List Notice) :
    under seq (first ++ second) = under seq first ++ under seq second := List.filter_append ..

/-- An outcome is noticed under its own number. -/
theorem under_told (told : List DeliveryStatus) :
    under seq (told.map .told) = (told.filter (·.seq = seq)).map .told := List.filter_map ..

/-- What is noticed of a deed under a number is one thing at most. -/
theorem Shows.moves (h : e.Orderly) (hshows : Shows c e draws e') {told : List DeliveryStatus}
    (htold : e'.delivered = e.delivered ++ told) (seq : UInt16) :
    Moves seq (e.inFlightUnder seq) (under seq (draws ++ told.map .told))
      (e'.inFlightUnder seq) := by
  obtain ⟨d, hdoes⟩ := hshows.exists_does
  have hsplit : (e'.slices seq).told = (e.slices seq).told ++ told.filter (·.seq = seq) := by
    rw [(h.does hdoes).told_eq, h.told_eq, htold, List.filter_append]
  rw [under_append, under_told]
  rcases hshows.comes h.attached with
    ⟨clock, id, payload, layer, result, errors, waiters, hlayer, hresult, rfl, rfl⟩ |
      ⟨rfl, d, hdoes, hno⟩
  · obtain ⟨hsame, hmoves⟩ := h.attached.moves_sentOn hlayer id payload seq hresult
    have hnone := List.append_right_eq_self.mp (hsplit.symm.trans hsame)
    rw [hnone, List.map_nil, List.append_nil]
    exact hmoves
  · obtain ⟨told', htold', hmoves⟩ := (hdoes.follows h.attached seq).moves (h.matched seq) hno
    rw [List.append_cancel_left (hsplit.symm.trans htold')]
    exact hmoves

/-- An engine stays in order all its life. -/
theorem Life.orderly (h : Life c start notices e) (hstart : start.Orderly) : e.Orderly := by
  induction h with
  | stop => exact hstart
  | step _ hshows _ ih =>
    obtain ⟨d, hdoes⟩ := hshows.exists_does
    exact ih.does hdoes

/-- At every point of its life the notices tell what an engine has in flight. -/
theorem Life.accounted (h : Life c start notices e) (hstart : start.Unused) (seq : UInt16) :
    Accounted (under seq notices) (e.inFlightUnder seq) := by
  induction h with
  | stop =>
    have hnone : start.inFlightUnder seq = none :=
      congrArg (fun v : Slice => v.record.map InFlight.endpoint) (hstart.blank seq)
    rw [hnone]
    exact .nil
  | step hlife hshows htold ih =>
    rw [under_append]
    exact ih.moves (hshows.moves (hlife.orderly hstart.orderly) htold seq)

/-- Numbers are drawn notice by notice. -/
theorem drawn_append (first second : List Notice) :
    drawn (first ++ second) = drawn first ++ drawn second := List.filterMap_append

/-- Outcomes draw no numbers. -/
theorem drawn_told (told : List DeliveryStatus) : drawn (told.map .told) = [] := by
  induction told with
  | nil => rfl
  | cons status told ih => exact ih

/-- Every payload uses up the next number, whatever becomes of it. -/
theorem Life.numbered (h : Life c start notices e) (hstart : start.Orderly) :
    Sequence.Consecutive start.dispatcher.sequence.upcoming (drawn notices)
      e.dispatcher.sequence.upcoming := by
  induction h with
  | stop => exact .nil
  | @step e e' notices draws told hlife hshows _ ih =>
    have hattached := (hlife.orderly hstart).attached
    rw [drawn_append, drawn_append, drawn_told, List.append_nil]
    rcases hshows.comes hattached with
      ⟨clock, id, payload, layer, result, errors, waiters, -, -, rfl, rfl⟩ | ⟨rfl, d, hdoes, hno⟩
    · exact ih.concat
    · rcases hdoes.upcoming_eq hattached with ⟨clock, id, payload, rfl, -⟩ | ⟨-, hsame⟩
      · exact absurd rfl (hno _ _ _ _)
      · rw [hsame]
        simpa [drawn] using ih

/-- Nothing is waited for before a number is drawn. -/
theorem awaited_eq_none (h : drawn notices = []) : awaited notices = none := by
  induction notices with
  | nil => rfl
  | cons n notices ih =>
    cases n with
    | sent => cases h
    | told => exact ih h

/-- A number was drawn if something was sent under it. -/
theorem mem_drawn : seq ∈ drawn notices ↔ ∃ id taken inUse, .sent id seq taken inUse ∈ notices := by
  constructor
  · intro h
    obtain ⟨n, hn, hseq⟩ := List.mem_filterMap.mp h
    cases n with
    | sent id _ taken inUse =>
      obtain rfl := Option.some.inj hseq
      exact ⟨id, taken, inUse, hn⟩
    | told => cases hseq
  · rintro ⟨id, taken, inUse, hn⟩
    exact List.mem_filterMap.mpr ⟨_, hn, rfl⟩

/-- Nothing was sent before under a number that was drawn once. -/
theorem separate_of_nodup (h : (drawn notices).Nodup) (seq : UInt16) :
    Separate (under seq notices) := by
  intro before id seq' taken inUse after heq
  have hown {n : Notice} (hn : n ∈ under seq notices) : n.seq = seq :=
    of_decide_eq_true (List.mem_filter.mp hn).2
  have hnodup : (drawn before ++ seq' :: drawn after).Nodup := by
    have hsub := (List.filter_sublist (p := fun n : Notice => n.seq = seq) (l := notices)).filterMap
      fun
        | .sent _ seq _ _ => some seq
        | .told _ => none
    have hdrawn : drawn (under seq notices) = drawn before ++ seq' :: drawn after := by
      rw [heq, drawn_append]
      rfl
    rw [← hdrawn]
    exact h.sublist hsub
  refine awaited_eq_none (List.eq_nil_iff_forall_not_mem.mpr ?_)
  intro earlier hearlier
  obtain ⟨id', taken', inUse', hmem⟩ := mem_drawn.mp hearlier
  have hsame : earlier = seq :=
    hown (n := .sent id' earlier taken' inUse') (heq ▸ List.mem_append_left _ hmem)
  have hseq' : seq' = seq :=
    hown (n := .sent id seq' taken inUse) (heq ▸ List.mem_append_right _ List.mem_cons_self)
  refine (List.nodup_append.mp hnodup).2.2 earlier hearlier seq' List.mem_cons_self ?_
  rw [hsame, hseq']

/-- Numbers are drawn one after the other, and 0 follows 65535. Under every number, a frame is in
flight when the number is drawn exactly if a payload that was sent under it before has no outcome
yet, which cannot be among the first 65536 numbers. As long as this does not happen every payload
that was sent has its own outcome or is in flight; each time it does, one is left without. -/
theorem Life.numbers_in_flight (h : Life c start notices e) (hstart : start.Unused) :
    Sequence.Consecutive start.dispatcher.sequence.upcoming (drawn notices)
        e.dispatcher.sequence.upcoming ∧
      (∀ seq, Accounted (under seq notices) (e.inFlightUnder seq)) ∧
      ((drawn notices).length ≤ 65536 → Unshared notices) := by
  have hnumbered := h.numbered hstart.orderly
  refine ⟨hnumbered, h.accounted hstart, ?_⟩
  intro hfew id seq taken hshared
  have hseparate := separate_of_nodup (hnumbered.nodup hfew) seq
  refine (h.accounted hstart seq).separate_iff.mp hseparate id seq taken ?_
  exact List.mem_filter.mpr ⟨hshared, decide_eq_true rfl⟩

/-- An engine that is the same but for its next number and the errors that it has published. -/
def numberedFrom (upcoming : UInt16) (errors : List ErrorEvent) (e : Engine (Watched σ) ρ) :
    Engine (Watched σ) ρ :=
  { e with dispatcher := { e.dispatcher with sequence := ⟨upcoming⟩ }, errors }

/-- A payload for the endpoint of acknowledgments is refused, but uses up a number. -/
theorem send_ackId {layer : Layer} (hlayer : e.dispatcher.layer = some layer)
    (hheard : e.outbound.heard = []) (payload : Bytes) : ∃ errors,
      (e.send c.watched clock ackId payload).2 =
        e.numberedFrom (e.dispatcher.sequence.upcoming + 1) errors := by
  obtain ⟨errors, heq⟩ := send_eq (c := c) ackId payload hlayer
  refine ⟨errors, heq.trans ?_⟩
  have hrefused : Dispatcher.sendOn (layers c.watched clock) layer ackId
      e.dispatcher.sequence.upcoming payload e.outbound =
      (.error Dispatcher.reservedId, e.outbound) := if_pos rfl
  have houtbound : { e.outbound with heard := [] } = e.outbound := by rw [← hheard]
  rw [sentOn, hrefused, absorb]
  simp only [hheard, houtbound, List.map_nil, List.foldl_nil, List.append_nil]
  rfl

/-- Whatever number is next, the refused payload uses up that one. -/
theorem send_ackId_of_numberedFrom {layer : Layer} (hlayer : e.dispatcher.layer = some layer)
    (hheard : e.outbound.heard = []) (next : UInt16) (errors : List ErrorEvent) (payload : Bytes) :
    ∃ errors', ((e.numberedFrom next errors).send c.watched clock ackId payload).2 =
      e.numberedFrom (next + 1) errors' := by
  have hlayer' : (e.numberedFrom next errors).dispatcher.layer = some layer := hlayer
  exact send_ackId hlayer' hheard payload

/-- Payloads that are refused use up as many numbers as there are payloads. -/
theorem Life.exists_refused {layer : Layer} (h : Life c start notices e)
    (hlayer : e.dispatcher.layer = some layer) (hheard : e.outbound.heard = []) (n : Nat) :
    ∃ more errors, Life c start (notices ++ more)
      (e.numberedFrom (e.dispatcher.sequence.upcoming + UInt16.ofNat n) errors) := by
  induction n with
  | zero => exact ⟨[], e.errors, by simpa [numberedFrom] using h⟩
  | succ n ih =>
    obtain ⟨more, errors, hlife⟩ := ih
    have hsucc : UInt16.ofNat (n + 1) = UInt16.ofNat n + 1 := UInt16.ofNat_add n 1
    rw [hsucc, ← UInt16.add_assoc]
    generalize e.dispatcher.sequence.upcoming + UInt16.ofNat n = next at hlife
    obtain ⟨errors', heq⟩ : ∃ errors', ((e.numberedFrom next errors).send c.watched 0 ackId []).2 =
        e.numberedFrom (next + 1) errors' := send_ackId_of_numberedFrom hlayer hheard next errors []
    have hdelivered : ((e.numberedFrom next errors).send c.watched 0 ackId []).2.delivered =
        (e.numberedFrom next errors).delivered ++ [] :=
      (congrArg Engine.delivered heq).trans (List.append_nil _).symm
    have hstep := hlife.step .send hdelivered
    rw [heq, List.append_assoc] at hstep
    exact ⟨_, errors', hstep⟩

/-- A payload is sent under number 0 and has no outcome. After 65535 more payloads the number is
drawn again, for a payload that takes the place of the first one. -/
theorem Life.numbers_in_flight_of_wrap :
    let c := MemoryLink.carrier .near
    ∃ (start e : Engine (Watched MemoryLink) Unit) (notices : List Notice), start.Unused ∧
      Life c start notices e ∧ .sent 3 0 true false ∈ notices ∧ .sent 4 0 true true ∈ notices ∧
      ¬ Separate (under 0 notices) ∧ e.inFlightUnder 0 = some 4 ∧ e.delivered = [] := by
  intro c
  let start := onLink {} .near ()
  have hstart : start.Unused := unused_onLink rfl .near ()
  let first := start.send c.watched 0 3 [9]
  have hnone : first.2.delivered = start.delivered ++ [] := rfl
  have hfirst : Life c start [start.drawing 3 first.1] first.2 := .step .stop .send hnone
  have hlayer : first.2.dispatcher.layer = some .reliable := rfl
  obtain ⟨more, errors, hmore⟩ := hfirst.exists_refused hlayer rfl 65535
  have hone : first.2.dispatcher.sequence.upcoming = 1 := rfl
  have hwrap : (1 : UInt16) + UInt16.ofNat 65535 = 0 := by decide
  rw [hone, hwrap] at hmore
  let wrapped := first.2.numberedFrom 0 errors
  let last := wrapped.send c.watched 0 4 [9]
  have hnone' : last.2.delivered = wrapped.delivered ++ [] := rfl
  have hlast : Life c start ([start.drawing 3 first.1] ++ more ++ [wrapped.drawing 4 last.1])
      last.2 := hmore.step .send hnone'
  have hshared : Notice.sent 4 0 true true ∈
      [start.drawing 3 first.1] ++ more ++ [wrapped.drawing 4 last.1] :=
    List.mem_append_right _ (List.mem_singleton_self _)
  have haccounted := (hlast.numbers_in_flight hstart).2.1 0
  refine ⟨start, last.2, _, hstart, hlast, ?_, hshared, ?_, rfl, rfl⟩
  · exact List.mem_append_left _ (List.mem_append_left _ (List.mem_singleton_self _))
  · rw [haccounted.separate_iff]
    intro hunshared
    exact hunshared 4 0 true (List.mem_filter.mpr ⟨hshared, rfl⟩)

end Engine

end Courier
