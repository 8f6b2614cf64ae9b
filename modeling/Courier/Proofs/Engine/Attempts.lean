import Courier.Proofs.Delivery.Outcomes
import Courier.Proofs.Engine.Soundness

/-!
# How often an undelivered frame was sent

A caller whose frame was not delivered is told of a number of tries. It is the number that the
layers plan for a frame when the caller looks for its outcome, and nobody counts the tries that were
made: a resend that fails is the last one, and a frame whose copy went with the layers that kept it
is not sent again.
-/

namespace Courier

/-- Among some transmissions, those of payloads. -/
def payloads (l : List Transmission) : List Transmission := l.filter (!·.header.isAck)

namespace Slice

variable {timeout : Duration} {seq : UInt16} {op : Outbound.Operation} {d : Engine.Deed}
  {v v' : Slice}

/-- A slice with other transmissions in place of its own. -/
def withHanded (l : List Transmission) (v : Slice) : Slice := { v with handed := l }

/-- What a late frame comes to does not depend on what was handed over before. -/
theorem Late.withHanded {clock : Time} {status : DeliveryStatus} (h : Late clock status v v')
    (hproper : v.Proper seq) : ∃ more, v'.handed = v.handed ++ more ∧ payloads more = more ∧
      ∀ l, Late clock status (v.withHanded l) (v'.withHanded (l ++ more)) := by
  have hdata {e : RetryEntry} (hcopy : v.copy = some e) (taken : Bool) :
      payloads [⟨e.header, e.payload, taken⟩] = [⟨e.header, e.payload, taken⟩] := by
    simp [payloads, (hproper e hcopy).2]
  cases h with
  | untracked hcopy =>
    refine ⟨[], (List.append_nil _).symm, rfl, fun l => ?_⟩
    rw [List.append_nil]
    exact .untracked hcopy
  | exhausted hcopy hzero =>
    refine ⟨[], (List.append_nil _).symm, rfl, fun l => ?_⟩
    rw [List.append_nil]
    exact .exhausted hcopy hzero
  | abandoned hcopy hpos => exact ⟨_, rfl, hdata hcopy false, fun l => .abandoned hcopy hpos⟩
  | resent hcopy hpos => exact ⟨_, rfl, hdata hcopy true, fun l => .resent hcopy hpos⟩

/-- A deed that draws no number is an operation of the layers under each number, if acknowledgments
that it hands over are left out. -/
theorem Follows.evolves (h : v.Follows seq d v') (hproper : v.Proper seq)
    (hno : ∀ clock id payload, d ≠ .send clock id seq payload) :
    ∃ more, v'.handed = v.handed ++ more ∧ ∀ l, ∃ timeout op,
      (v.withHanded l).Evolves timeout seq op (v'.withHanded (l ++ payloads more)) := by
  have hrest (w : Slice) : w.Evolves ⟨0⟩ seq (.scan 0 fun _ => 0) w :=
    .same fun _ _ => by simp [Outbound.Operation.concerns]
  cases h with
  | same =>
    refine ⟨[], (List.append_nil _).symm, fun l => ⟨⟨0⟩, .scan 0 fun _ => 0, ?_⟩⟩
    rw [show l ++ payloads [] = l from List.append_nil l]
    exact hrest _
  | sent => exact absurd rfl (hno _ _ _)
  | @confirmed clock frame taken _ _ =>
    refine ⟨[⟨.ack seq, [], taken⟩], rfl, fun l => ⟨⟨0⟩, .scan 0 fun _ => 0, ?_⟩⟩
    rw [show l ++ payloads [⟨.ack seq, [], taken⟩] = l from List.append_nil l]
    exact hrest _
  | @acknowledged clock frame record _ _ hrecord =>
    refine ⟨[], (List.append_nil _).symm, fun l => ⟨⟨0⟩, .acknowledge clock seq, ?_⟩⟩
    rw [show l ++ payloads [] = l from List.append_nil l]
    exact .acknowledged hrecord
  | @late now clock record _ hrecord hlate =>
    have hidle : ({ v with record := none } : Slice).Proper seq := hproper
    obtain ⟨more, hhanded, hdata, hlater⟩ := hlate.withHanded hidle
    have hpast : (⟨0⟩ : Duration).nanos < record.sentAt + 1 - record.sentAt := by simp
    refine ⟨more, hhanded, fun l => ⟨⟨0⟩, .scan (record.sentAt + 1) clock, ?_⟩⟩
    rw [hdata]
    exact .late hrecord hpast (hlater l)

/-- What was handed over of a frame that has timed out and had `n` retries: all tries, or those up
to the first that was not taken, or, if the layers were rebuilt meanwhile, those up to then. -/
inductive Tries (n : UInt32) (header : Header) (payload : Bytes) (rebuilt : Bool) :
    List Transmission → Prop
  | exhausted :
      Tries n header payload rebuilt (List.replicate (n.toNat + 1) ⟨header, payload, true⟩)
  | abandoned {resent : Nat} : resent < n.toNat →
      Tries n header payload rebuilt
        (List.replicate (resent + 1) ⟨header, payload, true⟩ ++ [⟨header, payload, false⟩])
  | released {resent : Nat} : resent ≤ n.toNat → rebuilt = true →
      Tries n header payload rebuilt (List.replicate (resent + 1) ⟨header, payload, true⟩)

/-- What has become of a frame that was sent with `n` retries, if the layers may be rebuilt: it goes
through its course, or has no copy and ends when it is late. -/
inductive Fate (n : UInt32) (header : Header) (payload : Bytes) (before : Slice) (rebuilt : Bool) :
    Slice → Prop
  | own {v : Slice} : Course n header payload before v → Fate n header payload before rebuilt v
  | bare {resent : Nat} {record : InFlight} : record.endpoint = header.id → resent ≤ n.toNat →
      (rebuilt = false → n.toNat = 0) →
      Fate n header payload before rebuilt
        { record := some record
          told := before.told
          handed := before.handed ++ List.replicate (resent + 1) ⟨header, payload, true⟩ }
  | released {resent : Nat} : resent ≤ n.toNat → rebuilt = true →
      Fate n header payload before rebuilt
        { told := before.told ++ [⟨header.id, header.seq, .timeout⟩]
          handed := before.handed ++ List.replicate (resent + 1) ⟨header, payload, true⟩ }

variable {n : UInt32} {header : Header} {payload : Bytes} {before : Slice} {rebuilt : Bool}
  {sent : List Transmission}

/-- A frame that is sent is under way, or has no copy because there are no retries. -/
theorem Fate.of_sent (header : Header) (payload : Bytes) (earlier : List DeliveryStatus)
    (rebuilt : Bool) (sentAt : Time) (wired : Option (UInt32 × List Unit)) :
    Fate ((wired.map (·.1)).getD 0) header payload { told := earlier } rebuilt {
      record := some ⟨header.id, sentAt⟩
      copy := wired.map fun r => ⟨header, payload, r.1⟩
      told := earlier
      handed := [⟨header, payload, true⟩] } := by
  cases wired with
  | none => exact @Fate.bare _ _ _ _ _ 0 ⟨header.id, sentAt⟩ rfl (Nat.zero_le _) fun _ => rfl
  | some r => exact .own (@Course.underway _ _ _ _ 0 ⟨header.id, sentAt⟩ _ rfl rfl)

/-- What becomes of a frame under way goes on with every operation that does not send under its
number. -/
theorem Fate.evolves (h : Fate n header payload before rebuilt v)
    (he : v.Evolves timeout header.seq op v') : Fate n header payload before rebuilt v' := by
  cases h with
  | own hcourse => exact .own (hcourse.evolves he)
  | @bare resent record hid hle hzero =>
    cases he with
    | same => exact .bare hid hle hzero
    | acknowledged hrecord =>
      obtain rfl := Option.some.inj hrecord
      simp only [settle, tell, hid]
      exact .own (.delivered hle)
    | late hrecord _ hlate =>
      obtain rfl := Option.some.inj hrecord
      cases hlate with
      | untracked =>
        simp only [settle, tell, hid]
        cases rebuilt with
        | true => exact .released hle rfl
        | false =>
          obtain rfl : resent = n.toNat := by
            have := hzero rfl
            omega
          exact .own .exhausted
      | exhausted hcopy => cases hcopy
      | abandoned hcopy => cases hcopy
      | resent hcopy => cases hcopy
  | released hle hrebuilt =>
    rw [he.eq_of_record_eq_none rfl]
    exact .released hle hrebuilt

/-- Rebuilding the layers loses the copy. -/
theorem Fate.rebuild (h : Fate n header payload before rebuilt v) :
    Fate n header payload before true { v with copy := none } := by
  cases h with
  | own hcourse =>
    cases hcourse with
    | underway hid hsum => exact .bare hid (by omega) nofun
    | delivered hle => exact .own (.delivered hle)
    | exhausted => exact .own .exhausted
    | abandoned hlt => exact .own (.abandoned hlt)
  | bare hid hle _ => exact .bare hid hle nofun
  | released hle _ => exact .released hle rfl

/-- When a timeout was published last, the tries have come to an end. -/
theorem Fate.tries {told : List DeliveryStatus} (h : Fate n header payload before rebuilt v)
    (htold : v.told = before.told ++ told)
    (hlast : told.getLast?.map (·.outcome) = some .timeout) :
    ∃ sent, v.handed = before.handed ++ sent ∧ Tries n header payload rebuilt sent := by
  cases h with
  | own hcourse =>
    cases hcourse with
    | underway =>
      obtain rfl : told = [] := by simpa using htold
      cases hlast
    | delivered =>
      rw [← List.append_cancel_left htold] at hlast
      cases hlast
    | exhausted => exact ⟨_, rfl, .exhausted⟩
    | abandoned hlt => exact ⟨_, rfl, .abandoned hlt⟩
  | bare =>
    obtain rfl : told = [] := by simpa using htold
    cases hlast
  | released hle hrebuilt => exact ⟨_, rfl, .released hle hrebuilt⟩

/-- A frame is tried at least once, and not more often than it may be resent. -/
theorem Tries.bounds (h : Tries n header payload rebuilt sent) :
    1 ≤ sent.length ∧ sent.length ≤ n.toNat + 1 := by
  cases h with
  | exhausted => simp
  | abandoned hlt =>
    rw [List.length_append, List.length_replicate, List.length_singleton]
    omega
  | released hle =>
    rw [List.length_replicate]
    omega

/-- If the layers stay as they are, a frame has all its tries exactly if all before the last were
taken. -/
theorem Tries.length_eq_iff (h : Tries n header payload false sent) :
    sent.length = n.toNat + 1 ↔ ∀ t ∈ sent.take n.toNat, t.taken = true := by
  have htaken (times : Nat) (t : Transmission)
      (ht : t ∈ List.replicate times ⟨header, payload, true⟩) : t.taken = true := by
    rw [List.eq_of_mem_replicate ht]
  cases h with
  | exhausted =>
    refine iff_of_true (List.length_replicate ..) fun t ht => ?_
    exact htaken _ t (List.mem_of_mem_take ht)
  | @abandoned resent hlt =>
    have hlength : (List.replicate (resent + 1) (Transmission.mk header payload true) ++
        [Transmission.mk header payload false]).length = resent + 2 := by simp
    rw [hlength]
    by_cases hlast : resent + 1 = n.toNat
    · refine iff_of_true (by omega) fun t ht => ?_
      rw [← hlast, List.take_left' (List.length_replicate ..)] at ht
      exact htaken _ t ht
    · refine iff_of_false (by omega) fun hall => ?_
      rw [List.take_of_length_le (by rw [hlength]; omega)] at hall
      have hlast := hall ⟨header, payload, false⟩ (by simp)
      cases hlast
  | released _ hrebuilt => cases hrebuilt

/-- One more than the retries is the number of tries exactly if all before the last were taken and
it fits into 32 bits. -/
theorem Tries.eq_length_iff (h : Tries n header payload false sent) :
    (n + 1).toNat = sent.length ↔
      n.toNat + 1 < UInt32.size ∧ ∀ t ∈ sent.take n.toNat, t.taken = true := by
  obtain ⟨hsome, hmost⟩ := h.bounds
  have hfits : n.toNat < 4294967296 := n.toNat_lt
  have hwraps : (n + 1).toNat = (n.toNat + 1) % 4294967296 := UInt32.toNat_add n 1
  have hsize : UInt32.size = 4294967296 := rfl
  rw [← h.length_eq_iff, hwraps, hsize]
  omega

end Slice

/-- How often the layers resend is part of how they are put together. -/
theorem Outbound.retries_eq {σ κ : Type} (o : Outbound σ κ) :
    o.retries = (o.setup.retry.map (·.1)).getD 0 := by
  cases hretry : o.retry <;> simp [retries, setup, hretry]

namespace Engine

open Function (update_self)

variable {σ ρ : Type} {e e' start : Engine (Watched σ) ρ} {c c' : Carrier σ} {clock : Time}
  {seq id : UInt16} {payload : Bytes} {medium : Watched σ}

/-! ## While a caller waits -/

/-- Among what was handed over, the payloads under a number. -/
def payloadsUnder (seq : UInt16) (handed : List Transmission) : List Transmission :=
  payloads (handed.filter (·.header.seq = seq))

/-- What an engine hands over is told apart by the numbers. -/
theorem handed_slices {more : List Transmission}
    (h : e'.outbound.medium.handed = e.outbound.medium.handed ++ more) (seq : UInt16) :
    (e'.slices seq).handed = (e.slices seq).handed ++ more.filter (·.header.seq = seq) := by
  change e'.outbound.medium.handed.filter _ = e.outbound.medium.handed.filter _ ++ _
  rw [h, List.filter_append]

/-- What may happen while a caller waits under a number: it is not drawn again, and nobody else
touches the slot. It is noted whether the layers are rebuilt, and which payloads are handed over
under the number. -/
inductive Meanwhile (seq : UInt16) (start : Carrier σ × Engine (Watched σ) ρ) :
    Bool → List Transmission → Carrier σ × Engine (Watched σ) ρ → Prop
  | stop : Meanwhile seq start false [] start
  | does {rebuilt : Bool} {later more : List Transmission} {c : Carrier σ}
      {e e' : Engine (Watched σ) ρ} {d : Deed} : Meanwhile seq start rebuilt later (c, e) →
      Does c e d e' → ¬Draws seq e e' →
      (d = .aside → e'.waiters.slots[seq]? = e.waiters.slots[seq]?) →
      e'.outbound.medium.handed = e.outbound.medium.handed ++ more →
      Meanwhile seq start rebuilt (later ++ payloadsUnder seq more) (c, e')
  | register {rebuilt : Bool} {later : List Transmission} {c : Carrier σ}
      {e : Engine (Watched σ) ρ} (id : UInt16) (invoker : Invoker ρ) :
      Meanwhile seq start rebuilt later (c, e) →
      Meanwhile seq start rebuilt later (c, e.register id invoker)
  | attach {rebuilt : Bool} {later : List Transmission} {c c' : Carrier σ} {medium : Watched σ}
      {e e' : Engine (Watched σ) ρ} : Meanwhile seq start rebuilt later (c, e) →
      e.attach c'.watched medium = (.ok (), e') → Meanwhile seq start true later (c', e')

/-! ### The slot -/

/-- The outcome that was published last. -/
def lastOutcome (told : List DeliveryStatus) : Option Outcome := told.getLast?.map (·.outcome)

/-- Outcomes that are passed on go to their slots. -/
theorem getElem?_foldl_complete {w : Waiters} {since : List DeliveryStatus}
    (hslot : w.slots[seq]? = some (lastOutcome since)) (told : List DeliveryStatus) :
    (told.foldl Waiters.complete w).slots[seq]? =
      some (lastOutcome (since ++ told.filter (·.seq = seq))) := by
  induction told generalizing w since with
  | nil => simpa using hslot
  | cons status told ih =>
    by_cases hs : status.seq = seq
    · have hput : (w.complete status).slots[seq]? = some (lastOutcome (since ++ [status])) := by
        rw [Hall.getElem?_complete, if_pos hs, hslot]
        simp [lastOutcome]
      rw [List.filter_cons_of_pos (by simpa using hs), List.foldl_cons, ih hput,
        List.append_assoc, List.singleton_append]
    · have hkept : (w.complete status).slots[seq]? = some (lastOutcome since) := by
        rw [Hall.getElem?_complete, if_neg hs, hslot]
      rw [List.filter_cons_of_neg (by simpa using hs), List.foldl_cons, ih hkept]

/-- Whatever an engine does, the slot of a caller whose number is not drawn holds the outcome that
was published last since the slot was made. -/
theorem Does.slot_eq {d : Deed} {since : List DeliveryStatus} (h : e.Attached)
    (hdoes : Does c e d e') (hdraw : ¬Draws seq e e')
    (haside : d = .aside → e'.waiters.slots[seq]? = e.waiters.slots[seq]?)
    (hslot : e.waiters.slots[seq]? = some (lastOutcome since)) :
    ∃ told, e'.delivered = e.delivered ++ told ∧
      e'.waiters.slots[seq]? = some (lastOutcome (since ++ told.filter (·.seq = seq))) := by
  have hbeside (hsame : e'.waiters.slots[seq]? = e.waiters.slots[seq]?)
      (hnothing : e'.delivered = e.delivered) : ∃ told, e'.delivered = e.delivered ++ told ∧
        e'.waiters.slots[seq]? = some (lastOutcome (since ++ told.filter (·.seq = seq))) := by
    refine ⟨[], by rw [hnothing, List.append_nil], ?_⟩
    rw [List.filter_nil, List.append_nil, hsame, hslot]
  cases hdoes with
  | send =>
    obtain ⟨errors, hsent⟩ := send_eq _ _ h.layer
    rw [hsent]
    exact ⟨_, rfl, getElem?_foldl_complete hslot _⟩
  | @beginWait clock id payload =>
    obtain ⟨sent, -, hcases⟩ := Hall.beginWait_cases (c := c.watched) e clock id payload
    -- The slot that is made, and removed again if nothing is sent, is that of another number.
    have hother : e.dispatcher.sequence.upcoming ≠ seq := by
      rintro rfl
      refine hdraw (draws_of_draw ?_)
      rcases hcases with ⟨-, hbegin⟩ | ⟨error, -, hbegin⟩ <;> rw [hbegin] <;> rfl
    have hregistered : (Hall.afterRegister e).waiters.slots[seq]? = some (lastOutcome since) :=
      (Hall.getElem?_register _ _).trans ((if_neg hother).trans hslot)
    rcases hcases with ⟨-, hbegin⟩ | ⟨error, -, hbegin⟩
    · rw [hbegin]
      exact ⟨_, rfl, getElem?_foldl_complete hregistered _⟩
    · rw [hbegin]
      refine ⟨_, rfl, ?_⟩
      exact (Hall.getElem?_cancel _ _).trans
        ((if_neg hother).trans (getElem?_foldl_complete hregistered _))
  | scan => exact ⟨_, rfl, getElem?_foldl_complete hslot _⟩
  | @handle clock frame =>
    cases hack : frame.header.isAck with
    | true =>
      rw [handleFrame, if_pos hack]
      exact ⟨_, rfl, getElem?_foldl_complete hslot _⟩
    | false =>
      have hsame : Hall.Beside e (e.handleFrame c.watched clock frame) :=
        Hall.beside_handleFrame hack e
      exact hbeside (by rw [hsame.waiters_eq]) hsame.delivered_eq
  | aside => exact hbeside (haside rfl) rfl

/-! ### The frame -/

/-- What is kept up while a caller waits for a frame: its slot holds the last of the outcomes that
were published since, and the frame goes through its fate. Unless the layers were rebuilt, they plan
as many retries as the frame had at first. -/
structure Awaited (seq : UInt16) (n : UInt32) (header : Header) (payload : Bytes)
    (earlier : List DeliveryStatus) (rebuilt : Bool) (sent : List Transmission)
    (e : Engine (Watched σ) ρ) : Prop where
  orderly : e.Orderly
  linked : Linked e.outbound.bare e.forwarding
  slot : ∃ since, e.delivered.filter (·.seq = seq) = earlier ++ since ∧
    e.waiters.slots[seq]? = some (lastOutcome since)
  fate : Slice.Fate n header payload { told := earlier } rebuilt ((e.slices seq).withHanded sent)
  planned : rebuilt = false → e.outbound.retries = n

variable {n : UInt32} {header : Header} {earlier : List DeliveryStatus} {rebuilt : Bool}
  {sent more : List Transmission}

/-- Whatever is done meanwhile goes on with what becomes of the frame that is waited for. -/
theorem Awaited.does {d : Deed} (h : Awaited seq n header payload earlier rebuilt sent e)
    (hseq : header.seq = seq) (hdoes : Does c e d e') (hdraw : ¬Draws seq e e')
    (haside : d = .aside → e'.waiters.slots[seq]? = e.waiters.slots[seq]?)
    (hhanded : e'.outbound.medium.handed = e.outbound.medium.handed ++ more) :
    Awaited seq n header payload earlier rebuilt (sent ++ payloadsUnder seq more) e' := by
  have hattached := h.orderly.attached
  obtain ⟨hbare, hforwarding⟩ := hdoes.bare_eq hattached
  refine ⟨h.orderly.does hdoes, ?_, ?_, ?_, fun hsame => ?_⟩
  · rw [hbare, hforwarding]
    exact h.linked
  · obtain ⟨since, hearlier, hslot⟩ := h.slot
    obtain ⟨told, htold, hslot'⟩ := hdoes.slot_eq hattached hdraw haside hslot
    refine ⟨_, ?_, hslot'⟩
    rw [htold, List.filter_append, hearlier, List.append_assoc]
  · have hfollows := hdoes.follows hattached seq
    have hproper : (e.slices seq).Proper seq := hattached.ready.proper seq
    obtain ⟨own, hown, hevolves⟩ := hfollows.evolves hproper (hdoes.ne_send hattached hdraw)
    obtain rfl := List.append_cancel_left (hown.symm.trans (handed_slices hhanded seq))
    obtain ⟨timeout, op, hevolves⟩ := hevolves sent
    subst hseq
    exact h.fate.evolves hevolves
  · rw [Outbound.retries_eq, Outbound.setup_of_bare_eq hbare, ← Outbound.retries_eq]
    exact h.planned hsame

/-- With another transport its copy is gone, but the frame is still waited for. -/
theorem Awaited.attach (h : Awaited seq n header payload earlier rebuilt sent e)
    (hattach : e.attach c.watched medium = (.ok (), e')) :
    Awaited seq n header payload earlier true sent e' := by
  have hattaches := attaches_attach h.linked hattach
  refine ⟨hattaches.orderly h.orderly.heard, hattaches.linked, ?_, ?_, nofun⟩
  · cases hattaches <;> exact h.slot
  · have hslice : (e'.slices seq).withHanded sent =
        { (e.slices seq).withHanded sent with copy := none } := by
      cases hattaches <;>
        simp [slices, Slice.after, Slice.withHanded, Outbound.slices, Outbound.entry?,
          Outbound.heardBy]
    rw [hslice]
    exact h.fate.rebuild

/-- Whatever comes between the begin of a wait and its end, the frame is still waited for. -/
theorem Awaited.meanwhile {s : Carrier σ × Engine (Watched σ) ρ} {later : List Transmission}
    (hstart : Awaited seq n header payload earlier false sent e) (hseq : header.seq = seq)
    (hlater : Meanwhile seq (c, e) rebuilt later s) :
    Awaited seq n header payload earlier rebuilt (sent ++ later) s.2 := by
  induction hlater with
  | stop =>
    rw [List.append_nil]
    exact hstart
  | does _ hdoes hdraw haside hhanded ih =>
    rw [← List.append_assoc]
    exact ih.does hseq hdoes hdraw haside hhanded
  | register id invoker _ ih =>
    refine ⟨⟨?_, ih.orderly.matched, ih.orderly.heard⟩, ih.linked, ih.slot, ih.fate, ih.planned⟩
    exact ih.orderly.attached.congr rfl (fun _ => rfl) rfl
  | attach _ hattach ih => exact ih.attach hattach

/-! ### The beginning of the wait -/

/-- Who begins to wait has sent a frame through all layers that there are. -/
theorem Attached.beginWait_taken (h : e.Attached)
    (hbegin : e.beginWait c.watched clock id payload = (.ok seq, e')) :
    ∃ header : Header, header.id = id ∧ header.seq = seq ∧ header.isAck = false ∧
      (e.outbound.sendReliable c.watched clock header payload).1 = .ok () ∧
      e' = { Hall.afterRegister e with
        outbound := (e.outbound.sendReliable c.watched clock header payload).2 }.absorb := by
  obtain ⟨sent, hsent, ⟨hok, heq⟩ | ⟨error, -, heq⟩⟩ :=
    Hall.beginWait_cases (c := c.watched) e clock id payload
  · obtain ⟨hseq, rfl⟩ := Prod.mk.inj (hbegin.symm.trans heq)
    obtain rfl := Except.ok.inj hseq
    have hsame : e.dispatcher.dispatchWith (layers c.watched clock) id
      e.dispatcher.sequence.upcoming payload e.outbound = sent := hsent
    rw [Dispatcher.dispatchWith, h.layer] at hsame
    rcases h.sendOn_cases h.layer c clock id e.dispatcher.sequence.upcoming payload with
      ⟨error, hrefused⟩ | ⟨header, hid, hseq, hack, htaken⟩
    · obtain rfl := hrefused.symm.trans hsame
      cases hok
    · obtain rfl := htaken.symm.trans hsame
      exact ⟨header, hid, hseq, hack, hok, rfl⟩
  · cases hbegin.symm.trans heq

/-- Its frame is under way, with a copy if it may be sent again. -/
theorem Orderly.slices_beginWait (h : e.Orderly)
    (hbegin : e.beginWait c.watched clock id payload = (.ok seq, e')) :
    ∃ header : Header, header.id = id ∧ header.seq = seq ∧ header.isAck = false ∧
      e'.slices seq = {
        record := some ⟨header.id, clock⟩
        copy := e.outbound.setup.retry.map fun r => ⟨header, payload, r.1⟩
        told := e.delivered.filter (·.seq = seq)
        handed := (e.slices seq).handed ++ [⟨header, payload, true⟩] } := by
  obtain ⟨header, hid, hseq, hack, hok, heq⟩ := h.attached.beginWait_taken hbegin
  refine ⟨header, hid, hseq, hack, ?_⟩
  rw [heq, slices_absorb, ← h.told_eq]
  change ((e.outbound.sendReliable c.watched clock header payload).2.slices () seq).after _ = _
  rw [Outbound.slices_sendReliable hack, hseq, update_self, hok]
  rfl

/-- Its slot is empty if nothing was published under its number. -/
theorem slot_beginWait (hbegin : e.beginWait c.watched clock id payload = (.ok seq, e'))
    (htold : e'.delivered.filter (·.seq = seq) = e.delivered.filter (·.seq = seq)) :
    e'.waiters.slots[seq]? = some (lastOutcome []) := by
  obtain ⟨sent, -, ⟨-, heq⟩ | ⟨error, -, heq⟩⟩ :=
    Hall.beginWait_cases (c := c.watched) e clock id payload
  · obtain ⟨hseq, rfl⟩ := Prod.mk.inj (hbegin.symm.trans heq)
    obtain rfl := Except.ok.inj hseq
    have hempty : (Hall.afterRegister e).waiters.slots[e.dispatcher.sequence.upcoming]? =
        some (lastOutcome []) := (Hall.getElem?_register _ _).trans (if_pos rfl)
    have hput := getElem?_foldl_complete hempty (sent.2.heard.map (·.2))
    have hnone : (sent.2.heard.map (·.2)).filter (·.seq = e.dispatcher.sequence.upcoming) = [] :=
      List.append_right_eq_self.mp ((List.filter_append ..).symm.trans htold)
    rw [hnone] at hput
    exact hput
  · cases hbegin.symm.trans heq

/-- Where a wait begins, the frame that is waited for has been handed over and nothing has become of
it yet. -/
theorem Orderly.awaited {first : List Transmission} (h : e.Orderly)
    (hlinked : Linked e.outbound.bare e.forwarding)
    (hbegin : e.beginWait c.watched clock id payload = (.ok seq, e'))
    (hhanded : e'.outbound.medium.handed = e.outbound.medium.handed ++ first) :
    ∃ header : Header, header.id = id ∧ header.seq = seq ∧
      Awaited seq e.outbound.retries header payload (e.delivered.filter (·.seq = seq)) false
        (payloadsUnder seq first) e' := by
  obtain ⟨header, hid, hseq, hack, hslice⟩ := h.slices_beginWait hbegin
  have hdoes : Does c e (.send clock id e.dispatcher.sequence.upcoming payload) e' := by
    have hsame : (e.beginWait c.watched clock id payload).2 = e' := by rw [hbegin]
    exact hsame ▸ .beginWait
  obtain ⟨hbare, hforwarding⟩ := hdoes.bare_eq h.attached
  have hlater := h.does hdoes
  have htold : e'.delivered.filter (·.seq = seq) = e.delivered.filter (·.seq = seq) := by
    rw [← hlater.told_eq, hslice]
  have hfirst : first.filter (·.header.seq = seq) = [⟨header, payload, true⟩] := by
    have hsplit := handed_slices hhanded seq
    rw [hslice] at hsplit
    exact (List.append_cancel_left hsplit).symm
  have hsent : payloadsUnder seq first = [⟨header, payload, true⟩] := by
    simp [payloadsUnder, hfirst, payloads, hack]
  refine ⟨header, hid, hseq, hlater, ?_, ⟨[], ?_, slot_beginWait hbegin htold⟩, ?_, fun _ => ?_⟩
  · rw [hbare, hforwarding]
    exact hlinked
  · rw [htold, List.append_nil]
  · rw [hslice, hsent, Outbound.retries_eq]
    exact .of_sent _ _ _ _ _ _
  · rw [Outbound.retries_eq, Outbound.setup_of_bare_eq hbare, ← Outbound.retries_eq]

/-! ### The answer -/

/-- Layers plan one try more than they resend, as far as 32 bits go. -/
theorem attemptsPerSend_eq (e : Engine (Watched σ) ρ) :
    e.attemptsPerSend = e.outbound.retries + 1 := by
  cases hretry : e.outbound.retry <;> simp [attemptsPerSend, Outbound.retries, hretry]

/-- Who is told that its frame was not delivered has found a timeout in its slot. -/
theorem outcome?_of_delivery {id' seq' : UInt16} {attempts : Nat}
    (hanswer : (e.poll id seq).1 = some (.error (.delivery id' seq' attempts)) ∨
      (e.giveUp id seq).1 = .error (.delivery id' seq' attempts)) :
    e.waiters.outcome? seq = some .timeout ∧
      id' = id ∧ seq' = seq ∧ attempts = e.attemptsPerSend.toNat := by
  have htold (outcome : Option Outcome)
      (h : e.waitAnswer id seq outcome = .error (.delivery id' seq' attempts)) :
      outcome = some .timeout ∧ id' = id ∧ seq' = seq ∧ attempts = e.attemptsPerSend.toNat := by
    rcases outcome with _ | _ | _
    · cases h
    · cases h
    · cases h
      exact ⟨rfl, rfl, rfl, rfl⟩
  rcases hanswer with hpoll | hgiveUp
  · rcases Hall.poll_cases e id seq with ⟨-, hnothing⟩ | ⟨outcome, hfound, htaken⟩
    · rw [hnothing] at hpoll
      cases hpoll
    · rw [htaken] at hpoll
      rw [hfound]
      exact htold _ (Option.some.inj hpoll)
  · exact htold _ hgiveUp

/-- Whatever is done with an engine before and while a caller waits: if the caller is told that its
frame was not delivered, the number of tries that it is told of is what the layers plan by then.
The frame had all its tries, or those up to the first that was not taken, or, if the layers were
rebuilt, those up to then. As long as they are not rebuilt, the number is right exactly if none of
the tries before the last one that was planned has failed, and if it fits into 32 bits. -/
theorem attempts_are_planned {config : EngineConfig} {nothing : Watched σ} {outside : ρ}
    {c₀ : Carrier σ} {e₀ e₁ : Engine (Watched σ) ρ} {first later : List Transmission}
    {id' seq' : UInt16} {attempts : Nat} (hnew : Engine.new config nothing outside = .ok start)
    (hsteps : Relation.ReflTransGen Step (c₀, start) (c, e₀))
    (hbegin : e₀.beginWait c.watched clock id payload = (.ok seq, e₁))
    (hfirst : e₁.outbound.medium.handed = e₀.outbound.medium.handed ++ first)
    (hlater : Meanwhile seq (c, e₁) rebuilt later (c', e))
    (hanswer : (e.poll id seq).1 = some (.error (.delivery id' seq' attempts)) ∨
      (e.giveUp id seq).1 = .error (.delivery id' seq' attempts)) :
    let n := e₀.outbound.retries
    let sent := payloadsUnder seq first ++ later
    id' = id ∧ seq' = seq ∧ attempts = e.attemptsPerSend.toNat ∧
    (∃ header : Header, header.id = id ∧ header.seq = seq ∧
      Slice.Tries n header payload rebuilt sent) ∧
    (rebuilt = false → (attempts = sent.length ↔
      n.toNat + 1 < UInt32.size ∧ ∀ t ∈ sent.take n.toNat, t.taken = true)) := by
  intro n sent
  obtain ⟨htimeout, hid, hseq, hattempts⟩ := outcome?_of_delivery hanswer
  refine ⟨hid, hseq, hattempts, ?_⟩
  have hsound : e₀.Sound := sound_of_steps hnew hsteps
  rcases hsound.detached_or_orderly with ⟨hdetached, -⟩ | horderly
  · rw [hdetached.beginWait_eq] at hbegin
    cases hbegin
  · have hlinked : Linked e₀.outbound.bare e₀.forwarding := hsound.linked
    obtain ⟨header, hid, hseq, hstart⟩ := horderly.awaited hlinked hbegin hfirst
    have hawaited := hstart.meanwhile hseq hlater
    obtain ⟨since, hearlier, hslot⟩ := hawaited.slot
    have hlast : lastOutcome since = some .timeout := by
      rw [Waiters.outcome?, hslot] at htimeout
      exact htimeout
    have htold : ((e.slices seq).withHanded sent).told =
        e₀.delivered.filter (·.seq = seq) ++ since :=
      (hawaited.orderly.told_eq seq).trans hearlier
    obtain ⟨tried, hsent, htries⟩ := hawaited.fate.tries htold hlast
    obtain rfl : sent = tried := hsent
    refine ⟨⟨header, hid, hseq, htries⟩, ?_⟩
    rintro rfl
    have hplanned : e.outbound.retries = n := hawaited.planned rfl
    rw [hattempts, attemptsPerSend_eq, hplanned]
    exact htries.eq_length_iff

/-- The far end is gone, and the first try is lost on the way: the resend fails, and the caller is
told of three tries after two. -/
theorem attempts_are_planned_of_failed_resend :
    let c := MemoryLink.carrier .near
    ∃ (start e₀ e₁ e : Engine (Watched MemoryLink) Unit) (first later : List Transmission),
      Engine.new { maxRetries := 2 } ⟨{}, []⟩ () = .ok start ∧
      Relation.ReflTransGen Step (c, start) (c, e₀) ∧ e₀.outbound.retries = 2 ∧
      e₀.beginWait c.watched 0 9 [0xaa] = (.ok 0, e₁) ∧
      e₁.outbound.medium.handed = e₀.outbound.medium.handed ++ first ∧
      Meanwhile 0 (c, e₁) false later (c, e) ∧
      (e.poll 9 0).1 = some (.error (.delivery 9 0 3)) ∧
      (payloadsUnder 0 first ++ later).length = 2 ∧
      ∃ header : Header, Slice.Tries 2 header [0xaa] false (payloadsUnder 0 first ++ later) := by
  intro c
  let lossy : MemoryLink := { near := { dropNext := 1 }, far := { isOpen := false } }
  let attached := onLink { maxRetries := 2 } .near ()
  let e₀ := { attached with outbound := { attached.outbound with
    medium := { attached.outbound.medium with state := lossy } } }
  let e₁ := (e₀.beginWait c.watched 0 9 [0xaa]).2
  let now : Time := 10000000000
  let e := e₁.expire c.watched (fun _ => now) (e₁.outbound.tracker.overdue now)
  let header : Header := .new 9 0 1
  let first : List Transmission := [⟨header, [0xaa], true⟩]
  let later : List Transmission := [⟨header, [0xaa], false⟩]
  have hvalid : ({ maxRetries := 2 } : EngineConfig).validate = .ok () := rfl
  obtain ⟨start, hnew, hattach⟩ := exists_attach_onLink hvalid .near ()
  have hattached : Step (c, start) (c, attached) := .attach hattach
  have hlossy : Step (c, attached) (c, e₀) := .does .aside
  have hsteps : Relation.ReflTransGen Step (c, start) (c, e₀) := .tail (.single hattached) hlossy
  have hbegin : e₀.beginWait c.watched 0 9 [0xaa] = (.ok 0, e₁) := rfl
  have hfirst : e₁.outbound.medium.handed = e₀.outbound.medium.handed ++ first := rfl
  have hscan : Does c e₁ (.scan now fun _ => now) e := .scan .rfl
  have hundrawn : ¬Draws 0 e₁ e := fun hdraw => hdraw.2 rfl
  have hresent : e.outbound.medium.handed = e₁.outbound.medium.handed ++ later := rfl
  have hlater : Meanwhile 0 (c, e₁) false later (c, e) :=
    .does .stop hscan hundrawn nofun hresent
  have hanswer : (e.poll 9 0).1 = some (.error (.delivery 9 0 3)) := rfl
  obtain ⟨-, -, -, ⟨header, -, -, htries⟩, -⟩ :=
    attempts_are_planned hnew hsteps hbegin hfirst hlater (.inl hanswer)
  exact ⟨start, e₀, e₁, e, first, later, hnew, hsteps, rfl, hbegin, hfirst, hlater, hanswer, rfl,
    header, htries⟩

end Engine

end Courier
