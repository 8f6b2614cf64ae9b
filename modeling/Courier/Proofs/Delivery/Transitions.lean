import Courier.Proofs.Delivery.Publication

/-!
# What the operations do to the slices

Sending, acknowledging and scanning are described by the slices that they change. The
tracker and the retry layer agree on them: what is published about a frame reaches a
listener once, and the other slices stay as they were.
-/

namespace Courier.Outbound

open Function (update update_self update_of_ne)

variable {σ κ : Type} [DecidableEq κ] {k : κ} {o : Outbound (Watched σ) κ}
  {c : Carrier σ} {clock : Time}

/-! ## Parts of the operations -/

/-- A listener that is not among those who hear does not notice. -/
theorem slices_hearAll_of_count_eq_zero {listeners : List κ} {status : DeliveryStatus}
    (h : listeners.count k = 0) : (o.hearAll listeners status).slices k = o.slices k := by
  funext seq
  simp only [slices, heardBy_hearAll, h, List.replicate_zero, List.append_nil]
  rfl

/-- A listener that is told once hears of the number concerned, and of no other. -/
theorem slices_hearAll_of_count_eq_one {listeners : List κ} {status : DeliveryStatus}
    (h : listeners.count k = 1) : (o.hearAll listeners status).slices k =
      update (o.slices k) status.seq ((o.slices k status.seq).tell status) := by
  funext seq
  simp only [slices, heardBy_hearAll, h, List.filter_append, List.replicate_one]
  by_cases hs : seq = status.seq
  · subst hs
    simp [Slice.tell, hearAll, entry?]
  · have hs' : status.seq ≠ seq := fun e => hs e.symm
    simp [slices, hs, hs', hearAll, entry?]

/-- A final outcome reaches a listener to the retry layer once. -/
theorem slices_publishFinal {n : UInt32} {listeners : List κ} {status : DeliveryStatus}
    (hr : o.setup.retry = some (n, listeners)) (hk : listeners.count k = 1) :
    (o.publishFinal status).slices k =
      update (o.slices k) status.seq ((o.slices k status.seq).tell status) := by
  obtain ⟨r, hr, hn⟩ := Option.map_eq_some_iff.mp hr
  rw [← slices_hearAll_of_count_eq_one hk, publishFinal, hr, ← (Prod.mk.inj hn).2]
  simp only [Signal.emit_eq_foldl, foldl_hear]

/-- Forgetting a copy touches its number alone. -/
theorem slices_mapEntries_erase (seq : UInt16) : (o.mapEntries (·.erase seq)).slices k =
    update (o.slices k) seq { o.slices k seq with copy := none } := by
  funext other
  by_cases hs : other = seq
  · subst hs
    cases hr : o.retry <;>
      simp [slices, mapEntries, entry?, heardBy, hr]
  · have hs' : seq ≠ other := fun e => hs e.symm
    cases hr : o.retry <;>
      simp [slices, mapEntries, entry?, heardBy, hr, hs, hs', Std.ExtTreeMap.getElem?_erase,
        Std.LawfulEqCmp.compare_eq_iff_eq]

/-- Holding a copy touches its number alone, if there is a retry layer to hold it. -/
theorem slices_mapEntries_insert (seq : UInt16) (e : RetryEntry) :
    (o.mapEntries (·.insert seq e)).slices k =
      update (o.slices k) seq { o.slices k seq with copy := o.setup.retry.map fun _ => e } := by
  funext other
  by_cases hs : other = seq
  · subst hs
    cases hr : o.retry <;> simp [slices, mapEntries, entry?, heardBy, setup, hr]
  · have hs' : seq ≠ other := fun e => hs e.symm
    cases hr : o.retry <;>
      simp [slices, mapEntries, entry?, heardBy, hr, hs, hs', Std.ExtTreeMap.getElem?_insert,
        Std.LawfulEqCmp.compare_eq_iff_eq]

/-! ## Frames that are sent -/

/-- Handing a frame over touches its number alone. -/
theorem slices_sendRaw (header : Header) (payload : Bytes) :
    (o.sendRaw c.watched header payload).2.slices k =
      update (o.slices k) header.seq ((o.slices k header.seq).hand
        ⟨header, payload, (o.sendRaw c.watched header payload).1.isOk⟩) := by
  funext seq
  by_cases hs : seq = header.seq
  · subst hs
    simp [sendRaw, Carrier.watched, slices, entry?, heardBy, Slice.hand]
  · have hs' : header.seq ≠ seq := fun e => hs e.symm
    simp [sendRaw, Carrier.watched, slices, entry?, heardBy, hs, hs']

/-- Sending a frame with a record touches its number alone. -/
theorem slices_sendTracked {header : Header} {payload : Bytes} (h : header.isAck = false) :
    (o.sendTracked c.watched clock header payload).2.slices k =
      update (o.slices k) header.seq ((o.slices k header.seq).sent clock header payload
        (o.sendTracked c.watched clock header payload).1.isOk) := by
  have hid : header.id ≠ ackId := by simpa [Header.isAck] using h
  rw [sendTracked_eq h]
  funext seq
  by_cases hs : seq = header.seq
  · subst hs
    cases hok : (c.watched.send header payload o.medium).1.isOk <;>
      simp_all [Carrier.watched, slices, entry?, heardBy, Slice.sent, Slice.hand,
        Tracker.getElem?_erase, Tracker.getElem?_add hid]
  · have hs' : header.seq ≠ seq := fun e => hs e.symm
    cases hok : (c.watched.send header payload o.medium).1.isOk <;>
      simp_all [Carrier.watched, slices, entry?, heardBy, Tracker.getElem?_erase,
        Tracker.getElem?_add hid]

/-- A frame that is sent with a copy leaves a record and a copy, or neither. -/
theorem slices_sendReliable {header : Header} {payload : Bytes} (h : header.isAck = false) :
    (o.sendReliable c.watched clock header payload).2.slices k =
      update (o.slices k) header.seq
        (let taken := (o.sendReliable c.watched clock header payload).1.isOk
        { (o.slices k header.seq).sent clock header payload taken with
          copy := if taken then o.setup.retry.map fun r => ⟨header, payload, r.1⟩ else none }) := by
  have hretries (r : UInt32 × List κ) (hr : r ∈ o.setup.retry) : o.retries = r.1 := by
    obtain ⟨layer, hlayer, rfl⟩ := Option.map_eq_some_iff.mp hr
    simp [retries, hlayer]
  rw [sendReliable_eq h]
  dsimp only
  split
  · next hok =>
    rw [slices_sendTracked h, slices_mapEntries_insert, hok]
    have hcopy : (o.setup.retry.map fun _ => RetryEntry.mk header payload o.retries) =
        o.setup.retry.map fun r => ⟨header, payload, r.1⟩ :=
      Option.map_congr fun r hr => by rw [hretries r hr]
    simp [Slice.sent, Slice.hand, hcopy]
  · next hok =>
    rw [Bool.not_eq_true] at hok
    rw [slices_mapEntries_erase, slices_sendTracked h, slices_mapEntries_insert, hok]
    simp [Slice.sent, Slice.hand]

/-- What the retry layer does about a late frame touches its number alone. -/
theorem slices_retryLate (clock : Time) {n : UInt32} {listeners : List κ}
    {status : DeliveryStatus} (hr : o.setup.retry = some (n, listeners))
    (hk : listeners.count k = 1)
    (hgone : (o.slices k status.seq).record = none)
    (hcopy : ∀ e, (o.slices k status.seq).copy = some e →
      e.header.seq = status.seq ∧ e.header.isAck = false) :
    ∃ v, Slice.Late clock status (o.slices k status.seq) v ∧
      (o.retryLate c.watched clock status).slices k = update (o.slices k) status.seq v := by
  cases he : o.entry? status.seq with
  | none =>
    refine ⟨_, .untracked he, ?_⟩
    have hslice : { o.slices k status.seq with record := none, copy := none } =
        o.slices k status.seq := by rw [← hgone, ← (show _ = none from he)]; rfl
    simp only [retryLate, he]
    rw [slices_publishFinal hr hk, Slice.settle, hslice]
  | some e =>
    obtain ⟨hseq, hack⟩ := hcopy e he
    by_cases hpos : e.remaining = 0
    · refine ⟨_, .exhausted he hpos, ?_⟩
      simp only [retryLate, he, hpos, if_true]
      rw [slices_publishFinal (by simpa using hr) hk, slices_mapEntries_erase]
      simp [Slice.settle, Slice.tell, hgone]
    · rw [retryLate_eq he hpos]
      dsimp only
      split
      · next hok =>
        refine ⟨_, .resent he hpos, ?_⟩
        rw [slices_sendTracked hack, slices_mapEntries_insert, hok, hseq, hr]
        simp [Slice.sent, Slice.hand]
      · next hok =>
        rw [Bool.not_eq_true] at hok
        refine ⟨_, .abandoned he hpos, ?_⟩
        rw [slices_publishFinal (by simpa using hr) hk, slices_mapEntries_erase,
          slices_sendTracked hack, slices_mapEntries_insert, hok, hseq]
        simp [Slice.sent, Slice.hand, Slice.settle, Slice.tell]

/-! ## Publications of the tracker -/

/-- What the tracker publishes reaches the retry layer once; those outside who hear of it
before and after do not include `k`. -/
theorem publish_of_retry {wired : UInt32 × List κ} {status : DeliveryStatus}
    (hw : o.setup.Tells k) (hr : o.setup.retry = some wired) : ∃ before after : List κ,
      before.count k = 0 ∧ after.count k = 0 ∧ o.publish c.watched clock status =
        ((o.hearAll before status).onStatus c.watched clock status).hearAll after status := by
  simp only [Setup.Tells, hr] at hw
  obtain ⟨hlayer, hk, -⟩ := hw
  change List.count _ o.status.handlers = 1 at hlayer
  change _ ∉ o.status.handlers at hk
  obtain ⟨before, after, hsplit, hbefore⟩ := List.eq_append_cons_of_mem
    (List.count_pos_iff.mp (by omega : 0 < List.count .retryLayer o.status.handlers))
  rw [hsplit, List.count_append, List.count_cons_self] at hlayer
  have hafter : .retryLayer ∉ after := List.count_eq_zero.mp (by omega)
  rw [hsplit, List.mem_append, List.mem_cons, not_or, not_or] at hk
  refine ⟨outsiders before, outsiders after, ?_, ?_, ?_⟩
  · rw [count_outsiders, List.count_eq_zero]
    exact hk.1
  · rw [count_outsiders, List.count_eq_zero]
    exact hk.2.2
  · rw [publish_eq_foldl, hsplit, List.foldl_append, List.foldl_cons,
      foldl_react_of_not_mem hbefore, foldl_react_of_not_mem hafter]
    rfl

/-- Without a retry layer what the tracker publishes is heard outside and nothing else. -/
theorem slices_publish_of_direct {status : DeliveryStatus} (hw : o.setup.Tells k)
    (hr : o.setup.retry = none) (hgone : (o.slices k status.seq).record = none) :
    (o.publish c.watched clock status).slices k =
      update (o.slices k) status.seq ((o.slices k status.seq).settle status) := by
  simp only [Setup.Tells, hr] at hw
  obtain ⟨hlayer, hk⟩ : .retryLayer ∉ o.status.handlers ∧
    o.status.handlers.count (.outside k) = 1 := hw
  have hcount : (outsiders o.status.handlers).count k = 1 := by
    rw [count_outsiders, hk]
  have hcopy : (o.slices k status.seq).copy = none := by
    simp [slices, entry?, Option.map_eq_none_iff.mp hr]
  have hslice : { o.slices k status.seq with record := none, copy := none } =
      o.slices k status.seq := by rw [← hgone, ← hcopy]
  rw [publish_eq_foldl, foldl_react_of_not_mem hlayer, slices_hearAll_of_count_eq_one hcount,
    Slice.settle, hslice]

/-- A success ends the tracking of its frame. -/
theorem slices_publish_success {status : DeliveryStatus} (hw : o.setup.Tells k)
    (hs : status.outcome = .success) (hgone : (o.slices k status.seq).record = none) :
    (o.publish c.watched clock status).slices k =
      update (o.slices k) status.seq ((o.slices k status.seq).settle status) := by
  cases hr : o.setup.retry with
  | none => exact slices_publish_of_direct hw hr hgone
  | some wired =>
    obtain ⟨n, listeners⟩ := wired
    obtain ⟨before, after, hbefore, hafter, hpublish⟩ := publish_of_retry hw hr
    have hk : listeners.count k = 1 := by
      simp only [Setup.Tells, hr] at hw
      exact hw.2.2
    rw [hpublish, slices_hearAll_of_count_eq_zero hafter, onStatus, hs]
    dsimp only
    rw [slices_publishFinal (by simpa using hr) hk, slices_mapEntries_erase,
      slices_hearAll_of_count_eq_zero hbefore]
    simp [Slice.settle, Slice.tell, hgone]

/-- A timeout gives the retry layer occasion to send the frame again. -/
theorem slices_publish_timeout (clock : Time) (status : DeliveryStatus)
    (hw : o.setup.Tells k) (hs : status.outcome = .timeout)
    (hgone : (o.slices k status.seq).record = none)
    (hcopy : ∀ e, (o.slices k status.seq).copy = some e →
      e.header.seq = status.seq ∧ e.header.isAck = false) :
    ∃ v, Slice.Late clock status (o.slices k status.seq) v ∧
      (o.publish c.watched clock status).slices k = update (o.slices k) status.seq v := by
  cases hr : o.setup.retry with
  | none =>
    have hnone : (o.slices k status.seq).copy = none := by
      simp [slices, entry?, Option.map_eq_none_iff.mp hr]
    exact ⟨_, .untracked hnone, slices_publish_of_direct hw hr hgone⟩
  | some wired =>
    obtain ⟨n, listeners⟩ := wired
    obtain ⟨before, after, hbefore, hafter, hpublish⟩ := publish_of_retry hw hr
    have hk : listeners.count k = 1 := by
      simp only [Setup.Tells, hr] at hw
      exact hw.2.2
    have hslices : (o.hearAll before status).slices k = o.slices k :=
      slices_hearAll_of_count_eq_zero hbefore
    obtain ⟨v, hv, heq⟩ := slices_retryLate (o := o.hearAll before status) (c := c) clock
      (by simpa using hr) hk (by rwa [hslices]) (by rwa [hslices])
    rw [hslices] at hv heq
    refine ⟨v, hv, ?_⟩
    rw [hpublish, slices_hearAll_of_count_eq_zero hafter, onStatus, hs]
    exact heq

/-- An acknowledgment ends the tracking of the frame in flight under its number, if there is
one, and is without effect otherwise. -/
theorem slices_acknowledge {seq : UInt16} (hw : o.setup.Tells k) :
    (o.acknowledge c.watched clock seq).2.slices k =
      match (o.slices k seq).record with
      | some record => update (o.slices k) seq
          ((o.slices k seq).settle ⟨record.endpoint, seq, .success⟩)
      | none => o.slices k := by
  cases hrec : o.tracker.pending[seq]? with
  | none => simp [acknowledge, TrackerHost.acknowledge, host, Tracker.settle, slices, hrec]
  | some record =>
    have herased : ({ o with tracker := o.tracker.erase seq } : Outbound _ κ).slices k =
        update (o.slices k) seq { o.slices k seq with record := none } := by
      funext other
      by_cases hs : other = seq
      · subst hs
        simp [slices, Tracker.getElem?_erase, heardBy, entry?]
      · have hs' : seq ≠ other := fun e => hs e.symm
        simp [slices, Tracker.getElem?_erase, heardBy, entry?, hs, hs']
    simp only [acknowledge, TrackerHost.acknowledge, host, Tracker.settle, hrec]
    rw [slices_publish_success (by exact hw) rfl (by simp [herased]), herased]
    simp [slices, hrec, Slice.settle, Slice.tell]

/-! ## Scans -/

/-- Of several numbers that are not tracked any more none is on record. -/
theorem getElem?_foldl_erase {t : Tracker} (late : List (UInt16 × InFlight)) (seq : UInt16) :
    (late.foldl (fun t (seq, _) => t.erase seq) t).pending[seq]? =
      if seq ∈ late.map (·.1) then none else t.pending[seq]? := by
  induction late generalizing t with
  | nil => simp
  | cons x late ih =>
    rw [List.foldl_cons, ih, Tracker.getElem?_erase]
    by_cases hx : x.1 = seq
    · simp [hx]
    · have hx' : seq ≠ x.1 := fun e => hx e.symm
      simp only [hx, if_false, List.map_cons, List.mem_cons, hx', false_or]

/-- Publishing timeouts in turn changes the slice of each number concerned once. -/
theorem slices_foldl_publish (clock : UInt16 → Time) {late : List (UInt16 × InFlight)}
    (hw : o.setup.Tells k) (hnodup : (late.map (·.1)).Nodup)
    (hlate : ∀ x ∈ late, (o.slices k x.1).record = none ∧
      ∀ e, (o.slices k x.1).copy = some e → e.header.seq = x.1 ∧ e.header.isAck = false)
    {o' : Outbound (Watched σ) κ}
    (ho' : o' = late.foldl (fun o (seq, record) =>
      o.publish c.watched (clock seq) ⟨record.endpoint, seq, .timeout⟩) o) (seq : UInt16) :
    (seq ∉ late.map (·.1) → o'.slices k seq = o.slices k seq) ∧
      ∀ record, (seq, record) ∈ late →
        Slice.Late (clock seq) ⟨record.endpoint, seq, .timeout⟩ (o.slices k seq)
          (o'.slices k seq) := by
  induction late generalizing o with
  | nil => simp [ho']
  | cons x late ih =>
    obtain ⟨first, record⟩ := x
    rw [List.map_cons, List.nodup_cons] at hnodup
    have hfirst : ∀ y ∈ late, y.1 ≠ first :=
      fun y hy e => hnodup.1 (List.mem_map.mpr ⟨y, hy, e⟩)
    obtain ⟨hgone, hcopy⟩ := hlate (first, record) List.mem_cons_self
    obtain ⟨v, hv, heq⟩ := slices_publish_timeout (c := c) (clock first)
      ⟨record.endpoint, first, .timeout⟩ hw rfl hgone hcopy
    have hother {other : UInt16} (h : other ≠ first) :
        (o.publish c.watched (clock first) ⟨record.endpoint, first, .timeout⟩).slices k other =
          o.slices k other := by rw [heq, update_of_ne h]
    have hrest := ih (o := o.publish c.watched (clock first) ⟨record.endpoint, first, .timeout⟩)
      (by simpa using hw) hnodup.2 (by
        intro y hy
        rw [hother (hfirst y hy)]
        exact hlate y (List.mem_cons_of_mem _ hy)) ho'
    constructor
    · intro hmem
      rw [List.map_cons, List.mem_cons, not_or] at hmem
      rw [hrest.1 hmem.2, hother hmem.1]
    · intro record' hmem
      rcases List.mem_cons.mp hmem with hhead | hmem
      · obtain ⟨rfl, rfl⟩ := Prod.mk.inj hhead
        rw [hrest.1 hnodup.1, heq, update_self]
        exact hv
      · rw [← hother (hfirst _ hmem)]
        exact hrest.2 record' hmem

/-- A scan changes the slices of the late frames, each according to its record. -/
theorem slices_expireAll (clock : UInt16 → Time) {late : List (UInt16 × InFlight)}
    (hw : o.setup.Tells k) (hnodup : (late.map (·.1)).Nodup)
    (hcopy : ∀ seq e, (o.slices k seq).copy = some e →
      e.header.seq = seq ∧ e.header.isAck = false) (seq : UInt16) :
    (seq ∉ late.map (·.1) → (o.expireAll c.watched clock late).slices k seq = o.slices k seq) ∧
      ∀ record, (seq, record) ∈ late →
        Slice.Late (clock seq) ⟨record.endpoint, seq, .timeout⟩
          { o.slices k seq with record := none }
          ((o.expireAll c.watched clock late).slices k seq) := by
  let erased : Outbound (Watched σ) κ :=
    { o with tracker := late.foldl (fun t (seq, _) => t.erase seq) o.tracker }
  have hin {seq : UInt16} (h : seq ∈ late.map (·.1)) :
      erased.slices k seq = { o.slices k seq with record := none } := by
    simp only [erased, slices, getElem?_foldl_erase, h, if_true]
    rfl
  have hout {seq : UInt16} (h : seq ∉ late.map (·.1)) : erased.slices k seq = o.slices k seq := by
    simp only [erased, slices, getElem?_foldl_erase, h, if_false]
    rfl
  have hfold := slices_foldl_publish (o := erased) (c := c) clock hw hnodup (by
    intro x hx
    rw [hin (List.mem_map_of_mem hx)]
    exact ⟨rfl, hcopy x.1⟩) rfl seq
  constructor
  · intro h
    rw [← hout h]
    exact hfold.1 h
  · intro record h
    rw [← hin (List.mem_map_of_mem h)]
    exact hfold.2 record h

end Courier.Outbound
