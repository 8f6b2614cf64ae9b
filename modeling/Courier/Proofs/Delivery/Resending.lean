import Courier.Proofs.Delivery.Outcomes

/-!
# Bounded resending

Everything that is handed to the carrier for a frame is the frame as it was sent first. Each
resend is paid for with one of the retries of its copy, so that the copy tells how many resends
there were, and none can follow the outcome of the frame.
-/

namespace Courier

namespace Slice

variable {n : UInt32} {header : Header} {payload : Bytes} {before v v' : Slice}
  {sent : List Transmission}

/-- The transmissions of a frame are equal but for their success, they exceed the retries by at
most one, and the copy has the retries that were not used. -/
theorem Course.handed_eq (h : Course n header payload before v)
    (hsent : v.handed = before.handed ++ sent) :
    (∀ t ∈ sent, t.header = header ∧ t.payload = payload) ∧
      1 ≤ sent.length ∧ sent.length ≤ n.toNat + 1 ∧
      ∀ e, v.copy = some e → e.remaining.toNat + (sent.length - 1) = n.toNat := by
  have hcopies (count : Nat) : ∀ t ∈ List.replicate count (⟨header, payload, true⟩ : Transmission),
      t.header = header ∧ t.payload = payload := by
    intro t ht
    rw [List.eq_of_mem_replicate ht]
    exact ⟨rfl, rfl⟩
  cases h with
  | @underway resent record remaining hid hsum =>
    obtain rfl := List.append_cancel_left hsent
    refine ⟨hcopies _, by simp, by simp; omega, ?_⟩
    rintro e ⟨⟩
    simpa using hsum
  | @delivered resent hle =>
    obtain rfl := List.append_cancel_left hsent
    exact ⟨hcopies _, by simp, by simpa using hle, nofun⟩
  | exhausted =>
    obtain rfl := List.append_cancel_left hsent
    exact ⟨hcopies _, by simp, by simp, nofun⟩
  | @abandoned resent hlt =>
    obtain rfl := List.append_cancel_left hsent
    refine ⟨?_, by simp, by simp; omega, nofun⟩
    intro t ht
    rcases List.mem_append.mp ht with ht | ht
    · exact hcopies _ t ht
    · rw [List.mem_singleton.mp ht]
      exact ⟨rfl, rfl⟩

/-- A frame whose transmissions were all taken does not time out before its retries are used
up. -/
theorem Course.length_of_timeout {endpoint seq : UInt16} (h : Course n header payload before v)
    (htold : v.told = before.told ++ [⟨endpoint, seq, .timeout⟩])
    (hsent : v.handed = before.handed ++ sent) (htaken : ∀ t ∈ sent, t.taken = true) :
    sent.length = n.toNat + 1 := by
  cases h with
  | underway => simp at htold
  | delivered => simp at htold
  | exhausted =>
    obtain rfl := List.append_cancel_left hsent
    simp
  | abandoned =>
    obtain rfl := List.append_cancel_left hsent
    have h := htaken ⟨header, payload, false⟩ (by simp)
    cases h

/-- A frame that is found late is sent again if it has a retry left, and its time has run out
otherwise, or if the carrier does not take it. -/
theorem Course.late {clock : Time} {record : InFlight} (h : Course n header payload before v)
    (hsent : v.handed = before.handed ++ sent) (hrec : v.record = some record)
    (hlate : Late clock ⟨record.endpoint, header.seq, .timeout⟩ { v with record := none } v') :
    (sent.length ≤ n.toNat ∧ ∃ taken, v'.handed = v.handed ++ [⟨header, payload, taken⟩] ∧
        v'.told = v.told ++ if taken then [] else [⟨header.id, header.seq, .timeout⟩]) ∨
      (sent.length = n.toNat + 1 ∧ v'.handed = v.handed ∧
        v'.told = v.told ++ [⟨header.id, header.seq, .timeout⟩]) := by
  cases h with
  | delivered => cases hrec
  | exhausted => cases hrec
  | abandoned => cases hrec
  | @underway resent record' remaining hid hsum =>
    obtain rfl := Option.some.inj hrec
    obtain rfl := List.append_cancel_left hsent
    have hspent (h : remaining ≠ 0) : resent + 1 ≤ n.toNat := by
      have : remaining.toNat ≠ 0 := fun hzero => h (UInt32.toNat_inj.mp hzero)
      omega
    rw [List.length_replicate, ← hid]
    cases hlate with
    | untracked hnone => cases hnone
    | exhausted hcopy hzero =>
      obtain rfl := Option.some.inj hcopy
      have : remaining.toNat = 0 := by simpa using congrArg UInt32.toNat hzero
      exact .inr ⟨by omega, rfl, rfl⟩
    | abandoned hcopy hpos =>
      obtain rfl := Option.some.inj hcopy
      exact .inl ⟨hspent hpos, false, rfl, rfl⟩
    | resent hcopy hpos =>
      obtain rfl := Option.some.inj hcopy
      exact .inl ⟨hspent hpos, true, rfl, (List.append_nil _).symm⟩

end Slice

namespace Outbound

variable {σ κ : Type} [DecidableEq κ] {k : κ} {n : UInt32} {o o' o₀ : Outbound (Watched σ) κ}
  {c : Carrier σ} {clock : Time} {header : Header} {payload : Bytes} {taken : Bool}

/-! ## Single events -/

/-- Each event of a run is a run of its own between two states of the layers. -/
theorem Run.of_mem {events : List Event} {e : Event} (hrun : Run c k o events o')
    (hready : o.Ready k) (he : e ∈ events) : ∃ o₁ o₂, o₁.Ready k ∧ Run c k o₁ [e] o₂ := by
  obtain ⟨before, after, rfl⟩ := List.append_of_mem he
  obtain ⟨o₁, hbefore, hafter⟩ := run_append.mp hrun
  cases hafter with
  | step hop htold hhanded hrest =>
    exact ⟨o₁, _, hbefore.ready hready, .step hop htold hhanded .stop⟩

/-- Nothing is published when a frame is sent, a success only for an acknowledgment, and a
timeout only by a scan that handed nothing over but what the carrier did not take. -/
theorem Run.told_cases {events : List Event} {e : Event} (hrun : Run c k o events o')
    (hready : o.Ready k) (he : e ∈ events) (seq : UInt16) :
    toldUnder seq [e] = [] ∨
      (∃ endpoint clock, e.operation = .acknowledge clock seq ∧
        toldUnder seq [e] = [⟨endpoint, seq, .success⟩] ∧ handedUnder seq [e] = []) ∨
      ∃ endpoint now clock, e.operation = .scan now clock ∧
        toldUnder seq [e] = [⟨endpoint, seq, .timeout⟩] ∧
        ∀ t ∈ handedUnder seq [e], t.taken = false := by
  obtain ⟨o₁, o₂, hready, hone⟩ := hrun.of_mem hready he
  have htold := hone.told_slices seq
  have hhanded := hone.handed_slices seq
  have ⟨op, told, handed⟩ := e
  cases hone with
  | step hop _ _ hstop =>
    cases hstop
    cases hown : op.sendsUnder seq with
    | true =>
      cases op with
      | acknowledge => cases hown
      | scan => cases hown
      | send clock header payload taken =>
        obtain rfl := of_decide_eq_true hown
        rw [hop.slice_of_send] at htold
        exact .inl (List.self_eq_append_right.mp htold)
    | false =>
      have hevolves := hop.evolves hready hown
      generalize o₁.slices k seq = v at htold hhanded hevolves
      generalize o₂.slices k seq = v' at htold hhanded hevolves
      cases hevolves with
      | same => exact .inl (List.self_eq_append_right.mp htold)
      | @acknowledged clock record hrec =>
        refine .inr (.inl ⟨record.endpoint, clock, rfl, ?_, ?_⟩)
        · exact (List.append_cancel_left htold).symm
        · exact List.self_eq_append_right.mp hhanded
      | @late now clock record _ hrec _ hlate =>
        cases hlate with
        | untracked =>
          refine .inr (.inr ⟨record.endpoint, now, clock, rfl, ?_, ?_⟩)
          · exact (List.append_cancel_left htold).symm
          · simp [List.self_eq_append_right.mp hhanded]
        | exhausted =>
          refine .inr (.inr ⟨record.endpoint, now, clock, rfl, ?_, ?_⟩)
          · exact (List.append_cancel_left htold).symm
          · simp [List.self_eq_append_right.mp hhanded]
        | abandoned =>
          refine .inr (.inr ⟨record.endpoint, now, clock, rfl, ?_, ?_⟩)
          · exact (List.append_cancel_left htold).symm
          · simp [← List.append_cancel_left hhanded]
        | resent => exact .inl (List.self_eq_append_right.mp htold)

/-- A scan that finds a frame late is the next step of its course. -/
theorem Run.scan_late {scan : Event} {before : Slice} {sent : List Transmission} {now : Time}
    {clock : UInt16 → Time} {record : InFlight} (hrun : Run c k o [scan] o') (hready : o.Ready k)
    (hop : scan.operation = .scan now clock)
    (hcourse : Slice.Course n header payload before (o.slices k header.seq))
    (hsent : (o.slices k header.seq).handed = before.handed ++ sent)
    (hrec : o.tracker.pending[header.seq]? = some record)
    (hwaited : o.tracker.timeout.nanos < now - record.sentAt) :
    (sent.length ≤ n.toNat ∧ ∃ taken,
        handedUnder header.seq [scan] = [⟨header, payload, taken⟩] ∧
        toldUnder header.seq [scan] =
          if taken then [] else [⟨header.id, header.seq, .timeout⟩]) ∨
      (sent.length = n.toNat + 1 ∧ handedUnder header.seq [scan] = [] ∧
        toldUnder header.seq [scan] = [⟨header.id, header.seq, .timeout⟩]) := by
  have htold' := hrun.told_slices header.seq
  have hhanded' := hrun.handed_slices header.seq
  have hrec : (o.slices k header.seq).record = some record := hrec
  cases hrun with
  | step hstep _ _ hstop =>
    cases hstop
    rw [hop] at hstep
    have hevolves : (o.slices k header.seq).Evolves _ header.seq _ (o'.slices k header.seq) :=
      hstep.evolves hready rfl
    generalize o'.slices k header.seq = v' at htold' hhanded' hevolves
    cases hevolves with
    | same hidle =>
      have hconcerned := hidle record hrec
      exact absurd hwaited (of_decide_eq_false hconcerned)
    | late hrec' _ hlate =>
      obtain rfl := Option.some.inj (hrec.symm.trans hrec')
      rcases hcourse.late hsent hrec hlate with
        ⟨hleft, taken, hhanded, htold⟩ | ⟨hspent, hhanded, htold⟩
      · refine .inl ⟨hleft, taken, ?_, ?_⟩
        · exact List.append_cancel_left (hhanded'.symm.trans hhanded)
        · exact List.append_cancel_left (htold'.symm.trans htold)
      · refine .inr ⟨hspent, ?_, ?_⟩
        · exact List.self_eq_append_right.mp (hhanded.symm.trans hhanded')
        · exact List.append_cancel_left (htold'.symm.trans htold)

omit [DecidableEq κ] in
/-- What is told under a number is told at one of the events. -/
theorem mem_toldUnder {seq : UInt16} {events : List Event} {status : DeliveryStatus} :
    status ∈ toldUnder seq events ↔ ∃ e ∈ events, status ∈ toldUnder seq [e] := by
  simp only [toldUnder, List.mem_filter, List.mem_flatMap, List.mem_singleton, exists_eq_left]
  constructor
  · rintro ⟨⟨e, he, hmem⟩, hseq⟩
    exact ⟨e, he, hmem, hseq⟩
  · rintro ⟨e, he, hmem, hseq⟩
    exact ⟨⟨e, he, hmem⟩, hseq⟩

/-! ## What is handed over -/

/-- What is handed over for a frame in the events `own`, from its send to the next one under
its number. -/
structure Resends (n : UInt32) (header : Header) (payload : Bytes) (own : List Event) :
    Prop where
  /-- Every transmission is of the frame as it was sent. -/
  identical : ∀ t ∈ handedUnder header.seq own, t.header = header ∧ t.payload = payload
  /-- There is a first transmission, and there are at most as many more as retries. -/
  bounded : 1 ≤ (handedUnder header.seq own).length ∧
    (handedUnder header.seq own).length ≤ n.toNat + 1
  /-- Nothing is handed over after the event that publishes an outcome. -/
  silent : ∀ own₁ own₂, own = own₁ ++ own₂ → toldUnder header.seq own₁ ≠ [] →
    handedUnder header.seq own₂ = []
  /-- That event hands over nothing but a resend that fails, which is why it publishes. -/
  failing : ∀ e ∈ own, toldUnder header.seq [e] ≠ [] →
    ∀ t ∈ handedUnder header.seq [e], t.taken = false
  /-- Without an acknowledgment and a failure, the outcome is a timeout after all resends. -/
  exhausting : (∀ e ∈ own, ∀ clock, e.operation ≠ .acknowledge clock header.seq) →
    (∀ t ∈ handedUnder header.seq own, t.taken = true) → toldUnder header.seq own ≠ [] →
    toldUnder header.seq own = [⟨header.id, header.seq, .timeout⟩] ∧
      (handedUnder header.seq own).length = n.toNat + 1

/-- After its outcome a frame is not handed over again. -/
theorem Run.silent {e : Event} {events₁ events₂ : List Event} {listeners : List κ}
    (hready : o.Ready k) (hr : o.setup.retry = some (n, listeners))
    (he : e.operation = .send clock header payload taken)
    (hrun : Run c k o (e :: events₁ ++ events₂) o')
    (hown : ∀ e ∈ events₁ ++ events₂, e.sendsUnder header.seq = false)
    (htold : toldUnder header.seq (e :: events₁) ≠ []) : handedUnder header.seq events₂ = [] := by
  obtain ⟨o₁, hrun₁, hrun₂⟩ := run_append.mp hrun
  have hown₁ : ∀ e ∈ events₁, e.sendsUnder header.seq = false :=
    fun e he => hown e (List.mem_append_left _ he)
  have hidle : (o₁.slices k header.seq).record = none := by
    cases taken with
    | false => rw [hrun₁.refused hready he hown₁]
    | true =>
      have hcourse := hrun₁.course hready hr he hown₁
      rcases hcourse.told_eq (hrun₁.told_slices _) with ⟨hnone, -⟩ | ⟨_, -, hrec, -⟩
      · exact absurd hnone htold
      · exact hrec
  have hsame := hrun₂.slice_eq_of_idle (hrun₁.ready hready)
    (fun e he => hown e (List.mem_append_right _ he)) hidle
  have hhanded := hrun₂.handed_slices header.seq
  rw [hsame] at hhanded
  exact List.self_eq_append_right.mp hhanded

/-- What is resent of a frame from when it is sent, as long as its number is not used again. -/
theorem Run.resends {e : Event} {events : List Event} {listeners : List κ}
    (hready : o.Ready k) (hr : o.setup.retry = some (n, listeners))
    (he : e.operation = .send clock header payload taken) (hrun : Run c k o (e :: events) o')
    (hown : ∀ e ∈ events, e.sendsUnder header.seq = false) :
    Resends n header payload (e :: events) := by
  have htold := hrun.told_slices header.seq
  have hsent := hrun.handed_slices header.seq
  have hfailing : ∀ e' ∈ e :: events, toldUnder header.seq [e'] ≠ [] →
      ∀ t ∈ handedUnder header.seq [e'], t.taken = false := by
    intro e' he' hsome
    rcases hrun.told_cases hready he' header.seq with
      hnone | ⟨_, _, -, -, hnone⟩ | ⟨_, _, _, -, -, h⟩
    · exact absurd hnone hsome
    · rw [hnone]
      simp
    · exact h
  have hsilent : ∀ own₁ own₂, e :: events = own₁ ++ own₂ → toldUnder header.seq own₁ ≠ [] →
      handedUnder header.seq own₂ = [] := by
    intro own₁ own₂ hsplit hsome
    cases own₁ with
    | nil => exact absurd rfl hsome
    | cons e' own₁ =>
      obtain ⟨rfl, rfl⟩ := List.cons.inj hsplit
      exact Run.silent hready hr he hrun hown hsome
  cases taken with
  | false =>
    rw [hrun.refused hready he hown] at htold hsent
    have htold : toldUnder header.seq (e :: events) = [] := List.self_eq_append_right.mp htold
    have hsent : handedUnder header.seq (e :: events) = [⟨header, payload, false⟩] :=
      (List.append_cancel_left hsent).symm
    exact {
      identical := by simp [hsent]
      bounded := by simp [hsent]
      silent := hsilent
      failing := hfailing
      exhausting := fun _ _ hsome => absurd htold hsome }
  | true =>
    have hcourse := hrun.course hready hr he hown
    obtain ⟨hidentical, hone, hmost, -⟩ := hcourse.handed_eq hsent
    refine ⟨hidentical, ⟨hone, hmost⟩, hsilent, hfailing, ?_⟩
    intro hnoack htaken hsome
    obtain ⟨outcome, hone, -⟩ := (hcourse.told_eq htold).resolve_left fun h => hsome h.1
    cases outcome with
    | timeout =>
      rw [hone] at htold
      exact ⟨hone, hcourse.length_of_timeout htold hsent htaken⟩
    | success =>
      obtain ⟨e', he', hmem⟩ := mem_toldUnder.mp (hone ▸ List.mem_singleton_self _)
      rcases hrun.told_cases hready he' header.seq with
        hnone | ⟨_, clock, hop, -⟩ | ⟨_, _, _, -, htimeout, -⟩
      · rw [hnone] at hmem
        cases hmem
      · exact absurd hop (hnoack e' he' clock)
      · rw [htimeout, List.mem_singleton] at hmem
        cases hmem

/-- Whatever is handed over for a frame is the frame as it was sent, at most once more than
there are retries, and nothing follows its outcome. While the frame is in flight its copy counts
the resends, and a scan that finds it late resends it or, if the resends are used up, ends it.
Without a send nothing is handed over. -/
theorem resends_are_bounded {events : List Event} (hfresh : Fresh k n o₀)
    (hrun : Run c k o₀ events o) :
    (∀ seq, handedUnder seq (untilReused seq events) = []) ∧
    ∀ before e after clock header payload taken, events = before ++ e :: after →
      e.operation = .send clock header payload taken →
      let own := e :: untilReused header.seq after
      let sent := handedUnder header.seq own
      Resends n header payload own ∧
      (taken = false → sent = [⟨header, payload, false⟩]) ∧
      (untilReused header.seq after = after →
        (∀ copy, o.entry? header.seq = some copy →
          copy.remaining.toNat + (sent.length - 1) = n.toNat) ∧
        ∀ record, o.tracker.pending[header.seq]? = some record →
          ∀ scan o' now clock, Run c k o [scan] o' → scan.operation = .scan now clock →
          o.tracker.timeout.nanos < now - record.sentAt →
          (sent.length ≤ n.toNat ∧ ∃ taken,
              handedUnder header.seq [scan] = [⟨header, payload, taken⟩] ∧
              toldUnder header.seq [scan] =
                if taken then [] else [⟨header.id, header.seq, .timeout⟩]) ∨
            (sent.length = n.toNat + 1 ∧ handedUnder header.seq [scan] = [] ∧
              toldUnder header.seq [scan] = [⟨header.id, header.seq, .timeout⟩])) := by
  refine ⟨fun seq => (hfresh.slice_untilReused hrun seq).2, ?_⟩
  rintro before e after clock header payload taken rfl he own sent
  obtain ⟨o₁, o₂, hready, ⟨listeners, hr⟩, hown, hcut⟩ := hrun.window hfresh header.seq
  have hfree : ∀ e ∈ untilReused header.seq after, e.sendsUnder header.seq = false :=
    fun e he => sendsUnder_of_mem_untilReused he
  have hsent := hown.handed_slices header.seq
  refine ⟨hown.resends hready hr he hfree, ?_, ?_⟩
  · rintro rfl
    rw [hown.refused hready he hfree] at hsent
    exact (List.append_cancel_left hsent).symm
  · intro hcurrent
    obtain rfl : o₂ = o := by
      rcases hcut with ⟨-, rfl⟩ | ⟨hreused, -⟩
      · rfl
      · exact absurd hcurrent hreused
    cases taken with
    | false =>
      have hrefused := hown.refused hready he hfree
      constructor
      · intro copy hcopy
        rw [show o₂.entry? header.seq = none from congrArg Slice.copy hrefused] at hcopy
        cases hcopy
      · intro record hrec
        rw [show o₂.tracker.pending[header.seq]? = none from congrArg Slice.record hrefused] at hrec
        cases hrec
    | true =>
      have hcourse := hown.course hready hr he hfree
      refine ⟨(hcourse.handed_eq hsent).2.2.2, ?_⟩
      intro record hrec scan o' now clock' hscan hop hwaited
      exact hscan.scan_late (hown.ready hready) hop hcourse hsent hrec hwaited

/-- A frame that nobody acknowledges is handed over once more than there are retries. -/
theorem resends_are_bounded_of_silence :
    let header := Header.new 3 7 1
    let start := recorded ⟨10⟩ 1 (⟨{}, []⟩ : Watched MemoryLink)
    let events : List Event :=
      [⟨.send 0 header [9] true, [], [⟨header, [9], true⟩]⟩,
        ⟨.scan 20 fun _ => 20, [], [⟨header, [9], true⟩]⟩,
        ⟨.scan 40 fun _ => 40, [⟨3, 7, .timeout⟩], []⟩]
    Fresh .outcomes 1 start ∧ ∃ o, Run (MemoryLink.carrier .near) .outcomes start events o ∧
      toldUnder 7 events = [⟨3, 7, .timeout⟩] ∧ (handedUnder 7 events).length = 1 + 1 := by
  intro header start events
  have hfresh : Fresh .outcomes 1 start := fresh_recorded _ _ _
  let c := MemoryLink.carrier .near
  let o₁ := (start.sendReliable c.watched 0 header [9]).2
  let o₂ := o₁.expireAll c.watched (fun _ => 20) [(7, ⟨3, 0⟩)]
  let o := o₂.expireAll c.watched (fun _ => 40) [(7, ⟨3, 20⟩)]
  have hsend : Performs c start (.send 0 header [9] true) o₁ := .send rfl rfl
  have hresend : Performs c o₁ (.scan 20 fun _ => 20) o₂ := .scan (.of_eq rfl)
  have hend : Performs c o₂ (.scan 40 fun _ => 40) o := .scan (.of_eq rfl)
  have hrun : Run c .outcomes start events o :=
    .step hsend rfl rfl (.step hresend rfl rfl (.step hend (by decide) (by decide) .stop))
  obtain ⟨hresends, -⟩ := (resends_are_bounded hfresh hrun).2 [] _ _ _ _ _ _ rfl rfl
  refine ⟨hfresh, o, hrun, hresends.exhausting ?_ ?_ ?_⟩
  · intro e he clock
    rcases List.mem_cons.mp he with rfl | he
    · nofun
    · rcases List.mem_cons.mp he with rfl | he
      · nofun
      · rw [List.mem_singleton.mp he]
        nofun
  · decide
  · decide

end Outbound

end Courier
