import Courier.Delivery.Recording
import Courier.Link.Memory
import Courier.Proofs.Delivery.Runs

/-!
# One outcome for every frame

A frame that the layers have taken goes through a course of its own: it is in flight with a
copy, resent a number of times, until it comes to its end in one of three ways. The course is
all that can be seen under the frame's number before the number is used again, and it tells
of one outcome at its end and of none before.
-/

namespace Courier

namespace Slice

/-- The course of a frame that was taken with `n` retries, by what was added to the slice of
its number since then. -/
inductive Course (n : UInt32) (header : Header) (payload : Bytes) (before : Slice) : Slice → Prop
  | underway {resent : Nat} {record : InFlight} {remaining : UInt32} :
      record.endpoint = header.id → remaining.toNat + resent = n.toNat →
      Course n header payload before
        { record := some record
          copy := some ⟨header, payload, remaining⟩
          told := before.told
          handed := before.handed ++ List.replicate (resent + 1) ⟨header, payload, true⟩ }
  | delivered {resent : Nat} : resent ≤ n.toNat →
      Course n header payload before
        { told := before.told ++ [⟨header.id, header.seq, .success⟩]
          handed := before.handed ++ List.replicate (resent + 1) ⟨header, payload, true⟩ }
  | exhausted :
      Course n header payload before
        { told := before.told ++ [⟨header.id, header.seq, .timeout⟩]
          handed := before.handed ++ List.replicate (n.toNat + 1) ⟨header, payload, true⟩ }
  /-- A resend was not taken. -/
  | abandoned {resent : Nat} : resent < n.toNat →
      Course n header payload before
        { told := before.told ++ [⟨header.id, header.seq, .timeout⟩]
          handed := before.handed ++ (List.replicate (resent + 1) ⟨header, payload, true⟩ ++
            [⟨header, payload, false⟩]) }

variable {n : UInt32} {header : Header} {payload : Bytes} {before v v' : Slice}

/-- Whatever happens to the slice of a frame continues its course. -/
theorem Course.evolves {timeout : Duration} {op : Outbound.Operation}
    (h : Course n header payload before v) (he : v.Evolves timeout header.seq op v') :
    Course n header payload before v' := by
  cases h with
  | @underway resent record remaining hid hsum =>
    cases he with
    | same => exact .underway hid hsum
    | acknowledged hrec =>
      obtain rfl := Option.some.inj hrec
      simp only [settle, tell, hid]
      exact .delivered (by omega)
    | late hrec _ hlate =>
      obtain rfl := Option.some.inj hrec
      cases hlate with
      | untracked hnone => cases hnone
      | exhausted hcopy hzero =>
        obtain rfl := Option.some.inj hcopy
        obtain rfl : resent = n.toNat := by
          have : remaining.toNat = 0 := by simpa using congrArg UInt32.toNat hzero
          omega
        simp only [settle, tell, hid]
        exact .exhausted
      | abandoned hcopy hpos =>
        obtain rfl := Option.some.inj hcopy
        have : remaining.toNat ≠ 0 := fun h => hpos (UInt32.toNat_inj.mp h)
        simp only [settle, tell, hand, hid, List.append_assoc]
        exact .abandoned (by omega)
      | resent hcopy hpos =>
        obtain rfl := Option.some.inj hcopy
        have : remaining.toNat ≠ 0 := fun h => hpos (UInt32.toNat_inj.mp h)
        have hless : (remaining - 1).toNat = remaining.toNat - 1 := by
          rw [UInt32.toNat_sub_of_le _ _ (UInt32.le_iff_toNat_le.mpr (by simp; omega))]
          rfl
        simp only [hand, List.append_assoc]
        rw [← List.replicate_one, List.replicate_append_replicate]
        exact .underway rfl (by omega)
  | delivered hle =>
    rw [he.eq_of_record_eq_none rfl]
    exact .delivered hle
  | exhausted =>
    rw [he.eq_of_record_eq_none rfl]
    exact .exhausted
  | abandoned hlt =>
    rw [he.eq_of_record_eq_none rfl]
    exact .abandoned hlt

/-- A frame is in flight with its copy for as long as nothing was published about it, and one
publication ends both. -/
theorem Course.told_eq {told : List DeliveryStatus} (h : Course n header payload before v)
    (htold : v.told = before.told ++ told) :
    (told = [] ∧ (∃ sentAt, v.record = some ⟨header.id, sentAt⟩) ∧
        ∃ remaining, v.copy = some ⟨header, payload, remaining⟩) ∨
      ∃ outcome, told = [⟨header.id, header.seq, outcome⟩] ∧ v.record = none ∧ v.copy = none := by
  cases h with
  | @underway resent record remaining hid =>
    have : told = [] := by simpa using htold
    exact .inl ⟨this, ⟨record.sentAt, by rw [← hid]⟩, remaining, rfl⟩
  | delivered => exact .inr ⟨.success, (List.append_cancel_left htold).symm, rfl, rfl⟩
  | exhausted => exact .inr ⟨.timeout, (List.append_cancel_left htold).symm, rfl, rfl⟩
  | abandoned => exact .inr ⟨.timeout, (List.append_cancel_left htold).symm, rfl, rfl⟩

end Slice

namespace Outbound

variable {σ κ : Type} [DecidableEq κ] {k : κ} {n : UInt32} {o o' o₀ : Outbound (Watched σ) κ}
  {c : Carrier σ} {clock : Time} {header : Header} {payload : Bytes} {taken : Bool}

/-- Layers that have just been put together: final outcomes reach `k`, frames are resent
`n` times, and nothing is in flight. -/
structure Fresh (k : κ) (n : UInt32) (o : Outbound (Watched σ) κ) : Prop where
  tells : o.setup.Tells k
  retries : ∃ listeners, o.setup.retry = some (n, listeners)
  idle : ∀ seq, o.tracker.isPending seq = false ∧ o.entry? seq = none

/-- A frame is in flight, and there is a copy of it. -/
def Holds (o : Outbound (Watched σ) κ) (header : Header) (payload : Bytes) : Prop :=
  (∃ sentAt, o.tracker.pending[header.seq]? = some ⟨header.id, sentAt⟩) ∧
    ∃ remaining, o.entry? header.seq = some ⟨header, payload, remaining⟩

/-- No frame is in flight under a number, and there is no copy of one. -/
def Forgets (o : Outbound (Watched σ) κ) (seq : UInt16) : Prop :=
  o.tracker.pending[seq]? = none ∧ o.entry? seq = none

/-! ## From the beginning -/

/-- Layers that are used on their own start afresh. -/
theorem fresh_recorded (timeout : Duration) (n : UInt32) (medium : Watched σ) :
    Fresh .outcomes n (recorded timeout n medium) where
  tells := by
    simp [recorded, listen, attachRetry, listenToRetry, setup, Signal.handlers, Signal.connect,
      Setup.Tells]
  retries := ⟨_, rfl⟩
  idle seq := by
    simp [recorded, listen, attachRetry, listenToRetry, Tracker.isPending, entry?]

/-- Nothing is in flight through new layers. -/
theorem Fresh.record_eq_none (h : Fresh k n o) (seq : UInt16) :
    (o.slices k seq).record = none := by
  have hidle := (h.idle seq).1
  rwa [Tracker.isPending_eq, Option.isSome_eq_false_iff, Option.isNone_iff_eq_none] at hidle

/-- New layers hold no copies. -/
theorem Fresh.copy_eq_none (h : Fresh k n o) (seq : UInt16) : (o.slices k seq).copy = none :=
  (h.idle seq).2

/-- A listener outside hears of every final outcome. -/
theorem Fresh.ready (h : Fresh k n o) : o.Ready k where
  tells := h.tells
  proper seq e he := by
    rw [h.copy_eq_none] at he
    cases he

/-- Nothing is in flight, so that nothing has to be held. -/
theorem Fresh.synced (h : Fresh k n o) (seq : UInt16) : (o.slices k seq).Synced := by
  rw [Slice.Synced, h.record_eq_none, h.copy_eq_none]
  rfl

/-- There is a retry layer among them. -/
theorem Fresh.isSome_retry (h : Fresh k n o) : o.setup.retry.isSome := by
  obtain ⟨listeners, hr⟩ := h.retries
  simp [hr]

/-- Before the first frame is sent under a number, nothing happens under it. -/
theorem Fresh.slice_untilReused {events : List Event} (hfresh : Fresh k n o₀)
    (hrun : Run c k o₀ events o) (seq : UInt16) :
    toldUnder seq (untilReused seq events) = [] ∧
      handedUnder seq (untilReused seq events) = [] := by
  obtain ⟨o₁, hown, -⟩ := hrun.cut seq
  have hsame := hown.slice_eq_of_idle hfresh.ready
    (fun e he => sendsUnder_of_mem_untilReused he) (hfresh.record_eq_none seq)
  have htold := hown.told_slices seq
  have hhanded := hown.handed_slices seq
  rw [hsame] at htold hhanded
  exact ⟨List.self_eq_append_right.mp htold, List.self_eq_append_right.mp hhanded⟩

/-! ## From one send to the next under the same number -/

/-- A frame that was taken follows its course for as long as its number is not used again. -/
theorem Run.course {e : Event} {events : List Event} {listeners : List κ} (hready : o.Ready k)
    (hr : o.setup.retry = some (n, listeners)) (he : e.operation = .send clock header payload true)
    (hrun : Run c k o (e :: events) o') (hown : ∀ e ∈ events, e.sendsUnder header.seq = false) :
    Slice.Course n header payload (o.slices k header.seq) (o'.slices k header.seq) := by
  cases hrun with
  | step hop _ _ hrest =>
    have hready' := hop.ready hready
    rw [he] at hop
    refine hrest.slice_induction hready' hown (fun _ v v' h hv => h.evolves hv) ?_
    rw [hop.slice_of_send, hr]
    exact @Slice.Course.underway _ _ _ _ 0 _ _ rfl rfl

/-- A frame that was not taken leaves nothing behind but that it was handed over. -/
theorem Run.refused {e : Event} {events : List Event} (hready : o.Ready k)
    (he : e.operation = .send clock header payload false)
    (hrun : Run c k o (e :: events) o') (hown : ∀ e ∈ events, e.sendsUnder header.seq = false) :
    o'.slices k header.seq = { (o.slices k header.seq).hand ⟨header, payload, false⟩ with
      record := none, copy := none } := by
  cases hrun with
  | step hop _ _ hrest =>
    have hready' := hop.ready hready
    rw [he] at hop
    rw [hrest.slice_eq_of_idle hready' hown, hop.slice_of_send]
    · rfl
    · rw [hop.slice_of_send]
      rfl

/-- The part of a run from a send to the next one under the same number. If there is a next
one, nothing is in flight under the number by then. -/
theorem Run.window {before after : List Event} {e : Event} (hfresh : Fresh k n o₀)
    (hrun : Run c k o₀ (before ++ e :: after) o) (seq : UInt16) :
    ∃ o₁ o₂, o₁.Ready k ∧ (∃ listeners, o₁.setup.retry = some (n, listeners)) ∧
      Run c k o₁ (e :: untilReused seq after) o₂ ∧
      (untilReused seq after = after ∧ o₂ = o ∨
        untilReused seq after ≠ after ∧ (o₂.slices k seq).record = none) := by
  obtain ⟨o₁, hbefore, hafter⟩ := run_append.mp hrun
  cases hafter with
  | step hop htold hhanded hrest =>
    obtain ⟨o₂, hown, hcut⟩ := hrest.cut seq
    exact ⟨o₁, o₂, hbefore.ready hfresh.ready, hbefore.setup_eq ▸ hfresh.retries,
      .step hop htold hhanded hown, hcut⟩

/-! ## What is published -/

/-- However frames are sent, acknowledged and found late, there is a record of a frame in
flight exactly if there is a copy of it; a frame that was taken is in flight with its copy until
one outcome is published about it, and never again; and about a frame that was not taken
nothing is published. -/
theorem exactly_one_outcome {events : List Event} (hfresh : Fresh k n o₀)
    (hrun : Run c k o₀ events o) :
    (∀ seq, o.tracker.isPending seq = (o.entry? seq).isSome) ∧
    (∀ seq, toldUnder seq (untilReused seq events) = []) ∧
    ∀ before e after clock header payload taken, events = before ++ e :: after →
      e.operation = .send clock header payload taken →
      let own := e :: untilReused header.seq after
      let current := untilReused header.seq after = after
      (taken = true →
        toldUnder header.seq own = [] ∧ current ∧ o.Holds header payload ∨
        ∃ outcome, toldUnder header.seq own = [⟨header.id, header.seq, outcome⟩] ∧
          (current → o.Forgets header.seq)) ∧
      (taken = false → toldUnder header.seq own = [] ∧ (current → o.Forgets header.seq)) := by
  refine ⟨?_, ?_, ?_⟩
  · intro seq
    rw [Tracker.isPending_eq]
    exact hrun.synced hfresh.ready hfresh.isSome_retry hfresh.synced seq
  · intro seq
    exact (hfresh.slice_untilReused hrun seq).1
  · rintro before e after clock header payload taken rfl he own current
    obtain ⟨o₁, o₂, hready, ⟨listeners, hr⟩, hown, hcut⟩ := hrun.window hfresh header.seq
    have hfree : ∀ e ∈ untilReused header.seq after, e.sendsUnder header.seq = false :=
      fun e he => sendsUnder_of_mem_untilReused he
    have htold := hown.told_slices header.seq
    constructor
    · rintro rfl
      have hcourse := hown.course hready hr he hfree
      rcases hcourse.told_eq htold with ⟨hnone, hrec, hcopy⟩ | ⟨outcome, hone, hgone⟩
      · rcases hcut with ⟨hcurrent, rfl⟩ | ⟨-, hnorec⟩
        · exact .inl ⟨hnone, hcurrent, hrec, hcopy⟩
        · obtain ⟨sentAt, hrec⟩ := hrec
          rw [hnorec] at hrec
          cases hrec
      · refine .inr ⟨outcome, hone, ?_⟩
        intro hcurrent
        rcases hcut with ⟨-, rfl⟩ | ⟨hreused, -⟩
        · exact hgone
        · exact absurd hcurrent hreused
    · rintro rfl
      have hrefused := hown.refused hready he hfree
      rw [hrefused] at htold
      refine ⟨List.self_eq_append_right.mp htold, ?_⟩
      intro hcurrent
      rcases hcut with ⟨-, rfl⟩ | ⟨hreused, -⟩
      · exact ⟨congrArg Slice.record hrefused, congrArg Slice.copy hrefused⟩
      · exact absurd hcurrent hreused

/-- A frame that is resent once and acknowledged then is a success and is gone. -/
theorem exactly_one_outcome_of_resent :
    let header := Header.new 3 7 1
    let start := recorded ⟨10⟩ 1 (⟨{}, []⟩ : Watched MemoryLink)
    let events : List Event :=
      [⟨.send 0 header [9] true, [], [⟨header, [9], true⟩]⟩,
        ⟨.scan 20 fun _ => 20, [], [⟨header, [9], true⟩]⟩,
        ⟨.acknowledge 25 7, [⟨3, 7, .success⟩], []⟩]
    Fresh .outcomes 1 start ∧ ∃ o, Run (MemoryLink.carrier .near) .outcomes start events o ∧
      ∃ outcome, toldUnder 7 events = [⟨3, 7, outcome⟩] ∧ o.Forgets 7 := by
  intro header start events
  have hfresh : Fresh .outcomes 1 start := fresh_recorded _ _ _
  have hrun : ∃ o, Run (MemoryLink.carrier .near) .outcomes start events o := by
    refine ⟨_, .step (.send rfl rfl) rfl rfl (.step (.scan .rfl) rfl rfl
      (.step .acknowledge rfl rfl .stop))⟩
  obtain ⟨o, hrun⟩ := hrun
  refine ⟨hfresh, o, hrun, ?_⟩
  rcases ((exactly_one_outcome hfresh hrun).2.2 [] _ _ _ _ _ _ rfl rfl).1 rfl with
    ⟨hnone, -⟩ | ⟨outcome, hone, hgone⟩
  · cases hnone
  · exact ⟨outcome, hone, hgone rfl⟩

end Outbound

end Courier
