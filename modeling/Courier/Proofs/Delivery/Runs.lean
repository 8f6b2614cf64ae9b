import Courier.Proofs.Delivery.Transitions

/-!
# Runs of the outbound layers

The layers are used from outside by sending, acknowledging and scanning, in any order and
at any readings of the clock. A run records for each of these operations what a listener was
told and what was handed to the carrier. Seen from one sequence number, every operation but
a send under it either changes nothing or ends one wait for an acknowledgment.
-/

namespace Courier

namespace Outbound

variable {σ κ : Type} [DecidableEq κ] {k : κ} {o o' : Outbound (Watched σ) κ} {c : Carrier σ}

/-- What is done to the layers from outside. -/
inductive Operation where
  /-- A frame is sent with a copy, and the layers take it or report a failure. -/
  | send (clock : Time) (header : Header) (payload : Bytes) (taken : Bool)
  | acknowledge (clock : Time) (seq : UInt16)
  /-- Late frames are looked for as of `now`; what is sent again under a number counts as sent when
  the clock is read for that. -/
  | scan (now : Time) (clock : UInt16 → Time)

/-- Whether an operation sends a frame under a sequence number. -/
def Operation.sendsUnder (seq : UInt16) : Operation → Bool
  | .send _ header _ _ => header.seq = seq
  | _ => false

/-- How an operation changes the layers. Only frames that are no acknowledgments and whose
numbers are free are sent, and a scan takes the late frames in any order. -/
inductive Performs (c : Carrier σ) (o : Outbound (Watched σ) κ) :
    Operation → Outbound (Watched σ) κ → Prop
  | send {clock : Time} {header : Header} {payload : Bytes} :
      header.isAck = false → o.tracker.isPending header.seq = false →
      Performs c o
        (.send clock header payload (o.sendReliable c.watched clock header payload).1.isOk)
        (o.sendReliable c.watched clock header payload).2
  | acknowledge {clock : Time} {seq : UInt16} :
      Performs c o (.acknowledge clock seq) (o.acknowledge c.watched clock seq).2
  | scan {now : Time} {clock : UInt16 → Time} {late : List (UInt16 × InFlight)} :
      late.Perm (o.tracker.overdue now) →
      Performs c o (.scan now clock) (o.expireAll c.watched clock late)

/-- An operation with what was published and what was handed to the carrier meanwhile. -/
structure Event where
  operation : Operation
  told : List DeliveryStatus
  handed : List Transmission

/-- Whether an event is the sending of a frame under a sequence number. -/
def Event.sendsUnder (seq : UInt16) (e : Event) : Bool := e.operation.sendsUnder seq

/-- Operations one after the other, as they are noticed by the listener `k`. -/
inductive Run (c : Carrier σ) (k : κ) :
    Outbound (Watched σ) κ → List Event → Outbound (Watched σ) κ → Prop
  | stop {o : Outbound (Watched σ) κ} : Run c k o [] o
  | step {o o₁ o' : Outbound (Watched σ) κ} {e : Event} {events : List Event} :
      Performs c o e.operation o₁ →
      o₁.heardBy k = o.heardBy k ++ e.told →
      o₁.medium.handed = o.medium.handed ++ e.handed →
      Run c k o₁ events o' → Run c k o (e :: events) o'

/-- The outcomes that were published under a sequence number. -/
def toldUnder (seq : UInt16) (events : List Event) : List DeliveryStatus :=
  (events.flatMap (·.told)).filter (·.seq = seq)

/-- What was handed to the carrier under a sequence number. -/
def handedUnder (seq : UInt16) (events : List Event) : List Transmission :=
  (events.flatMap (·.handed)).filter (·.header.seq = seq)

/-- The events before the next frame is sent under a sequence number: they are about the
frame that was sent under it last. -/
def untilReused (seq : UInt16) (events : List Event) : List Event :=
  events.takeWhile (!·.sendsUnder seq)

/-- Whether an operation has to do with the frame in flight under a sequence number, if frames
may wait for `timeout`. -/
def Operation.concerns (timeout : Duration) (seq : UInt16) (record : InFlight) : Operation → Bool
  | .send .. => false
  | .acknowledge _ acked => acked = seq
  | .scan now _ => timeout.nanos < now - record.sentAt

end Outbound

namespace Slice

/-- A copy is of a frame with this sequence number that is no acknowledgment. -/
def Proper (seq : UInt16) (v : Slice) : Prop :=
  ∀ e, v.copy = some e → e.header.seq = seq ∧ e.header.isAck = false

/-- There is a record exactly if there is a copy. -/
def Synced (v : Slice) : Prop := v.record.isSome = v.copy.isSome

/-- What an operation does to a slice unless it sends a frame under its number. -/
inductive Evolves (timeout : Duration) (seq : UInt16) (v : Slice) :
    Outbound.Operation → Slice → Prop
  | same {op : Outbound.Operation} :
      (∀ record, v.record = some record → op.concerns timeout seq record = false) →
      Evolves timeout seq v op v
  | acknowledged {clock : Time} {record : InFlight} : v.record = some record →
      Evolves timeout seq v (.acknowledge clock seq) (v.settle ⟨record.endpoint, seq, .success⟩)
  | late {now : Time} {clock : UInt16 → Time} {record : InFlight} {v' : Slice} :
      v.record = some record → timeout.nanos < now - record.sentAt →
      Late (clock seq) ⟨record.endpoint, seq, .timeout⟩ { v with record := none } v' →
      Evolves timeout seq v (.scan now clock) v'

variable {timeout : Duration} {seq : UInt16} {op : Outbound.Operation} {v v' : Slice}

/-- A number under which nothing is in flight is left alone. -/
theorem Evolves.eq_of_record_eq_none (h : v.Evolves timeout seq op v') (hv : v.record = none) :
    v' = v := by
  cases h with
  | same => rfl
  | acknowledged hrec => rw [hv] at hrec; cases hrec
  | late hrec => rw [hv] at hrec; cases hrec

/-- What is done with a copy leaves it a copy of a frame with its number. -/
theorem Proper.evolves (h : v.Proper seq) (he : v.Evolves timeout seq op v') : v'.Proper seq := by
  cases he with
  | same => exact h
  | acknowledged => rintro e ⟨⟩
  | late _ _ hlate =>
    cases hlate with
    | untracked => rintro e ⟨⟩
    | exhausted => rintro e ⟨⟩
    | abandoned => rintro e ⟨⟩
    | @resent e hcopy _ =>
      rintro _ ⟨⟩
      exact h e hcopy

/-- Records and copies come to their ends together. -/
theorem Synced.evolves (h : v.Synced) (he : v.Evolves timeout seq op v') : v'.Synced := by
  cases he with
  | same => exact h
  | acknowledged => rfl
  | late _ _ hlate => cases hlate <;> rfl

end Slice

namespace Outbound

open Function (update_self update_of_ne)

variable {σ κ : Type} [DecidableEq κ] {k : κ} {o o' : Outbound (Watched σ) κ} {c : Carrier σ}

/-- Layers whose final outcomes reach `k`, and whose copies are kept under their numbers. -/
structure Ready (k : κ) (o : Outbound (Watched σ) κ) : Prop where
  tells : o.setup.Tells k
  proper : ∀ seq, (o.slices k seq).Proper seq

/-! ## One operation -/

omit [DecidableEq κ] in
/-- No operation changes the connections of the layers. -/
theorem Performs.setup_eq {op : Operation} (h : Performs c o op o') : o'.setup = o.setup := by
  cases h <;> simp

/-- A frame that was taken leaves a record, and a copy with all its retries if there is a retry
layer; one that was not taken leaves neither. -/
theorem Performs.slice_of_send {clock : Time} {header : Header} {payload : Bytes} {taken : Bool}
    (h : Performs c o (.send clock header payload taken) o') :
    o'.slices k header.seq =
      { (o.slices k header.seq).sent clock header payload taken with
        copy := if taken then o.setup.retry.map fun r => ⟨header, payload, r.1⟩ else none } := by
  cases h with
  | send hack hfree => rw [slices_sendReliable hack, update_self]

/-- A number under which a frame is sent is free. -/
theorem Performs.record_eq_none {op : Operation} {seq : UInt16} (h : Performs c o op o')
    (hop : op.sendsUnder seq = true) : (o.slices k seq).record = none := by
  cases h with
  | acknowledge => cases hop
  | scan => cases hop
  | send _ hfree =>
    obtain rfl := of_decide_eq_true hop
    rwa [Tracker.isPending_eq, Option.isSome_eq_false_iff, Option.isNone_iff_eq_none] at hfree

/-- To a number under which nothing is sent, an operation does one of a few things. -/
theorem Performs.evolves {op : Operation} {seq : UInt16} (hready : o.Ready k)
    (h : Performs c o op o') (hop : op.sendsUnder seq = false) :
    (o.slices k seq).Evolves o.setup.timeout seq op (o'.slices k seq) := by
  cases h with
  | @send clock header payload hack hfree =>
    have hne : seq ≠ header.seq := by
      rintro rfl
      simp [Operation.sendsUnder] at hop
    rw [slices_sendReliable hack, update_of_ne hne]
    exact .same fun _ _ => rfl
  | @acknowledge clock acked =>
    rw [slices_acknowledge hready.tells]
    by_cases hs : acked = seq
    · subst hs
      cases hrec : (o.slices k acked).record with
      | none => exact .same fun record hsome => by rw [hrec] at hsome; cases hsome
      | some record =>
        dsimp only
        rw [update_self]
        exact .acknowledged hrec
    · have hsame : (o.slices k seq).Evolves o.setup.timeout seq (.acknowledge clock acked)
          (o.slices k seq) := .same fun _ _ => decide_eq_false hs
      cases (o.slices k acked).record with
      | none => exact hsame
      | some record =>
        dsimp only
        rwa [update_of_ne fun h => hs h.symm]
  | @scan now clock late hlate =>
    have hnodup : (late.map (·.1)).Nodup :=
      (hlate.map _).nodup_iff.mpr (Tracker.nodup_overdue now)
    have hmem (record : InFlight) : (seq, record) ∈ late ↔
        (o.slices k seq).record = some record ∧ o.setup.timeout.nanos < now - record.sentAt := by
      rw [hlate.mem_iff, Tracker.mem_overdue]
      exact and_congr_right fun _ => decide_eq_true_iff
    obtain ⟨hout, hin⟩ := slices_expireAll (c := c) clock hready.tells hnodup hready.proper seq
    by_cases hlate : ∃ record, (seq, record) ∈ late
    · obtain ⟨record, hx⟩ := hlate
      obtain ⟨hrec, hwaited⟩ := (hmem record).mp hx
      exact .late hrec hwaited (hin record hx)
    · rw [hout fun h => hlate (by simpa using h)]
      refine .same fun record hrec => decide_eq_false fun hwaited => ?_
      exact hlate ⟨record, (hmem record).mpr ⟨hrec, hwaited⟩⟩

/-- A copy is kept under the number of its frame. -/
theorem Ready.sendReliable {clock : Time} {header : Header} {payload : Bytes} (hready : o.Ready k)
    (hack : header.isAck = false) : (o.sendReliable c.watched clock header payload).2.Ready k where
  tells := by simpa using hready.tells
  proper seq e he := by
    rw [slices_sendReliable hack] at he
    by_cases hs : seq = header.seq
    · subst hs
      rw [update_self] at he
      dsimp only at he
      split at he
      · obtain ⟨r, -, rfl⟩ := Option.map_eq_some_iff.mp he
        exact ⟨rfl, hack⟩
      · cases he
    · rw [update_of_ne hs] at he
      exact hready.proper seq e he

/-- After every operation the layers are as ready as before. -/
theorem Performs.ready {op : Operation} (hready : o.Ready k) (h : Performs c o op o') :
    o'.Ready k := by
  cases op with
  | send =>
    cases h with
    | send hack _ => exact hready.sendReliable hack
  | acknowledge =>
    exact ⟨h.setup_eq ▸ hready.tells, fun seq => (hready.proper seq).evolves (h.evolves hready rfl)⟩
  | scan =>
    exact ⟨h.setup_eq ▸ hready.tells, fun seq => (hready.proper seq).evolves (h.evolves hready rfl)⟩

/-- With a retry layer there are copies exactly of the frames in flight, whatever is done. -/
theorem Performs.synced {op : Operation} (hready : o.Ready k) (hretry : o.setup.retry.isSome)
    (hsynced : ∀ seq, (o.slices k seq).Synced) (h : Performs c o op o') (seq : UInt16) :
    (o'.slices k seq).Synced := by
  cases hop : op.sendsUnder seq with
  | false => exact (hsynced seq).evolves (h.evolves hready hop)
  | true =>
    cases op with
    | acknowledge => cases hop
    | scan => cases hop
    | send clock header payload taken =>
      obtain rfl := of_decide_eq_true hop
      rw [h.slice_of_send]
      cases taken with
      | false => rfl
      | true => simpa [Slice.Synced, Slice.sent] using hretry.symm

/-! ## Whole runs -/

/-- A run can be divided anywhere, and runs can be joined. -/
theorem run_append {events₁ events₂ : List Event} :
    Run c k o (events₁ ++ events₂) o' ↔ ∃ o₁, Run c k o events₁ o₁ ∧ Run c k o₁ events₂ o' := by
  induction events₁ generalizing o with
  | nil =>
    constructor
    · exact fun h => ⟨o, .stop, h⟩
    · rintro ⟨o₁, hstop, h⟩
      cases hstop
      exact h
  | cons e events₁ ih =>
    constructor
    · rintro (_ | ⟨hop, htold, hhanded, hrest⟩)
      obtain ⟨o₁, h₁, h₂⟩ := ih.mp hrest
      exact ⟨o₁, .step hop htold hhanded h₁, h₂⟩
    · rintro ⟨o₁, h₁, h₂⟩
      cases h₁ with
      | step hop htold hhanded hrest => exact .step hop htold hhanded (ih.mpr ⟨o₁, hrest, h₂⟩)

/-- Every operation can be noted as an event, so that every run can be continued by it. -/
theorem Performs.exists_run (k : κ) {op : Operation} (h : Performs c o op o') :
    ∃ told handed, Run c k o [⟨op, told, handed⟩] o' := by
  have hextends : o.Extends o' := by
    cases h with
    | send => exact extends_sendReliable _ _
    | acknowledge => exact extends_acknowledge _
    | scan => exact extends_expireAll _ _
  obtain ⟨told, htold⟩ := hextends.heard.filterMap fun heard =>
    if heard.1 = k then some heard.2 else none
  obtain ⟨handed, hhanded⟩ := hextends.handed
  exact ⟨told, handed, .step h htold.symm hhanded.symm .stop⟩

/-- No run changes the connections of the layers. -/
theorem Run.setup_eq {events : List Event} (h : Run c k o events o') : o'.setup = o.setup := by
  induction h with
  | stop => rfl
  | step hop _ _ _ ih => rw [ih, hop.setup_eq]

/-- The layers stay ready throughout a run. -/
theorem Run.ready {events : List Event} (h : Run c k o events o') (hready : o.Ready k) :
    o'.Ready k := by
  induction h with
  | stop => exact hready
  | step hop _ _ _ ih => exact ih (hop.ready hready)

/-- With a retry layer, record and copy go together at every point of a run. -/
theorem Run.synced {events : List Event} (h : Run c k o events o') (hready : o.Ready k)
    (hretry : o.setup.retry.isSome) (hsynced : ∀ seq, (o.slices k seq).Synced) :
    ∀ seq, (o'.slices k seq).Synced := by
  induction h with
  | stop => exact hsynced
  | step hop _ _ _ ih =>
    refine ih (hop.ready hready) ?_ (hop.synced hready hretry hsynced)
    rwa [hop.setup_eq]

/-- What is told under a number is what the events of a run have told under it. -/
theorem Run.told_slices {events : List Event} (h : Run c k o events o') (seq : UInt16) :
    (o'.slices k seq).told = (o.slices k seq).told ++ toldUnder seq events := by
  induction h with
  | stop => simp [toldUnder]
  | step _ htold _ _ ih =>
    rw [ih]
    simp [slices, htold, toldUnder]

/-- What is handed over under a number is what the events of a run have handed over. -/
theorem Run.handed_slices {events : List Event} (h : Run c k o events o') (seq : UInt16) :
    (o'.slices k seq).handed = (o.slices k seq).handed ++ handedUnder seq events := by
  induction h with
  | stop => simp [handedUnder]
  | step _ _ hhanded _ ih =>
    rw [ih]
    simp [slices, hhanded, handedUnder]

/-- What holds of a slice under a number through everything that may happen to it, holds at
the end of a run in which no frame is sent under the number. -/
theorem Run.slice_induction {events : List Event} {seq : UInt16} (h : Run c k o events o')
    (hready : o.Ready k) (hown : ∀ e ∈ events, e.sendsUnder seq = false) {P : Slice → Prop}
    (hP : ∀ op v v', P v → v.Evolves o.setup.timeout seq op v' → P v')
    (hstart : P (o.slices k seq)) : P (o'.slices k seq) := by
  induction h with
  | stop => exact hstart
  | step hop _ _ _ ih =>
    refine ih (hop.ready hready) (fun e he => hown e (List.mem_cons_of_mem _ he)) ?_ ?_
    · rwa [hop.setup_eq]
    · exact hP _ _ _ hstart (hop.evolves hready (hown _ List.mem_cons_self))

/-- Nothing happens under a number under which nothing is in flight, until a frame is sent. -/
theorem Run.slice_eq_of_idle {events : List Event} {seq : UInt16} (h : Run c k o events o')
    (hready : o.Ready k) (hown : ∀ e ∈ events, e.sendsUnder seq = false)
    (hidle : (o.slices k seq).record = none) : o'.slices k seq = o.slices k seq := by
  refine h.slice_induction hready hown (P := fun v => v = o.slices k seq) ?_ rfl
  rintro op v v' rfl hv
  exact hv.eq_of_record_eq_none hidle

/-! ## Where a number is used again -/

/-- Events end to be about the frame that was sent under a number with the next one that is sent
under it. -/
theorem untilReused_append (seq : UInt16) (events : List Event) :
    ∃ rest, events = untilReused seq events ++ rest ∧
      ∀ e ∈ rest.head?, e.sendsUnder seq = true := by
  refine ⟨events.dropWhile (!·.sendsUnder seq), List.takeWhile_append_dropWhile.symm, ?_⟩
  intro e he
  have h := List.head?_dropWhile_not (fun e => !Event.sendsUnder seq e) events
  rw [Option.mem_def.mp he] at h
  simpa using h

/-- Until the next frame is sent under a number nothing is sent under it. -/
theorem sendsUnder_of_mem_untilReused {seq : UInt16} {events : List Event} {e : Event}
    (h : e ∈ untilReused seq events) : e.sendsUnder seq = false := by
  simpa using List.all_eq_true.mp List.all_takeWhile e h

/-- A run is cut where a number is used again. If it is, nothing is in flight under the number
there; otherwise the cut is at the end of the run. -/
theorem Run.cut {events : List Event} (seq : UInt16) (h : Run c k o events o') :
    ∃ o₁, Run c k o (untilReused seq events) o₁ ∧
      (untilReused seq events = events ∧ o₁ = o' ∨
        untilReused seq events ≠ events ∧ (o₁.slices k seq).record = none) := by
  obtain ⟨rest, hsplit, hhead⟩ := untilReused_append seq events
  rw [hsplit, run_append] at h
  obtain ⟨o₁, hown, hrest⟩ := h
  refine ⟨o₁, hown, ?_⟩
  cases hrest with
  | stop =>
    rw [List.append_nil] at hsplit
    exact .inl ⟨hsplit.symm, rfl⟩
  | step hop =>
    refine .inr ⟨?_, hop.record_eq_none (hhead _ rfl)⟩
    intro h
    rw [h] at hsplit
    simp at hsplit

end Outbound

end Courier
