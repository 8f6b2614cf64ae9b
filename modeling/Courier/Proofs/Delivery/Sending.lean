import Courier.Proofs.Delivery.Publication

/-!
# What sending keeps

The layers change the state of their transport only by handing frames to it, and none of these are
acknowledgments unless one is handed in. What the transport keeps when it is handed such a frame is
therefore kept by every operation of the layers.
-/

namespace Courier

/-- A transport keeps a property of its state when it is handed a frame for an endpoint. -/
def Carrier.Keeps {σ : Type} (c : Carrier σ) (P : σ → Prop) : Prop :=
  ∀ header payload s, header.isAck = false → P s → P (c.send header payload s).2

namespace Outbound

variable {σ κ : Type} {o : Outbound σ κ} {c : Carrier σ} {P : σ → Prop} {clock : Time}

/-- Layers over a transport whose state has a property, with no copies of acknowledgments. -/
structure Rests (P : σ → Prop) (o : Outbound σ κ) : Prop where
  medium : P o.medium
  proper : ∀ seq copy, o.entry? seq = some copy → copy.header.isAck = false

/-- The copies and the transport are all that matters. -/
theorem Rests.congr {o' : Outbound σ κ} (h : o.Rests P) (hmedium : o'.medium = o.medium)
    (hentry : ∀ seq, o'.entry? seq = o.entry? seq) : o'.Rests P where
  medium := hmedium ▸ h.medium
  proper seq copy hcopy := h.proper seq copy ((hentry seq).symm.trans hcopy)

/-- Publishing hands nothing to the transport. -/
theorem Rests.publishFinal (h : o.Rests P) (status : DeliveryStatus) :
    (o.publishFinal status).Rests P := by
  unfold Outbound.publishFinal
  split
  · simp only [Signal.emit_eq_foldl, foldl_hear]
    exact h.congr rfl fun _ => rfl
  · exact h

/-- Forgetting a copy does not either. -/
theorem Rests.erase (h : o.Rests P) (seq : UInt16) : (o.mapEntries (·.erase seq)).Rests P where
  medium := h.medium
  proper other copy hcopy := by
    refine h.proper other copy ?_
    cases hr : o.retry with
    | none => simp [mapEntries, Outbound.entry?, hr] at hcopy
    | some r =>
      simp only [mapEntries, Outbound.entry?, hr, Option.map_some, Option.bind_eq_bind,
        Option.bind_some, Std.ExtTreeMap.getElem?_erase] at hcopy ⊢
      split at hcopy
      · cases hcopy
      · exact hcopy

/-- A copy that is held is of a frame that may be sent again. -/
theorem Rests.insert (h : o.Rests P) (seq : UInt16) {e : RetryEntry} (he : e.header.isAck = false) :
    (o.mapEntries (·.insert seq e)).Rests P where
  medium := h.medium
  proper other copy hcopy := by
    cases hr : o.retry with
    | none => simp [mapEntries, Outbound.entry?, hr] at hcopy
    | some r =>
      simp only [mapEntries, Outbound.entry?, hr, Option.map_some, Option.bind_eq_bind,
        Option.bind_some, Std.ExtTreeMap.getElem?_insert] at hcopy
      split at hcopy
      · rwa [← Option.some.inj hcopy]
      · exact h.proper other copy (by simpa [hr, Outbound.entry?] using hcopy)

variable (hkeeps : c.Keeps P)

include hkeeps

/-- A frame with data is handed over as the transport allows. -/
theorem Rests.sendTracked {header : Header} (h : o.Rests P) (hack : header.isAck = false)
    (clock : Time) (payload : Bytes) : (o.sendTracked c clock header payload).2.Rests P := by
  rw [sendTracked_eq hack]
  exact ⟨hkeeps _ _ _ hack h.medium, h.proper⟩

/-- A frame of which a copy is held is handed over as the transport allows. -/
theorem Rests.sendReliable {header : Header} (h : o.Rests P) (hack : header.isAck = false)
    (payload : Bytes) : (o.sendReliable c clock header payload).2.Rests P := by
  have hsent := (h.insert header.seq (e := ⟨header, payload, o.retries⟩) hack).sendTracked
    hkeeps hack clock payload
  rw [sendReliable_eq hack]
  dsimp only
  split
  · exact hsent
  · exact hsent.erase header.seq

/-- A frame that is sent again is handed over as the transport allows. -/
theorem Rests.retryLate (h : o.Rests P) (status : DeliveryStatus) :
    (o.retryLate c clock status).Rests P := by
  cases he : o.entry? status.seq with
  | none =>
    simp only [Outbound.retryLate, he]
    exact h.publishFinal status
  | some e =>
    have hack := h.proper _ _ he
    by_cases hzero : e.remaining = 0
    · simp only [Outbound.retryLate, he, hzero, if_true]
      exact (h.erase status.seq).publishFinal status
    · have hsent := (h.insert status.seq (e := { e with remaining := e.remaining - 1 })
        hack).sendTracked hkeeps hack clock e.payload
      rw [retryLate_eq he hzero]
      dsimp only
      split
      · exact hsent
      · exact (hsent.erase e.header.seq).publishFinal status

/-- Whatever comes of publishing is handed over as the transport allows. -/
theorem Rests.publish (h : o.Rests P) (status : DeliveryStatus) :
    (o.publish c clock status).Rests P := by
  rw [publish_eq_foldl]
  generalize o.status.handlers = handlers
  induction handlers generalizing o with
  | nil => exact h
  | cons handler handlers ih =>
    refine ih ?_
    cases handler with
    | outside l => exact h.congr rfl fun _ => rfl
    | retryLayer =>
      rw [react, onStatus]
      cases status.outcome with
      | success => exact (h.erase status.seq).publishFinal status
      | timeout => exact h.retryLate hkeeps status

/-- Whatever a scan finds late is handed over as the transport allows. -/
theorem Rests.expireAll (h : o.Rests P) (clock : UInt16 → Time)
    (late : List (UInt16 × InFlight)) :
    (o.expireAll c clock late).Rests P := by
  have hforgets (tracker : Tracker) : ({ o with tracker } : Outbound σ κ).Rests P :=
    h.congr rfl fun _ => rfl
  rw [Outbound.expireAll]
  replace h := hforgets (late.foldl (fun t x => t.erase x.1) o.tracker)
  generalize ({ o with tracker := _ } : Outbound σ κ) = forgetful at h ⊢
  induction late generalizing forgetful with
  | nil => exact h
  | cons x late ih => exact ih _ (h.publish hkeeps _)

end Outbound

end Courier
