import Courier.Delivery.Outbound
import Mathlib.Logic.Function.Basic

/-!
# One sequence number at a time

Everything that the outbound layers hold, publish and hand to their carrier belongs to some
sequence number. The slice of a number gathers what belongs to it; each operation of the
layers changes the slices of the numbers that it is about and no other.
-/

namespace Courier

/-- A frame that was handed to a carrier, and whether the carrier took it. -/
structure Transmission where
  header : Header
  payload : Bytes
  taken : Bool
deriving DecidableEq, Repr

/-- The state of a carrier, and everything that was handed to it, in order. -/
structure Watched (σ : Type) where
  state : σ
  handed : List Transmission := []

/-- A carrier that is watched: it does what it did, and what it is handed is written down. -/
def Carrier.watched {σ : Type} (c : Carrier σ) : Carrier (Watched σ) where
  kind := c.kind
  isReliable w := c.isReliable w.state
  send header payload w :=
    let (result, state) := c.send header payload w.state
    (result, ⟨state, w.handed ++ [⟨header, payload, result.isOk⟩]⟩)
  receive w :=
    let (result, state) := c.receive w.state
    (result, { w with state })
  stats w := c.stats w.state

/-- What the layers hold and have done under one sequence number. -/
structure Slice where
  /-- The record of the frame in flight. -/
  record : Option InFlight := none
  /-- The copy that may be sent again. -/
  copy : Option RetryEntry := none
  /-- The outcomes that were published. -/
  told : List DeliveryStatus := []
  /-- What was handed to the carrier. -/
  handed : List Transmission := []

namespace Slice

/-- Publishes an outcome. -/
def tell (v : Slice) (status : DeliveryStatus) : Slice := { v with told := v.told ++ [status] }

/-- Hands a frame to the carrier. -/
def hand (v : Slice) (t : Transmission) : Slice := { v with handed := v.handed ++ [t] }

/-- Ends the tracking of a frame with an outcome. -/
def settle (v : Slice) (status : DeliveryStatus) : Slice :=
  { v with record := none, copy := none }.tell status

/-- What becomes of the slice of a frame that is tracked and sent. -/
def sent (clock : Time) (header : Header) (payload : Bytes) (taken : Bool) (v : Slice) :
    Slice :=
  { v.hand ⟨header, payload, taken⟩ with
    record := if taken then some ⟨header.id, clock⟩ else none }

/-- What a late frame comes to, whose record is gone already: without a copy, or with one
that may not be sent again, it is given up; otherwise the copy is sent, and given up if the
carrier does not take it. -/
inductive Late (clock : Time) (status : DeliveryStatus) (v : Slice) : Slice → Prop
  | untracked : v.copy = none → Late clock status v (v.settle status)
  | exhausted {e : RetryEntry} : v.copy = some e → e.remaining = 0 →
      Late clock status v (v.settle status)
  | abandoned {e : RetryEntry} : v.copy = some e → e.remaining ≠ 0 →
      Late clock status v ((v.hand ⟨e.header, e.payload, false⟩).settle status)
  | resent {e : RetryEntry} : v.copy = some e → e.remaining ≠ 0 →
      Late clock status v
        { v.hand ⟨e.header, e.payload, true⟩ with
          record := some ⟨e.header.id, clock⟩
          copy := some { e with remaining := e.remaining - 1 } }

end Slice

/-- The listeners of a signal in the order of their connection. -/
def Signal.handlers {κ : Type} (s : Signal κ) : List κ := s.slots.map (·.handler)

/-- How the layers are put together: how long frames may wait, who is connected to the
signals, and how often the retry layer resends. -/
structure Setup (κ : Type) where
  timeout : Duration
  /-- The listeners of the tracker. -/
  tracker : List (TrackerListener κ)
  /-- The number of retries and the listeners of the retry layer, if there is one. -/
  retry : Option (UInt32 × List κ)

namespace Setup

variable {κ : Type} [DecidableEq κ]

/-- Every final outcome reaches a listener exactly once: from the retry layer if there is
one, which listens to the tracker once, and otherwise from the tracker. -/
def Tells (w : Setup κ) (k : κ) : Prop :=
  match w.retry with
  | some (_, listeners) =>
    w.tracker.count .retryLayer = 1 ∧ .outside k ∉ w.tracker ∧ listeners.count k = 1
  | none => .retryLayer ∉ w.tracker ∧ w.tracker.count (.outside k) = 1

end Setup

namespace Tracker

variable {t : Tracker} {seq other id : UInt16} {clock : Time}

/-- Tracking a frame puts it on record under its number, and touches no other number. -/
theorem getElem?_add (h : id ≠ ackId) : (t.add seq id clock).pending[other]? =
    if seq = other then some ⟨id, clock⟩ else t.pending[other]? := by
  simp [add, h, Std.ExtTreeMap.getElem?_insert, Std.LawfulEqCmp.compare_eq_iff_eq]

/-- What is not tracked any more is not on record, and no other number is touched. -/
theorem getElem?_erase :
    (t.erase seq).pending[other]? = if seq = other then none else t.pending[other]? := by
  simp [erase, Std.ExtTreeMap.getElem?_erase, Std.LawfulEqCmp.compare_eq_iff_eq]

/-- Tracking does not change how long frames may wait. -/
@[simp] theorem timeout_add : (t.add seq id clock).timeout = t.timeout := by
  unfold add
  split <;> rfl

/-- To stop tracking does not change how long frames may wait. -/
@[simp] theorem timeout_erase : (t.erase seq).timeout = t.timeout := rfl

/-- Trackers with the same records and the same patience are the same. -/
theorem ext_getElem? {t' : Tracker} (htimeout : t.timeout = t'.timeout)
    (hpending : ∀ seq : UInt16, t.pending[seq]? = t'.pending[seq]?) : t = t' := by
  have hsame : t.pending = t'.pending := Std.ExtTreeMap.ext_getElem? fun seq => hpending seq
  obtain ⟨timeout, pending⟩ := t
  cases htimeout
  cases hsame
  rfl

/-- Stopping to track what is not tracked changes nothing. -/
theorem erase_of_getElem?_eq_none (h : t.pending[seq]? = none) : t.erase seq = t := by
  refine ext_getElem? timeout_erase fun other => ?_
  rw [getElem?_erase]
  by_cases hs : seq = other
  · rw [if_pos hs, ← hs, h]
  · rw [if_neg hs]

/-- A number is in use if there is a record under it. -/
theorem isPending_eq : t.isPending seq = t.pending[seq]?.isSome := by
  simp [isPending]

/-- A frame is found late if it is on record and has waited longer than it may. -/
theorem mem_overdue {now : Time} {record : InFlight} : (seq, record) ∈ t.overdue now ↔
    t.pending[seq]? = some record ∧ t.isOverdue now record = true := by
  simp [overdue, Std.ExtTreeMap.mem_toList_iff_getElem?_eq_some]

/-- There is one record under each number. -/
theorem nodup_overdue (now : Time) : ((t.overdue now).map (·.1)).Nodup := by
  have hkeys : (t.pending.toList.map (·.1)).Nodup := by
    refine List.pairwise_map.mpr (t.pending.distinct_keys_toList.imp ?_)
    intro a b h
    simpa [Std.LawfulEqCmp.compare_eq_iff_eq] using h
  exact hkeys.sublist (List.filter_sublist.map _)

end Tracker

namespace Outbound

open Function (update update_self update_of_ne)

variable {σ κ : Type}

/-- How the layers are put together. -/
def setup (o : Outbound σ κ) : Setup κ :=
  ⟨o.tracker.timeout, o.status.handlers, o.retry.map fun r => (r.maxRetries, r.status.handlers)⟩

variable [DecidableEq κ]

/-- What belongs to each sequence number, as far as a listener has heard. -/
def slices (k : κ) (o : Outbound (Watched σ) κ) (seq : UInt16) : Slice where
  record := o.tracker.pending[seq]?
  copy := o.entry? seq
  told := (o.heardBy k).filter (·.seq = seq)
  handed := o.medium.handed.filter (·.header.seq = seq)

end Outbound

end Courier
