import Courier.Delivery.Tracker

/-!
# Callers that wait for a delivery

A caller that waits for the outcome of its frame keeps a slot under the frame's sequence
number from before the frame is sent until it has its answer. An outcome is put into the
slot, so that it is not lost when the caller looks for it later.
-/

namespace Courier

/-- The slots of waiting callers, with the outcomes that have come in. -/
structure Waiters where
  slots : Std.ExtTreeMap UInt16 (Option Outcome) := ∅

namespace Waiters

/-- Makes a slot for a caller. -/
def register (w : Waiters) (seq : UInt16) : Waiters := ⟨w.slots.insert seq none⟩

/-- Gives up a slot. -/
def cancel (w : Waiters) (seq : UInt16) : Waiters := ⟨w.slots.erase seq⟩

/-- Puts an outcome into the slot of its frame, if somebody waits for it. -/
def complete (w : Waiters) (status : DeliveryStatus) : Waiters :=
  if w.slots.contains status.seq then ⟨w.slots.insert status.seq (some status.outcome)⟩ else w

/-- The outcome that has come in for a caller. -/
def outcome? (w : Waiters) (seq : UInt16) : Option Outcome := (w.slots[seq]?).join

/-- A caller looks into its slot. It takes the outcome and the slot away, or waits on. -/
def poll (w : Waiters) (seq : UInt16) : Option Outcome × Waiters :=
  match w.outcome? seq with
  | some outcome => (some outcome, w.cancel seq)
  | none => (none, w)

/-- A caller stops waiting. It takes an outcome that has come in by now. -/
def giveUp (w : Waiters) (seq : UInt16) : Option Outcome × Waiters :=
  (w.outcome? seq, w.cancel seq)

end Waiters

end Courier
