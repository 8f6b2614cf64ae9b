import Courier.Bytes
import Courier.Duration
import Courier.Wire.Header
import Std.Data.ExtTreeMap

/-!
# Frames in flight

Every frame that is sent is tracked by its sequence number until it is acknowledged or
has waited too long. Both are published, and whoever hears of it may use the tracker at
once: records are gone before anything is published.
-/

namespace Courier

/-- How the tracking of a frame ended. -/
inductive Outcome where
  | success | timeout
deriving DecidableEq, Repr

/-- The end of a frame's tracking. -/
structure DeliveryStatus where
  endpoint : UInt16
  seq : UInt16
  outcome : Outcome
deriving DecidableEq, Repr

/-- A frame in flight. -/
structure InFlight where
  endpoint : UInt16
  sentAt : Time
deriving DecidableEq, Repr

/-- The frames in flight by sequence number, and how long they may wait. -/
structure Tracker where
  timeout : Duration
  pending : Std.ExtTreeMap UInt16 InFlight := ∅

namespace Tracker

/-- Tracks a frame sent at a time. Acknowledgments are never tracked, and a number that is
in use starts anew. -/
def add (t : Tracker) (seq endpoint : UInt16) (sentAt : Time) : Tracker :=
  if endpoint = ackId then t else { t with pending := t.pending.insert seq ⟨endpoint, sentAt⟩ }

/-- Whether a number is in use. -/
def isPending (t : Tracker) (seq : UInt16) : Bool := t.pending.contains seq

/-- Removes a record. -/
def erase (t : Tracker) (seq : UInt16) : Tracker := { t with pending := t.pending.erase seq }

/-- Stops tracking without a notice and says whether there was a record. -/
def cancel (t : Tracker) (seq : UInt16) : Bool × Tracker := (t.isPending seq, t.erase seq)

/-- Whether a frame has waited longer than allowed at a clock reading. A frame from the
future has not waited at all. -/
def isOverdue (t : Tracker) (now : Time) (record : InFlight) : Bool :=
  t.timeout.nanos < now - record.sentAt

/-- The overdue frames at a clock reading, by sequence number. -/
def overdue (t : Tracker) (now : Time) : List (UInt16 × InFlight) :=
  t.pending.toList.filter fun (_, record) => t.isOverdue now record

/-- Removes the overdue frames and gives what is to be published about them. -/
def expire (t : Tracker) (now : Time) : List DeliveryStatus × Tracker :=
  let late := t.overdue now
  (late.map fun (seq, record) => ⟨record.endpoint, seq, .timeout⟩,
    late.foldl (fun t (seq, _) => t.erase seq) t)

/-- Removes an acknowledged frame and gives what is to be published about it. -/
def settle (t : Tracker) (seq : UInt16) : Option DeliveryStatus × Tracker :=
  match t.pending[seq]? with
  | some record => (some ⟨record.endpoint, seq, .success⟩, t.erase seq)
  | none => (none, t)

end Tracker

/-- A larger state of which a tracker is a part, and what publishing does to it. -/
structure TrackerHost (σ : Type) where
  get : σ → Tracker
  set : σ → Tracker → σ
  publish : DeliveryStatus → σ → σ

namespace TrackerHost

variable {σ : Type}

/-- Handles an acknowledgment and says whether it was for a frame in flight. -/
def acknowledge (h : TrackerHost σ) (seq : UInt16) (s : σ) : Bool × σ :=
  match (h.get s).settle seq with
  | (some status, t) => (true, h.publish status (h.set s t))
  | (none, _) => (false, s)

/-- Ends the tracking of overdue frames and counts them. What is tracked while this is
published is not looked at. -/
def scan (h : TrackerHost σ) (now : Time) (s : σ) : Nat × σ :=
  let (statuses, t) := (h.get s).expire now
  (statuses.length, statuses.foldl (fun s status => h.publish status s) (h.set s t))

end TrackerHost

end Courier
