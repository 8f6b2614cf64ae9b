import Courier.Delivery.Tracker
import Courier.Script.Answer

/-!
# A tracker step by step

A tracker is used on its own. Somebody may listen to it, and somebody else may put every
late frame back on track at once.
-/

namespace Courier.TrackerWatch

open Script (Answer)

/-- A tracker, when late frames are said to be sent again, whether somebody listens, and
what was heard. -/
structure Watch where
  tracker : Tracker
  sentAgainAt : Option Time := none
  listening : Bool := true
  heard : List DeliveryStatus := []

/-- Publishes to the listener and puts a late frame back on track. -/
def publish (status : DeliveryStatus) (w : Watch) : Watch :=
  let w := if w.listening then { w with heard := w.heard ++ [status] } else w
  match status.outcome, w.sentAgainAt with
  | .timeout, some time => { w with tracker := w.tracker.add status.seq status.endpoint time }
  | _, _ => w

/-- The tracker as a part of the whole. -/
def host : TrackerHost Watch := ⟨Watch.tracker, fun w tracker => { w with tracker }, publish⟩

/-- A step at the tracker. -/
inductive Step where
  | add (seq endpoint : UInt16) (sentAt : Time)
  | acknowledge (seq : UInt16)
  | cancel (seq : UInt16)
  | scan (now : Time)
  | isPending (seq : UInt16)
  | unsubscribe
deriving DecidableEq, Repr

/-- Takes a step. -/
def Watch.step (w : Watch) : Step → Answer × Watch
  | .add seq endpoint sentAt =>
    (.nothing, { w with tracker := w.tracker.add seq endpoint sentAt })
  | .acknowledge seq => let (known, w) := host.acknowledge seq w; (.flag known, w)
  | .cancel seq =>
    let (found, tracker) := w.tracker.cancel seq
    (.flag found, { w with tracker })
  | .scan now => let (n, w) := host.scan now w; (.number n, w)
  | .isPending seq => (.flag (w.tracker.isPending seq), w)
  | .unsubscribe => (.flag w.listening, { w with listening := false })

/-- What is seen after a step. -/
structure View where
  answer : Answer
  heard : List DeliveryStatus
  inFlight : Nat

/-- Takes steps in order and looks at the tracker after each of them. -/
def run : Watch → List Step → List View
  | _, [] => []
  | w, step :: rest =>
    let (answer, w) := { w with heard := [] }.step step
    ⟨answer, w.heard, w.tracker.pending.size⟩ :: run w rest

end Courier.TrackerWatch
