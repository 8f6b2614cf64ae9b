import Courier.Delivery.Dispatcher

/-!
# Layers that are listened to

The outbound layers as they are put together for use on their own: somebody listens to
the tracker, the retry layer listens to it too, and somebody listens to the retry layer.
-/

namespace Courier

/-- Who listens to outbound layers that are used on their own. -/
inductive Listener where
  /-- Hears of everything that the tracker publishes. -/
  | everything
  /-- Hears of final outcomes. -/
  | outcomes
deriving DecidableEq, Repr

namespace Outbound

variable {σ : Type}

/-- Lets somebody listen to the tracker. -/
def listen {κ : Type} (k : κ) (o : Outbound σ κ) : Outbound σ κ :=
  { o with status := (o.status.connect (.outside k)).2 }

/-- Lets somebody listen to the retry layer, if there is one. -/
def listenToRetry {κ : Type} (k : κ) (o : Outbound σ κ) : Outbound σ κ :=
  { o with retry := o.retry.map fun r => { r with status := (r.status.connect k).2 } }

/-- Outbound layers over a medium with a listener on each of the two signals. -/
def recorded (timeout : Duration) (maxRetries : UInt32) (medium : σ) : Outbound σ Listener :=
  let bare : Outbound σ Listener := { tracker := { timeout }, medium }
  ((bare.listen .everything).attachRetry maxRetries).listenToRetry .outcomes

end Outbound

end Courier
