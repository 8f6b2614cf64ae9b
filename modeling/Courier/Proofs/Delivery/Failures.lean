import Courier.Engine.Basic
import Courier.Link.Connection
import Courier.Link.Datagram
import Courier.Link.Memory

/-!
# Why sending fails

Who waits for a frame is told of a delivery that failed. Sending itself fails for other reasons:
those of the transports, and on top of them those of the dispatcher.
-/

namespace Courier

/-- Whether a failure, if there is one, is of another kind than a delivery that failed. -/
def Candid {α : Type} (result : Except NetworkError α) : Prop :=
  ∀ error, result = .error error → error.kind ≠ .delivery

/-- A transport never fails to send because a delivery failed. -/
def Carrier.Candid {σ : Type} (c : Carrier σ) : Prop :=
  ∀ header payload s, Courier.Candid (c.send header payload s).1

/-- What succeeds fails for no reason at all. -/
theorem candid_ok {α : Type} (a : α) : Candid (.ok a) := nofun

/-- A failure is honest if it is of another kind. -/
theorem candid_error {α : Type} {error : NetworkError} (herror : error.kind ≠ .delivery) :
    Candid (.error error : Except NetworkError α) := by
  rintro _ ⟨⟩
  exact herror

/-! ## Transports -/

/-- A link within the process fails because an end is closed. -/
theorem MemoryLink.candid_carrier (side : Side) : (MemoryLink.carrier side).Candid := by
  intro header payload l
  change Candid (l.send side header payload).1
  unfold MemoryLink.send
  split
  · exact candid_error nofun
  · split
    · exact candid_ok ()
    · unfold MemoryLink.sendRaw
      split
      · exact candid_ok ()
      · exact candid_error nofun

/-- A datagram end fails because of its payload, its peer or its socket. -/
theorem UdpEnd.candid_send (header : Header) (payload : Bytes) (e : UdpEnd) :
    Candid (e.send header payload).1 := by
  have hdatagram : Candid (e.datagram header payload) := by
    unfold UdpEnd.datagram
    split
    · exact candid_error nofun
    · split
      · exact candid_error nofun
      · exact candid_ok _
  unfold UdpEnd.send
  split
  · next error hrefused => exact candid_error (hdatagram error hrefused)
  · exact candid_error nofun
  · split
    · exact candid_error nofun
    · exact candid_ok _

/-- A stream end fails because of its payload or its connection. -/
theorem TcpEnd.candid_send {ν : Type} (net : StreamNetwork ν) (header : Header) (payload : Bytes)
    (e : TcpEnd) (world : ν) : Candid (e.send net header payload world).1 := by
  unfold TcpEnd.send
  split
  · exact candid_error nofun
  · exact candid_error nofun
  · split
    · exact candid_ok ()
    · exact candid_error nofun

/-! ## Layers over a transport -/

section Layers

variable {σ κ : Type} {c : Carrier σ}

/-- The tracker passes on the failure of the transport below. -/
theorem Outbound.candid_sendTracked (hc : c.Candid) (clock : Time) (header : Header)
    (payload : Bytes) (o : Outbound σ κ) : Candid (o.sendTracked c clock header payload).1 := by
  unfold sendTracked
  split
  · exact hc header payload o.medium
  · dsimp only
    split
    · exact candid_ok ()
    · next error o' hsent =>
      exact candid_error (hc header payload o.medium error (congrArg Prod.fst hsent))

/-- The retry layer passes on the failure of the transport below. -/
theorem Outbound.candid_sendReliable (hc : c.Candid) (clock : Time) (header : Header)
    (payload : Bytes) (o : Outbound σ κ) : Candid (o.sendReliable c clock header payload).1 := by
  unfold sendReliable
  split
  · exact candid_sendTracked hc clock header payload o
  · dsimp only
    split
    · exact candid_ok ()
    · next error o' hsent =>
      have htracked := candid_sendTracked hc clock header payload _ error
        (congrArg Prod.fst hsent)
      exact candid_error htracked

/-- A dispatcher fails as its transport does, or because it may not send. -/
theorem Dispatcher.candid_dispatchWith (hc : c.Candid) (d : Dispatcher) (clock : Time)
    (id seq : UInt16) (payload : Bytes) (o : Outbound σ Unit) :
    Candid (d.dispatchWith (Engine.layers c clock) id seq payload o).1 := by
  unfold dispatchWith
  split
  · exact candid_error nofun
  · next layer _ =>
    unfold sendOn
    split
    · exact candid_error nofun
    · split
      · exact candid_error nofun
      · next header _ =>
        cases layer with
        | raw => exact hc header payload o.medium
        | tracked => exact o.candid_sendTracked hc clock header payload
        | reliable => exact o.candid_sendReliable hc clock header payload

end Layers

end Courier
