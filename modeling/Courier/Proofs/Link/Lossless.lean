import Courier.Link.Memory
import Courier.Proofs.Wire.Reassembly

/-!
# Links that lose nothing

A link within the process whose ends are both there, and are not told to lose anything, is a pair
of queues: what one end sends arrives at the other end, in order, and is what was sent.
-/

namespace Courier

/-- The bytes in which a frame travels. -/
def Frame.bytes (f : Frame) : Bytes := f.header.encode ++ f.payload

/-- A frame that is read as it was written. -/
structure Frame.Whole (f : Frame) : Prop where
  marker : f.header.marker = frameMarker
  length : f.payload.length = f.header.length.toNat

namespace Frame

variable {f : Frame}

/-- A whole frame has its bytes. -/
theorem Whole.encode_eq (h : f.Whole) : Frame.encode f.header f.payload = .ok f.bytes := by
  have hlt := f.header.length.toNat_lt
  have hfits : ¬ maxPayload < f.payload.length := by
    rw [h.length, maxPayload]
    omega
  have hlength : ¬ f.header.length.toNat ≠ f.payload.length := fun hne => hne h.length.symm
  rw [Frame.encode, if_neg hfits, if_neg hlength]
  rfl

/-- The bytes of a whole frame are read back as that frame. -/
theorem Whole.ofBuffer_eq (h : f.Whole) : Frame.ofBuffer f.bytes = .ok f :=
  Frame.ofBuffer_encode_append h.marker h.length

end Frame

namespace MemoryLink

variable {l : MemoryLink} {side : Side} {f : Frame}

/-- An end is as it was changed. -/
@[simp] theorem endOn_update_self (l : MemoryLink) (side : Side) (g : MemoryEnd → MemoryEnd) :
    (l.update side g).endOn side = g (l.endOn side) := by
  cases side <;> rfl

/-- Changing one end leaves the other one as it is. -/
@[simp] theorem endOn_update_opposite (l : MemoryLink) (side : Side) (g : MemoryEnd → MemoryEnd) :
    (l.update side g).endOn side.opposite = l.endOn side.opposite := by
  cases side <;> rfl

/-- An end is not changed with the other one. -/
@[simp] theorem endOn_opposite_update (l : MemoryLink) (side : Side) (g : MemoryEnd → MemoryEnd) :
    (l.update side.opposite g).endOn side = l.endOn side := by
  cases side <;> rfl

/-- The messages that have arrived at an end, the oldest first. -/
def arrived (l : MemoryLink) (side : Side) : List Bytes := (l.endOn side).inbox.toList

/-- An end that is there and loses nothing that it sends. -/
structure MemoryEnd.Reliable (e : MemoryEnd) : Prop where
  isOpen : e.isOpen = true
  dropNext : e.dropNext = 0
  dropAll : e.dropAll = false

/-- A link that loses nothing. -/
def Lossless (l : MemoryLink) : Prop := ∀ side, MemoryEnd.Reliable (l.endOn side)

/-- A new link loses nothing, unless it is told to. -/
theorem lossless_new (reliable : Bool) : ({ reliable } : MemoryLink).Lossless := by
  intro side
  cases side <;> exact ⟨rfl, rfl, rfl⟩

/-- A link loses nothing if neither of its ends does. -/
theorem Lossless.of_ends (side : Side) (hself : MemoryEnd.Reliable (l.endOn side))
    (hopposite : MemoryEnd.Reliable (l.endOn side.opposite)) : l.Lossless := by
  intro other
  cases side <;> cases other <;> assumption

/-- A frame that is sent arrives at the other end, behind what has arrived there. -/
theorem Lossless.send (h : l.Lossless) (side : Side) (hf : f.Whole) :
    ∃ l' : MemoryLink, l.send side f.header f.payload = (.ok (), l') ∧ l'.Lossless ∧
      l'.arrived side.opposite = l.arrived side.opposite ++ [f.bytes] ∧
        l'.arrived side = l.arrived side := by
  have hself := h side
  have hopposite := h side.opposite
  have hkept : MemoryEnd.lose (l.endOn side) = (false, l.endOn side) := by
    simp [MemoryEnd.lose, hself.dropAll, hself.dropNext]
  simp only [MemoryLink.send, hf.encode_eq, hkept, sendRaw, hopposite.isOpen, if_true]
  refine ⟨_, rfl, ?_, ?_, ?_⟩
  · refine .of_ends side ?_ ?_
    · rw [endOn_update_self, endOn_opposite_update]
      exact ⟨hself.isOpen, hself.dropNext, hself.dropAll⟩
    · rw [endOn_update_opposite, endOn_update_self]
      exact ⟨hopposite.isOpen, hopposite.dropNext, hopposite.dropAll⟩
  · rw [arrived, endOn_update_opposite, endOn_update_self]
    exact Fifo.toList_push _ _
  · rw [arrived, endOn_update_self, endOn_opposite_update]
    rfl

/-- What has arrived first is received first. -/
theorem Lossless.receive {rest : List Bytes} (h : l.Lossless) (hf : f.Whole)
    (harrived : l.arrived side = f.bytes :: rest) :
    ∃ l' : MemoryLink, l.receive side = (.ok (some f), l') ∧ l'.Lossless ∧
      l'.arrived side = rest ∧ l'.arrived side.opposite = l.arrived side.opposite := by
  have hself := h side
  cases hpop : (l.endOn side).inbox.pop? with
  | none =>
    have hnone := Fifo.pop?_eq_none_iff.mp hpop
    rw [arrived, hnone] at harrived
    cases harrived
  | some popped =>
    obtain ⟨message, inbox⟩ := popped
    obtain ⟨rfl, hrest⟩ := List.cons.inj ((Fifo.toList_of_pop? hpop).symm.trans harrived)
    simp only [MemoryLink.receive, hpop, hf.ofBuffer_eq]
    refine ⟨_, rfl, ?_, ?_, ?_⟩
    · refine .of_ends side ?_ ?_
      · rw [endOn_update_self]
        exact ⟨hself.isOpen, hself.dropNext, hself.dropAll⟩
      · rw [endOn_update_opposite]
        exact h side.opposite
    · rw [arrived, endOn_update_self]
      exact hrest
    · rw [arrived, endOn_update_opposite]
      rfl

/-- Where nothing has arrived, nothing is received. -/
theorem Lossless.receive_of_nil (h : l.Lossless) (harrived : l.arrived side = []) :
    l.receive side = (.ok none, l) := by
  have hnone := Fifo.pop?_eq_none_iff.mpr harrived
  have hopen := (h side.opposite).isOpen
  simp only [MemoryLink.receive, hnone, hopen, if_true]

end MemoryLink

end Courier
