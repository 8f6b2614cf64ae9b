/-!
# Signals

A signal calls every slot that is connected to it. Emitting works on the slots that were
connected when it began: slots may connect and disconnect each other while they are
called, which concerns later emissions only.
-/

namespace Courier

/-- A connected slot and the number of its connection. -/
structure Slot (κ : Type) where
  id : Nat
  handler : κ
deriving DecidableEq, Repr

/-- The slots of a signal in the order of their connection. -/
structure Signal (κ : Type) where
  slots : List (Slot κ) := []
  /-- The number of the next connection. -/
  nextId : Nat := 1
deriving Repr

namespace Signal

variable {κ : Type}

/-- Connects a slot and gives the number of the connection. -/
def connect (s : Signal κ) (handler : κ) : Nat × Signal κ :=
  (s.nextId, { slots := s.slots ++ [⟨s.nextId, handler⟩], nextId := s.nextId + 1 })

/-- Whether a connection still has its slot. -/
def isConnected (s : Signal κ) (id : Nat) : Bool := s.slots.any (·.id == id)

/-- Removes the slot of a connection and says whether it was there. -/
def disconnect (s : Signal κ) (id : Nat) : Bool × Signal κ :=
  (s.isConnected id, { s with slots := s.slots.filter (·.id ≠ id) })

/-- Removes all slots. -/
def disconnectAll (s : Signal κ) : Signal κ := { s with slots := [] }

/-- The number of slots. -/
def size (s : Signal κ) : Nat := s.slots.length

/-- Calls the slots of a snapshot one after the other; each call may change the state
`σ`, of which the signal itself may be a part. -/
def callAll {α σ : Type} (call : κ → α → σ → σ) (value : α) (snapshot : List (Slot κ)) (state : σ) :
    σ :=
  snapshot.foldl (fun state slot => call slot.handler value state) state

/-- Emits a value to the slots that are connected now. -/
def emit {α σ : Type} (call : κ → α → σ → σ) (value : α) (s : Signal κ) (state : σ) : σ :=
  callAll call value s.slots state

/-- The text that describes a signal. -/
def describe (s : Signal κ) : String := s!"Signal \x7b slots: {s.size} \x7d"

end Signal

end Courier
