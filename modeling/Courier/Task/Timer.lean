import Courier.Duration

/-!
# Timers of a thread

Timers do not run by themselves: the thread they belong to asks which are due. A timer
keeps to its grid of deadlines as long as it is asked at least once in every period; one
that missed a whole period starts a new grid, so that missed deadlines are skipped.
-/

namespace Courier

/-- A periodic timer. -/
structure Timer (τ : Type) where
  id : Nat
  period : Duration
  nextDue : Time
  /-- What is called when the timer is due. -/
  callback : τ
deriving DecidableEq, Repr

namespace Timer

variable {τ : Type}

/-- Whether a timer is due at a clock reading. -/
def isDue (t : Timer τ) (now : Time) : Bool := t.nextDue ≤ now

/-- The timer with its deadline after it was due at a clock reading. -/
def rearm (t : Timer τ) (now : Time) : Timer τ :=
  let next := t.nextDue + t.period.nanos
  { t with nextDue := if next ≤ now then now + t.period.nanos else next }

end Timer

/-- The timers of a thread in the order of their registration. -/
structure TimerSet (τ : Type) where
  entries : List (Timer τ) := []
  nextId : Nat := 0
deriving DecidableEq, Repr

namespace TimerSet

variable {τ : Type}

/-- Registers a timer, due one period from now, and gives its number. -/
def insert (s : TimerSet τ) (now : Time) (period : Duration) (callback : τ) : Nat × TimerSet τ :=
  (s.nextId,
    { entries := s.entries ++ [⟨s.nextId, period, now + period.nanos, callback⟩]
      nextId := s.nextId + 1 })

/-- Whether a timer is registered. -/
def contains (s : TimerSet τ) (id : Nat) : Bool := s.entries.any (·.id == id)

/-- Removes a timer and says whether it was registered. -/
def remove (s : TimerSet τ) (id : Nat) : Bool × TimerSet τ :=
  (s.contains id, { s with entries := s.entries.filter (·.id ≠ id) })

/-- The earliest deadline. -/
def nextDeadline (s : TimerSet τ) : Option Time := (s.entries.map (·.nextDue)).min?

/-- The timers that are due at a clock reading, and the set with their next deadlines. -/
def takeDue (s : TimerSet τ) (now : Time) : List (Timer τ) × TimerSet τ :=
  (s.entries.filter (·.isDue now),
    { s with entries := s.entries.map fun t => if t.isDue now then t.rearm now else t })

/-- Removes all timers. -/
def clear (s : TimerSet τ) : TimerSet τ := { s with entries := [] }

/-- The number of timers. -/
def size (s : TimerSet τ) : Nat := s.entries.length

/-- The text that describes a timer's handle. -/
def describe (s : TimerSet τ) (id : Nat) : String :=
  s!"TimerHandle \x7b id: {id}, active: {s.contains id} \x7d"

end TimerSet

end Courier
