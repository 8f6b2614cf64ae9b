/-!
# Sequence numbers

A sender numbers its frames with 16-bit words that start anew at 0 after 65535.
-/

namespace Courier

/-- A counter of sequence numbers, holding the one it gives out next. -/
structure Sequence where
  upcoming : UInt16 := 0
deriving DecidableEq, Repr

namespace Sequence

/-- Gives out a number; the one after 65535 is 0. -/
def draw (s : Sequence) : UInt16 × Sequence := (s.upcoming, ⟨s.upcoming + 1⟩)

/-- Draws `n` times in a row and keeps the last number given out, which is `last` when
nothing is drawn. -/
def drawMany (last : Option UInt16) : Nat → Sequence → Option UInt16 × Sequence
  | 0, s => (last, s)
  | n + 1, s => drawMany (some s.draw.1) n s.draw.2

end Sequence

end Courier
