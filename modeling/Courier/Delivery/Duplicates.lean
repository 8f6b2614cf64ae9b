import Courier.Fifo
import Std.Data.HashSet

/-!
# Recognising repeated frames

Resent frames keep their sequence number. A receiver that remembers the frames it has
accepted last can tell repetitions, as long as a number does not come into use again
while it is still remembered.
-/

namespace Courier

/-- What tells one received frame from another. -/
structure FrameKey where
  endpoint : UInt16
  seq : UInt16
deriving DecidableEq, Repr, Hashable

/-- A memory for the last accepted frames. -/
structure DuplicateFilter where
  /-- How many frames are remembered; 0 if all frames are accepted. -/
  capacity : Nat
  /-- The remembered frames in the order of their acceptance. -/
  window : Fifo FrameKey := .empty
  /-- The remembered frames for looking up. -/
  seen : Std.HashSet FrameKey := {}
  /-- How many repetitions were rejected. -/
  suppressed : Nat := 0

namespace DuplicateFilter

/-- A memory for a number of frames. -/
def new (capacity : Nat) : DuplicateFilter := { capacity }

/-- Whether frames are filtered at all. -/
def isEnabled (f : DuplicateFilter) : Bool := 0 < f.capacity

/-- Whether a frame is remembered. -/
def isRecent (f : DuplicateFilter) (key : FrameKey) : Bool := f.seen.contains key

/-- Remembers a frame and forgets the oldest one if there is no place for both. -/
def remember (f : DuplicateFilter) (key : FrameKey) : DuplicateFilter :=
  let window := f.window.push key
  let seen := f.seen.insert key
  if f.capacity < window.size then
    match window.pop? with
    | some (oldest, window) => { f with window, seen := seen.erase oldest }
    | none => { f with window, seen }
  else { f with window, seen }

/-- Accepts a frame that is not remembered and remembers it; counts the others. -/
def check (f : DuplicateFilter) (key : FrameKey) : Bool × DuplicateFilter :=
  if f.capacity = 0 then (true, f)
  else if f.isRecent key then (false, { f with suppressed := f.suppressed + 1 })
  else (true, f.remember key)

/-- Forgets all frames; the count of rejections stays. -/
def clear (f : DuplicateFilter) : DuplicateFilter := { f with window := .empty, seen := {} }

/-- Checks several frames in turn and counts those that were accepted. -/
def checkAll (f : DuplicateFilter) (keys : List FrameKey) : Nat × DuplicateFilter :=
  keys.foldl (fun (accepted, f) key =>
    match f.check key with
    | (true, f) => (accepted + 1, f)
    | (false, f) => (accepted, f)) (0, f)

end DuplicateFilter

end Courier
