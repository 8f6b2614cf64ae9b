import Courier.Error
import Courier.Link.Stats
import Courier.Task.Queue
import Courier.Wire.Frame

/-!
# Answers of scripted steps

A script works a part of the library step by step. What a step answers is one of the
values below, or several of them under names.
-/

namespace Courier.Script

/-- What a step answers. -/
inductive Answer where
  | nothing
  | done
  | failed (error : NetworkError)
  | refused (error : TaskError)
  | flag (b : Bool)
  | number (n : Int)
  | text (s : String)
  | bytes (b : Bytes)
  | frame (f : Frame)
  | frames (fs : List Frame)
  | stats (s : TransportStats)
  | list (items : List Answer)
  | fields (parts : List (String × Answer))
  /-- A value that was handed in and given back as it was, in its encoded form. -/
  | value (encoded : String)

namespace Answer

/-- The answer of a step that may fail. -/
def attempt {α : Type} (answer : α → Answer) : Except NetworkError α → Answer
  | .ok a => answer a
  | .error e => failed e

/-- The answer of a step on another thread, which may not be carried out. -/
def onThread {α : Type} (answer : α → Answer) : Except TaskError α → Answer
  | .ok a => answer a
  | .error e => refused e

/-- The answer of a step that may find nothing. -/
def option {α : Type} (answer : α → Answer) : Option α → Answer
  | some a => answer a
  | none => nothing

/-- The answer of a post; a producer may have to wait for room. -/
def offered : Offer → Answer
  | .accepted => done
  | .refused e => refused e
  | .full => text "blocked"

/-- The answer of a send. -/
def sent : Except NetworkError Unit → Answer := attempt fun _ => done

/-- The answer of a numbered send. -/
def numbered : Except NetworkError UInt16 → Answer := attempt fun seq => number seq.toNat

/-- The answer of a receive. -/
def received : Except NetworkError (Option Frame) → Answer := attempt (option frame)

end Answer

end Courier.Script
