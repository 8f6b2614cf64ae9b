import Courier.Duration
import Courier.Task.Error

/-!
# Calls that wait for their result

A call runs a piece of work on a thread while the caller waits. On the caller's own
thread it runs at once; on another one it is a task whose end the caller hears of.
-/

namespace Courier

/-- What has become of the work of a call. -/
inductive Fate (β : Type) where
  /-- It has not run to its end. -/
  | queued
  | returned (value : β)
  | panicked
  /-- It was dropped and will not run. -/
  | dropped
deriving DecidableEq, Repr

/-- How a piece of work ends: with a value, or with a panic. -/
abbrev Ending (β : Type) := Option β

/-- The fate of work that has ended. -/
def Fate.ofEnding {β : Type} : Ending β → Fate β
  | some value => returned value
  | none => panicked

namespace Call

variable {β : Type}

/-- The name under which a call on a thread reports that it took too long. -/
def operation (thread : String) : String := s!"call on {thread}"

/-- What a caller is told when it stops waiting. -/
def answer (thread : String) (timeout : Duration) : Fate β → Except TaskError β
  | .queued => .error (.timeout (operation thread) timeout.millis64.toNat)
  | .returned value => .ok value
  | .panicked => .error (.panicked thread)
  | .dropped => .error (.threadStopped thread)

/-- What a caller is told whose work runs on its own thread. -/
def inline (thread : String) (ending : Ending β) : Except TaskError β :=
  match ending with
  | some value => .ok value
  | none => .error (.panicked thread)

end Call

end Courier
