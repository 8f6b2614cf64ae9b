import Courier.Duration
import Courier.Task.Priority
import Courier.Text.Quoted

/-!
# Delegates

A delegate is a target bound to the thread on which it is called. Two delegates are equal
when they call the same target on the same thread, however urgently.
-/

namespace Courier

/-- A target and the thread on which it is called. -/
structure Binding (κ τ : Type) where
  target : Option τ := none
  thread : Option κ := none
deriving DecidableEq, Repr

namespace Binding

variable {κ τ : Type}

/-- A target on a thread. -/
def of (thread : κ) (target : τ) : Binding κ τ := ⟨some target, some thread⟩

/-- What to call and where, unless something is missing. -/
def bound? (b : Binding κ τ) : Option (κ × τ) :=
  match b.thread, b.target with
  | some thread, some target => some (thread, target)
  | _, _ => none

/-- Whether there is nothing to call. -/
def isEmpty (b : Binding κ τ) : Bool := b.target.isNone || b.thread.isNone

/-- The text that describes the thread of a binding. -/
def threadText (name : κ → String) (b : Binding κ τ) : String :=
  match b.thread with
  | some thread => s!"Some({Text.quoted (name thread)})"
  | none => "None"

end Binding

/-- A call that nobody waits for. -/
structure Delegate (κ τ : Type) where
  binding : Binding κ τ := {}
  priority : Priority := .normal
deriving DecidableEq, Repr

namespace Delegate

variable {κ τ : Type}

/-- Whether two delegates make the same call. -/
def same [DecidableEq κ] [DecidableEq τ] (a b : Delegate κ τ) : Bool := a.binding = b.binding

/-- Unbinds a delegate. -/
def clear (d : Delegate κ τ) : Delegate κ τ := { d with binding := {} }

/-- The text that describes a delegate. -/
def describe (name : κ → String) (d : Delegate κ τ) : String :=
  s!"Delegate \x7b thread: {d.binding.threadText name}, bound: {d.binding.target.isSome}, " ++
    s!"priority: {d.priority.name} \x7d"

end Delegate

/-- A call whose caller waits for the result. -/
structure WaitDelegate (κ τ : Type) where
  binding : Binding κ τ := {}
  priority : Priority := .normal
  timeout : Duration := .ofMillis 2000
deriving DecidableEq, Repr

namespace WaitDelegate

variable {κ τ : Type}

/-- Whether two delegates make the same call. -/
def same [DecidableEq κ] [DecidableEq τ] (a b : WaitDelegate κ τ) : Bool := a.binding = b.binding

/-- The text that describes a delegate. -/
def describe (name : κ → String) (d : WaitDelegate κ τ) : String :=
  s!"WaitDelegate \x7b thread: {d.binding.threadText name}, bound: {d.binding.target.isSome}, " ++
    s!"timeout: {d.timeout.describe} \x7d"

end WaitDelegate

end Courier
