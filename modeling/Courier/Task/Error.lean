/-!
# Failures of cross-thread calls

The reasons why work for another thread was not accepted or did not return, with the
text of each and whether trying again later may help.
-/

namespace Courier

/-- Why work for another thread was not accepted, or did not return. -/
inductive TaskError where
  /-- The thread's queue holds as many tasks as it may. -/
  | queueFull (thread : String) (depth : Nat)
  /-- There was no memory for one more entry. -/
  | allocation (context : String)
  /-- The thread has closed its queue. -/
  | threadStopped (thread : String)
  /-- The delegate is bound to nothing. -/
  | emptyTarget
  /-- The caller stopped waiting for the result. -/
  | timeout (operation : String) (limitMillis : Nat)
  /-- The work ran and panicked. -/
  | panicked (thread : String)
  /-- The thread could not be started. -/
  | spawn (thread source : String)
deriving DecidableEq, Repr

namespace TaskError

/-- The text that reports the failure. -/
def message : TaskError → String
  | queueFull thread depth => s!"Queue full: {thread} is at its maximum depth of {depth} tasks"
  | allocation context => s!"Allocation failed: {context}"
  | threadStopped thread => s!"Thread stopped: {thread} no longer accepts tasks"
  | emptyTarget => "Delegate has no target"
  | timeout operation limit => s!"Timeout error: {operation} exceeded {limit}ms"
  | panicked thread => s!"Task panicked on thread {thread}"
  | spawn thread source => s!"Failed to spawn thread {thread}: {source}"

/-- A full queue and an elapsed wait may be gone at the next attempt. -/
def isTransient : TaskError → Bool
  | queueFull .. | timeout .. => true
  | _ => false

end TaskError

end Courier
