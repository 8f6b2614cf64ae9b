/-!
# Policies of a thread's queue

What a producer does at a full queue, and what becomes of the tasks that are queued when
the queue is closed.
-/

namespace Courier

/-- What pushing onto a full queue does. -/
inductive FullPolicy where
  /-- The producer waits for room. -/
  | block
  /-- The task is refused. -/
  | fail
deriving DecidableEq, Repr, Inhabited

namespace FullPolicy

/-- All policies. -/
def all : List FullPolicy := [block, fail]

/-- The name of a policy. -/
def name : FullPolicy → String
  | block => "Block"
  | fail => "Fail"

end FullPolicy

/-- What closing a queue does with the tasks in it. -/
inductive ShutdownMode where
  /-- They still run. -/
  | drain
  /-- They are dropped. -/
  | discard
deriving DecidableEq, Repr, Inhabited

namespace ShutdownMode

/-- All modes. -/
def all : List ShutdownMode := [drain, discard]

/-- The name of a mode. -/
def name : ShutdownMode → String
  | drain => "Drain"
  | discard => "Discard"

end ShutdownMode

/-- The settings of a queue. -/
structure QueueConfig where
  /-- The most tasks the queue holds; 0 for any number. -/
  maxDepth : UInt64 := 0
  fullPolicy : FullPolicy := .block
deriving DecidableEq, Repr, Inhabited

end Courier
