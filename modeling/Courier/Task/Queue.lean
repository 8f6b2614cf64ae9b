import Courier.Task.Error
import Courier.Task.Policy
import Courier.Task.Priority

/-!
# Task queues

A queue feeds one consumer. It gives out the most urgent entry first and, among equally
urgent ones, the one that came first. Closing a queue leaves a mark in it at which the
consumer goes home: behind all tasks to drain it, before all tasks to discard them.
-/

namespace Courier

/-- A task as a queue holds it: what is to be done, and how urgently. -/
structure Task (α : Type) where
  priority : Priority := .normal
  work : α
deriving DecidableEq, Repr

/-- What stands in a queue: a task, or the mark at which the consumer leaves. -/
structure Entry (α : Type) where
  rank : Nat
  /-- Its place in the order of arrival. -/
  ticket : Nat
  task : Option (Task α)
deriving DecidableEq, Repr

namespace Entry

variable {α : Type}

/-- Whether an entry goes before another one: a higher rank does, and among equal ranks
the earlier ticket. -/
def goesBefore (a b : Entry α) : Bool :=
  b.rank < a.rank || (a.rank == b.rank && a.ticket < b.ticket)

/-- The entry of a nonempty list that goes before all others. -/
def foremost (first : Entry α) : List (Entry α) → Entry α
  | [] => first
  | e :: rest => foremost (if e.goesBefore first then e else first) rest

end Entry

/-- A queue of tasks for one consumer. -/
structure TaskQueue (α : Type) where
  /-- The name under which failures report it. -/
  name : String
  config : QueueConfig := {}
  entries : List (Entry α) := []
  nextTicket : Nat := 0
  /-- The number of tasks, counted along with what happens to them; the mark of a closed queue
  does not count. -/
  depth : Nat := 0
  /-- Whether tasks are still accepted. -/
  accepting : Bool := true
deriving Repr

/-- What pushing a task came to. -/
inductive Offer where
  | accepted
  | refused (error : TaskError)
  /-- The producer has to wait for room. -/
  | full
deriving DecidableEq, Repr

/-- What a consumer finds. -/
inductive Found (α : Type) where
  | task (t : Task α)
  /-- The mark of a closed queue. -/
  | exit
  /-- Nothing. -/
  | idle
deriving DecidableEq, Repr

namespace TaskQueue

variable {α : Type}

/-- The most tasks the queue holds; 0 for any number. -/
def maxDepth (q : TaskQueue α) : Nat := q.config.maxDepth.toNat

/-- The tasks in the queue. -/
def tasks (q : TaskQueue α) : List (Task α) := q.entries.filterMap (·.task)

/-- Whether there is room for one more task. -/
def hasRoom (q : TaskQueue α) : Bool := q.maxDepth = 0 || q.depth < q.maxDepth

/-- Appends an entry with the next ticket. -/
def insert (q : TaskQueue α) (rank : Nat) (task : Option (Task α)) : TaskQueue α :=
  { q with entries := q.entries ++ [⟨rank, q.nextTicket, task⟩], nextTicket := q.nextTicket + 1 }

/-- Tries to push a task. A closed queue refuses it, and a full one refuses it or asks the
producer to wait. -/
def offer (q : TaskQueue α) (t : Task α) (policy : FullPolicy) : Offer × TaskQueue α :=
  if !q.accepting then (.refused (.threadStopped q.name), q)
  else if q.hasRoom then
    (.accepted, { q.insert t.priority.rank (some t) with depth := q.depth + 1 })
  else
    match policy with
    | .fail => (.refused (.queueFull q.name q.maxDepth), q)
    | .block => (.full, q)

/-- The rank of the mark at which the consumer leaves. -/
def exitRank : ShutdownMode → Nat
  | .drain => 0
  | .discard => 255

/-- Closes the queue, unless it was closed before, and says whether it did. -/
def close (q : TaskQueue α) (mode : ShutdownMode) : Bool × TaskQueue α :=
  if q.accepting then (true, { q.insert (exitRank mode) none with accepting := false })
  else (false, q)

/-- Removes the entry with a ticket. -/
def without (q : TaskQueue α) (ticket : Nat) : TaskQueue α :=
  { q with entries := q.entries.filter (·.ticket ≠ ticket) }

/-- Takes the foremost entry, if there is one. -/
def pop (q : TaskQueue α) : Found α × TaskQueue α :=
  match q.entries with
  | [] => (.idle, q)
  | first :: rest =>
    let best := Entry.foremost first rest
    match best.task with
    | some t => (.task t, { q.without best.ticket with depth := q.depth - 1 })
    | none => (.exit, q.without best.ticket)

/-- Removes everything, the mark of a closed queue included, and gives the tasks that
were dropped. -/
def clear (q : TaskQueue α) : List (Task α) × TaskQueue α :=
  (q.tasks, { q with entries := [], depth := 0 })

end TaskQueue

end Courier
