import Courier.Task.Queue

/-!
# Producers at a full queue

A producer that finds a queue full may wait. Taking a task tells one waiting producer to
try again, and closing or clearing the queue tells all of them; until a producer has
tried again others may come before it.
-/

namespace Courier

/-- A producer that waits for room, by number, with the task it brings. -/
structure Producer (α : Type) where
  number : Nat
  task : Task α
deriving DecidableEq, Repr

/-- A queue and the producers at its door. -/
structure Room (α : Type) where
  queue : TaskQueue α
  /-- Producers that wait to be told, the longest waiting first. -/
  waiting : List (Producer α) := []
  /-- Producers that were told and have not tried again. -/
  notified : List (Producer α) := []
deriving Repr

namespace Room

variable {α : Type}

/-- Tells the producer that waited longest. -/
def notifyOne (r : Room α) : Room α :=
  match r.waiting with
  | [] => r
  | p :: rest => { r with waiting := rest, notified := r.notified ++ [p] }

/-- Tells all producers. -/
def notifyAll (r : Room α) : Room α :=
  { r with waiting := [], notified := r.notified ++ r.waiting }

/-- A newcomer tries to push its task and waits if it has to. -/
def push (r : Room α) (number : Nat) (t : Task α) (policy : FullPolicy) : Offer × Room α :=
  match r.queue.offer t policy with
  | (.full, _) => (.full, { r with waiting := r.waiting ++ [⟨number, t⟩] })
  | (offer, queue) => (offer, { r with queue })

/-- A producer that was told tries again, and waits again if others were faster. -/
def retry (r : Room α) (p : Producer α) : Offer × Room α :=
  { r with notified := r.notified.filter (·.number ≠ p.number) }.push p.number p.task .block

/-- Takes the foremost entry; a task that is taken makes room. -/
def pop (r : Room α) : Found α × Room α :=
  match r.queue.pop with
  | (.task t, queue) => (.task t, { r with queue }.notifyOne)
  | (found, queue) => (found, { r with queue })

/-- Closes the queue; if it was open, no producer waits on. -/
def close (r : Room α) (mode : ShutdownMode) : Bool × Room α :=
  match r.queue.close mode with
  | (true, queue) => (true, { r with queue }.notifyAll)
  | (false, _) => (false, r)

/-- Removes everything from the queue. -/
def clear (r : Room α) : List (Task α) × Room α :=
  let (dropped, queue) := r.queue.clear
  (dropped, { r with queue }.notifyAll)

/-- Lets every producer that was told try again, in order, and gives what became of those
that came to an end. -/
def settle (r : Room α) : List (Producer α × Offer) × Room α :=
  r.notified.foldl (fun (ended, r) p =>
    match r.retry p with
    | (.full, r) => (ended, r)
    | (offer, r) => (ended ++ [(p, offer)], r)) ([], r)

end Room

end Courier
