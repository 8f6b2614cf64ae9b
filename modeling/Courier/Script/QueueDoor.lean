import Courier.Script.Answer
import Courier.Task.Room

/-!
# A queue step by step

One queue is worked by hand: producers bring labelled tasks, of whom one may wait for
room at a time, and a consumer takes them. Tasks that leave the queue are dropped at
once.
-/

namespace Courier.QueueDoor

open Script (Answer)

/-- A step at the queue. -/
inductive Step where
  /-- Brings a task; without a policy the queue's own one applies. -/
  | push (label : String) (priority : Priority) (policy : Option FullPolicy)
  | pop
  | close (mode : ShutdownMode)
  | clear
  | wake
deriving DecidableEq, Repr

/-- What is seen after a step. -/
structure View where
  answer : Answer
  /-- The labels of the tasks that were dropped. -/
  dropped : List String
  /-- The producer that stopped waiting, and what became of its task. -/
  released : Answer
  depth : Nat
  accepting : Bool

/-- The label of a task that was refused. -/
def refusedLabel : String × Offer → List String
  | (label, .refused _) => [label]
  | _ => []

/-- The answer of taking what a consumer finds. -/
def foundAnswer : Found String → Answer
  | .task t => .fields [("task", .text t.priority.name)]
  | .exit => .text "exit"
  | .idle => .text "idle"

/-- A producer that stopped waiting, as it is shown. -/
def releasedAnswer : String × Offer → Answer
  | (label, offer) => .fields [("label", .text label), ("result", .offered offer)]

/-- Takes a step; then the producers that were told try again. -/
def step (r : Room String) : Step → View × Room String
  | .push label priority policy =>
    let (offer, r) := r.push 0 ⟨priority, label⟩ (policy.getD r.queue.config.fullPolicy)
    finish (.offered offer) (refusedLabel (label, offer)) r
  | .pop =>
    let (found, r) := r.pop
    let dropped := match found with
      | .task t => [t.work]
      | _ => []
    finish (foundAnswer found) dropped r
  | .close mode =>
    let (closed, r) := r.close mode
    finish (.flag closed) [] r
  | .clear =>
    let count := r.queue.depth
    let (dropped, r) := r.clear
    finish (.number count) (dropped.map (·.work)) r
  | .wake => finish .nothing [] r
where
  /-- Looks at the queue after the producers that were told have tried again. -/
  finish (answer : Answer) (dropped : List String) (r : Room String) : View × Room String :=
    let (ended, r) := r.settle
    let ended := ended.map fun (p, offer) => (p.task.work, offer)
    let dropped := dropped ++ ended.flatMap refusedLabel
    (⟨answer, dropped.mergeSort (· ≤ ·), .option releasedAnswer ended.head?, r.queue.depth,
      r.queue.accepting⟩, r)

/-- Takes steps in order and looks at the queue after each of them. -/
def run : Room String → List Step → List View
  | _, [] => []
  | r, s :: rest => let (view, r) := step r s; view :: run r rest

end Courier.QueueDoor
