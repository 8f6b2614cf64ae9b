import Courier.Task.Worker

/-!
# Workers at work

A worker stands in a larger state that its tasks and timers act on, the worker itself
included: a task may bring further tasks or close its own queue. Here the loop is run in
such a state until it comes to rest.
-/

namespace Courier

/-- A state with a worker in it, and what the worker's actions do to it. -/
structure Workplace (σ α τ : Type) where
  worker : σ → Worker α τ
  setWorker : σ → Worker α τ → σ
  clock : σ → Time
  /-- Whether the task that runs has still to end. -/
  isBusy : σ → Bool
  /-- Whether the task that runs ends in a panic. -/
  panics : Task α → σ → Bool
  fire : Timer τ → σ → σ
  run : Task α → σ → σ
  /-- What becomes of tasks that are dropped. -/
  drop : List (Task α) → σ → σ
  /-- What becomes of a producer that had to wait. -/
  ended : Producer α → Offer → σ → σ

namespace Workplace

variable {σ α τ : Type}

/-- Lets the producers that were told try again. -/
def settleProducers (p : Workplace σ α τ) (s : σ) : σ :=
  let (ended, w) := (p.worker s).settleProducers
  ended.foldl (fun s (producer, offer) => p.ended producer offer s) (p.setWorker s w)

/-- Carries out a move of the loop. Room that is made by it is used at once. -/
def perform (p : Workplace σ α τ) (move : Move α τ) (s : σ) : σ :=
  match move with
  | .rest | .proceed | .report _ => s
  | .fire timer => p.settleProducers (p.fire timer s)
  | .start task => p.settleProducers (p.run task (p.settleProducers s))
  | .leave dropped => p.settleProducers (p.drop dropped s)

/-- Takes a step of the loop, or ends the task that runs. -/
def step (p : Workplace σ α τ) (s : σ) : σ :=
  let (move, w) := match (p.worker s).phase with
    | .running task => (p.worker s).finish (p.panics task s)
    | _ => (p.worker s).step (p.clock s)
  p.perform move (p.setWorker s w)

/-- Whether the loop has nothing to do before somebody brings a task or the clock goes
on. -/
def isAtRest (p : Workplace σ α τ) (s : σ) : Bool :=
  match (p.worker s).phase with
  | .waiting _ asleep => asleep
  | .running _ => p.isBusy s
  | .exited => true
  | _ => false

/-- Takes steps until the loop is at rest, and at most some number of them. -/
def settle (p : Workplace σ α τ) : Nat → σ → σ
  | 0, s => s
  | fuel + 1, s => if p.isAtRest s then s else settle p fuel (p.step s)

/-- When a loop that is at rest has to go on by itself. -/
def wakeTime (p : Workplace σ α τ) (s : σ) : Option Time :=
  match (p.worker s).phase with
  | .waiting deadline _ => some deadline
  | _ => none

/-- Lets a loop go on that has waited long enough. -/
def timeOut (p : Workplace σ α τ) (s : σ) : σ :=
  match p.wakeTime s with
  | some deadline => if deadline ≤ p.clock s then p.step s else s
  | none => s

/-- Closes the queue and lets the producers that waited hear of it. -/
def close (p : Workplace σ α τ) (mode : ShutdownMode) (s : σ) : σ :=
  p.settleProducers (p.setWorker s ((p.worker s).close mode).2)

end Workplace

end Courier
