import Courier.Task.Room
import Courier.Task.Timer
import Courier.Text.Quoted

/-!
# Worker threads

A worker runs its tasks one at a time. Its loop makes passes: it calls the timers that are
due, notes that it is alive, waits for a task until the next timer is due, and runs the
task. Everything that others do to a worker can happen between any two steps of the loop.
-/

namespace Courier

/-- Where the loop of a worker stands. -/
inductive Phase (α τ : Type) where
  /-- A pass is about to begin. -/
  | passing
  /-- The timers that were due when the pass began are called one after the other. -/
  | firing (began : Time) (due : List (Timer τ))
  /-- It waits for a task. It looks at the queue unless it is asleep, and gives up waiting
  at the deadline. -/
  | waiting (deadline : Time) (asleep : Bool)
  /-- A task has been taken and runs. -/
  | running (task : Task α)
  | exited
deriving DecidableEq, Repr

/-- What the loop does in a step. -/
inductive Move (α τ : Type) where
  /-- Nothing, until the clock or somebody else gives reason to. -/
  | rest
  /-- Something that only the loop itself notices. -/
  | proceed
  | fire (timer : Timer τ)
  | start (task : Task α)
  /-- Something has gone wrong that is noted in the log and nowhere else. -/
  | report (text : String)
  /-- It leaves, and what was left in the queue is dropped. -/
  | leave (dropped : List (Task α))
deriving DecidableEq, Repr

/-- A worker thread. -/
structure Worker (α τ : Type) where
  room : Room α
  timers : TimerSet τ := {}
  /-- When the loop last completed the calling of its timers. -/
  lastAlive : Time := 0
  phase : Phase α τ := .passing
deriving Repr

/-- The longest time a loop waits without a task or a timer. -/
def idlePoll : Duration := .ofMillis 100

namespace Worker

variable {α τ : Type}

/-- A worker with a name and an empty queue. -/
def new (name : String) (config : QueueConfig) : Worker α τ :=
  { room := { queue := { name, config } } }

/-- The name of a worker. -/
def name (w : Worker α τ) : String := w.room.queue.name

/-- Whether tasks are still accepted. -/
def isRunning (w : Worker α τ) : Bool := w.room.queue.accepting

/-- The number of tasks that wait to run. -/
def pending (w : Worker α τ) : Nat := w.room.queue.depth

/-- The deadline of the wait in a pass that began at a time. -/
def deadline (w : Worker α τ) (began : Time) : Time :=
  let idle := began + idlePoll.nanos
  match w.timers.nextDeadline with
  | some next => min next idle
  | none => idle

/-- Looks at the queue. -/
def take (w : Worker α τ) (deadline : Time) : Move α τ × Worker α τ :=
  match w.room.pop with
  | (.task t, room) => (.start t, { w with room, phase := .running t })
  | (.exit, room) =>
    let (dropped, room) := room.clear
    (.leave dropped, { w with room, timers := w.timers.clear, phase := .exited })
  | (.idle, room) => (.proceed, { w with room, phase := .waiting deadline true })

/-- Takes the next step of the loop at a clock reading. While a task runs the loop takes none. -/
def step (clock : Time) (w : Worker α τ) : Move α τ × Worker α τ :=
  match w.phase with
  | .passing =>
    let (due, timers) := w.timers.takeDue clock
    (.proceed, { w with timers, phase := .firing clock due })
  | .firing began (t :: due) => (.fire t, { w with phase := .firing began due })
  | .firing began [] =>
    (.proceed, { w with lastAlive := clock, phase := .waiting (w.deadline began) false })
  | .waiting deadline false => w.take deadline
  | .waiting deadline true =>
    if clock < deadline then (.rest, w)
    else if w.room.queue.entries.isEmpty then (.proceed, { w with phase := .passing })
    else (.proceed, { w with phase := .waiting deadline false })
  | .running _ => (.rest, w)
  | .exited => (.rest, w)

/-- The task that runs has come to an end, or it has panicked. A panic is caught where the task was
called: it is noted, and the loop goes on to its next pass as it does without one. -/
def finish (panicked : Bool) (w : Worker α τ) : Move α τ × Worker α τ :=
  if panicked then (.report "Task panicked; worker loop continues", { w with phase := .passing })
  else (.proceed, { w with phase := .passing })

/-- Lets a sleeping loop look at its queue again. It goes on waiting for the deadline it
had. -/
def wake (w : Worker α τ) : Worker α τ :=
  match w.phase with
  | .waiting deadline _ => { w with phase := .waiting deadline false }
  | _ => w

/-- Brings a task from another thread; a producer that has to wait goes by a number. -/
def post (w : Worker α τ) (producer : Nat) (t : Task α) : Offer × Worker α τ :=
  match w.room.push producer t w.room.queue.config.fullPolicy with
  | (.accepted, room) => (.accepted, { w with room }.wake)
  | (offer, room) => (offer, { w with room })

/-- Brings a task from the worker itself, which must not wait for room that only it can
make. -/
def postOwn (w : Worker α τ) (t : Task α) : Offer × Worker α τ :=
  let (offer, room) := w.room.push 0 t .fail
  (offer, { w with room })

/-- Lets the producers that were told try again, and gives what became of those that came
to an end. -/
def settleProducers (w : Worker α τ) : List (Producer α × Offer) × Worker α τ :=
  match w.room.settle with
  | ([], room) => ([], { w with room })
  | (ended, room) => (ended, { w with room }.wake)

/-- Closes the queue, unless it was closed before, and says whether it did. -/
def close (w : Worker α τ) (mode : ShutdownMode) : Bool × Worker α τ :=
  match w.room.close mode with
  | (true, room) => (true, { w with room }.wake)
  | (false, room) => (false, { w with room })

/-- Registers a timer and wakes the loop. -/
def addTimer (w : Worker α τ) (clock : Time) (period : Duration) (callback : τ) :
    Nat × Worker α τ :=
  let (id, timers) := w.timers.insert clock period callback
  (id, { w with timers }.wake)

/-- Removes a timer and says whether it was registered. A pass that has found it due
still calls it. -/
def cancelTimer (w : Worker α τ) (id : Nat) : Bool × Worker α τ :=
  let (removed, timers) := w.timers.remove id
  (removed, { w with timers })

/-- The text that describes a worker. -/
def describe (w : Worker α τ) : String :=
  s!"WorkerThread \x7b name: {Text.quoted w.name}, pending: {w.pending}, " ++
    s!"timers: {w.timers.size}, running: {w.isRunning} \x7d"

end Worker

end Courier
