import Courier.Script.Answer
import Courier.Task.Call
import Courier.Task.Delegate
import Courier.Task.Watchdog
import Courier.Task.Workplace

/-!
# Workers step by step

A worker and an idle second one are used from outside: tasks, calls, timers, a watchdog
and delegates. A task may keep the worker busy until it is let go, and everything that
happens on the workers is logged. The clock moves only where a step takes time.
-/

namespace Courier.Workshop

open Script (Answer)

/-- The two workers. -/
inductive Thread where
  | main | other
deriving DecidableEq, Repr

/-- The target of a delegate; the number tells it from others of the same name. -/
structure Target where
  number : Nat
  label : String
deriving DecidableEq, Repr

/-- The target of a delegate with a result: it squares its argument in 64 bits, or
panics. -/
structure Squaring where
  number : Nat
  label : String
  panics : Bool
deriving DecidableEq, Repr

/-- What a posted task does after it has logged its label. -/
inductive Body where
  | log
  | panic
  /-- Logs whether the task runs on its worker. -/
  | isCurrent
  /-- Logs the number of waiting tasks. -/
  | pending
  /-- Logs how often each timer was called. -/
  | hits
  /-- Posts a further task. -/
  | post (inner : String) (priority : Priority)
  /-- Makes a call onto its own worker. -/
  | call (panics : Bool)
  /-- Closes the queue of its own worker. -/
  | shutdown (mode : ShutdownMode)
deriving DecidableEq, Repr

/-- A task. -/
inductive Job where
  /-- Keeps the worker busy until it is let go. -/
  | hold
  | task (label : String) (body : Body)
  /-- Invokes a delegate and waits for the result. -/
  | invoke (label : String) (delegate : WaitDelegate Thread Squaring) (arg : Int)
  /-- The work of a call. -/
  | call (number : Nat) (ending : Ending Answer)
  /-- The call of a delegate. -/
  | deliver (target : Target) (arg : Int)
  /-- The call of a delegate whose result is waited for. -/
  | reply (number : Nat) (target : Squaring) (arg : Int)
  | message (label : String) (args : List Int)

/-- What a timer calls. -/
inductive Callback where
  /-- Counts the call, then cancels a timer. -/
  | hit (label : String) (cancels : Option String)
  /-- Keeps the worker alive. -/
  | touch
deriving DecidableEq, Repr

/-- The workers and what is known about them outside. -/
structure Shop where
  main : Worker Job Callback
  other : Worker Job Callback := .new "other" {}
  clock : Time := 0
  /-- Whether the worker is kept busy. -/
  held : Bool := false
  log : List (String × Answer) := []
  /-- How often each timer was called. -/
  hits : List (String × Nat) := []
  /-- The handles of timers by label. -/
  timers : List (String × Nat) := []
  watchdog : Option Watchdog := none
  /-- The number of stalls reported. -/
  stalls : Nat := 0
  delegates : List (String × Delegate Thread Target) := []
  waitDelegates : List (String × WaitDelegate Thread Squaring) := []
  nextTarget : Nat := 0
  /-- What became of each call. -/
  fates : List (Fate Answer) := []
  /-- Calls that somebody else waits for, or why they were refused. -/
  background : List (String × Except TaskError Nat) := []
  /-- Whether a post waits for room, or what became of it. -/
  blocked : Option Offer := none
  /-- Whether somebody waits for the worker to exit. -/
  closing : Bool := false

/-- More steps of a loop than any script takes. -/
def patience : Nat := 1000000

/-- Stores a value under a label in place of another one. -/
def store {α : Type} (label : String) (a : α) (l : List (String × α)) : List (String × α) :=
  if l.any (·.1 == label) then l.map fun (k, b) => if k == label then (k, a) else (k, b)
  else l ++ [(label, a)]

namespace Shop

/-- The worker of a thread. -/
def worker (s : Shop) : Thread → Worker Job Callback
  | .main => s.main
  | .other => s.other

/-- Replaces the worker of a thread. -/
def setWorker (s : Shop) (thread : Thread) (w : Worker Job Callback) : Shop :=
  match thread with
  | .main => { s with main := w }
  | .other => { s with other := w }

/-- The name of a thread. -/
def name (s : Shop) (thread : Thread) : String := (s.worker thread).name

/-- Adds a line to the log. -/
def note (label : String) (a : Answer) (s : Shop) : Shop := { s with log := s.log ++ [(label, a)] }

/-- Notes what became of a call. -/
def setFate (number : Nat) (fate : Fate Answer) (s : Shop) : Shop :=
  { s with fates := s.fates.set number fate }

/-- Removes a timer and says whether it was registered. -/
def cancelTimer (s : Shop) (id : Nat) : Bool × Shop :=
  let (removed, main) := s.main.cancelTimer id
  (removed, { s with main })

/-- Stops the watchdog and its timer. -/
def stopWatchdog (s : Shop) : Shop :=
  match s.watchdog with
  | some d => { (s.cancelTimer d.timer).2 with watchdog := none }
  | none => s

/-- Calls a target with a result. -/
def square (target : Squaring) (arg : Int) (s : Shop) : Ending Answer × Shop :=
  let word := BitVec.ofInt 64 arg
  (if target.panics then none else some (.number (word * word).toInt),
    s.note target.label (.number arg))

/-- What a timer does when it is due. -/
def fire (timer : Timer Callback) (s : Shop) : Shop :=
  match timer.callback with
  | .hit label cancels =>
    let count := (s.hits.lookup label).getD 0
    let s := { s with hits := store label (count + 1) s.hits }
    match cancels.bind (s.timers.lookup ·) with
    | some id => (s.cancelTimer id).2
    | none => s
  | .touch => s

/-- Notes that tasks were dropped whose callers wait. -/
def drop (tasks : List (Task Job)) (s : Shop) : Shop :=
  tasks.foldl (fun s t =>
    match t.work with
    | .call number _ | .reply number _ _ => s.setFate number .dropped
    | _ => s) s

/-- Notes what became of a producer that had to wait. -/
def ended (producer : Producer Job) (offer : Offer) (s : Shop) : Shop :=
  match producer.task.work, offer with
  | .call .., .accepted => s
  | .call .., _ => s.drop [producer.task]
  | _, offer => { s with blocked := some offer }

/-- Runs a task that concerns nothing but its own target. -/
def runPlain (job : Job) (s : Shop) : Shop :=
  match job with
  | .call number ending => s.setFate number (.ofEnding ending)
  | .deliver target arg => s.note target.label (.number arg)
  | .reply number target arg =>
    let (ending, s) := s.square target arg
    s.setFate number (.ofEnding ending)
  | .message label args => s.note label (.list (args.map .number))
  | _ => s

/-- The second worker at work. -/
def otherPlace : Workplace Shop Job Callback where
  worker := Shop.other
  setWorker s other := { s with other }
  clock := Shop.clock
  isBusy _ := false
  panics _ _ := false
  fire := fire
  run t s := runPlain t.work s
  drop := drop
  ended := ended

/-- Brings a task to a worker from outside. -/
def post (thread : Thread) (priority : Priority) (job : Job) (s : Shop) : Offer × Shop :=
  let (offer, w) := (s.worker thread).post 0 ⟨priority, job⟩
  (offer, s.setWorker thread w)

/-- Takes a number for a call. -/
def newCall (s : Shop) : Nat × Shop := (s.fates.length, { s with fates := s.fates ++ [.queued] })

/-- What the caller of a call is told when it stops waiting. -/
def answerOf (s : Shop) (thread : Thread) (timeout : Duration) (number : Nat) :
    Except TaskError Answer :=
  Call.answer (s.name thread) timeout (s.fates.getD number .queued)

/-- Invokes a delegate from the worker and waits for the result. -/
def invokeFromMain (d : WaitDelegate Thread Squaring) (arg : Int) (s : Shop) :
    Except TaskError Answer × Shop :=
  match d.binding.bound? with
  | none => (.error .emptyTarget, s)
  | some (.main, target) =>
    let (ending, s) := s.square target arg
    (Call.inline (s.name .main) ending, s)
  | some (.other, target) =>
    let (number, s) := s.newCall
    match s.post .other d.priority (.reply number target arg) with
    | (.refused e, s) => (.error e, s)
    | (_, s) =>
      let s := otherPlace.settle patience s
      (s.answerOf .other d.timeout number, s)

/-- Runs the body of a posted task. -/
def runBody (label : String) (body : Body) (s : Shop) : Shop :=
  match body with
  | .log => s.note label .nothing
  | .panic => s.note label (.text "panicking")
  | .isCurrent => s.note label (.flag true)
  | .pending => s.note label (.number s.main.pending)
  | .hits => s.note label (.fields (s.hits.map fun (k, n) => (k, .number n)))
  | .post inner priority =>
    let (offer, main) := s.main.postOwn ⟨priority, .task inner .log⟩
    let s := { s with main }
    match offer with
    | .refused e => s.note label (.refused e)
    | _ => s.note label (.text "posted")
  | .call panics =>
    let ending : Ending Answer := if panics then none else some (.number 7)
    s.note label (.onThread id (Call.inline (s.name .main) ending))
  | .shutdown mode =>
    ({ s with main := (s.main.close mode).2 }.stopWatchdog).note label (.text "ok")

/-- Runs a task of the worker. -/
def run (t : Task Job) (s : Shop) : Shop :=
  match t.work with
  | .hold => { s with held := true }
  | .task label body => s.runBody label body
  | .invoke label d arg =>
    let (result, s) := s.invokeFromMain d arg
    s.note label (.onThread id result)
  | job => s.runPlain job

/-- Whether a task of the worker panics. The work of a call has its panics caught by the call. -/
def panics (t : Task Job) : Bool :=
  match t.work with
  | .task _ .panic => true
  | _ => false

/-- The worker at work. -/
def mainPlace : Workplace Shop Job Callback where
  worker := Shop.main
  setWorker s main := { s with main }
  clock := Shop.clock
  isBusy := Shop.held
  panics t _ := panics t
  fire := fire
  run := run
  drop := drop
  ended := ended

/-- Lets both workers come to rest. -/
def settle (s : Shop) : Shop := otherPlace.settle patience (mainPlace.settle patience s)

/-- Lets the watchdog look at the worker if it is time to. -/
def watch (s : Shop) : Shop :=
  match s.watchdog with
  | none => s
  | some d =>
    if s.clock < d.nextCheck then s
    else
      let (report, d) := d.check s.clock s.main.lastAlive
      let s := { s with watchdog := some d }
      if report then
        { s with stalls := s.stalls + 1 }.note "stall"
          (.list [.text s.main.name, .number d.config.timeout.toNat, .flag true])
      else s

/-- When something happens next by itself. Every pass of a loop takes some time. -/
def nextEvent (s : Shop) : Option Time :=
  let wake := (mainPlace.wakeTime s).map fun t =>
    if t ≤ s.clock then s.clock + (Duration.ofMillis 1).nanos else t
  match wake, s.watchdog with
  | some t, some d => some (min t d.nextCheck)
  | some t, none => some t
  | none, some d => some d.nextCheck
  | none, none => none

/-- Lets time go by until a clock reading, or until `enough` holds. -/
def passTime (enough : Shop → Bool) (limit : Time) : Nat → Shop → Shop
  | 0, s => s
  | fuel + 1, s =>
    if enough s then s
    else
      match s.nextEvent with
      | some t =>
        if t ≤ limit then
          passTime enough limit fuel ((mainPlace.timeOut { s with clock := t }).settle.watch)
        else { s with clock := limit }
      | none => { s with clock := limit }

/-- Waits for a while. -/
def wait (d : Duration) (s : Shop) : Shop :=
  s.passTime (fun _ => false) (s.clock + d.nanos) patience

/-- The longest time that a step waits for something to happen. -/
def longestWait : Duration := .ofMillis 60000

/-- Waits for something to happen and says whether it did. -/
def waitFor (enough : Shop → Bool) (s : Shop) : Bool × Shop :=
  let s := s.passTime enough (s.clock + longestWait.nanos) patience
  (enough s, s)

/-- Waits for the result of a call that was posted. -/
def await (thread : Thread) (timeout : Duration) (number : Nat) (s : Shop) :
    Except TaskError Answer × Shop :=
  let s := s.settle
  match s.fates.getD number .queued with
  | .queued =>
    let s := s.wait timeout
    (s.answerOf thread timeout number, s)
  | _ => (s.answerOf thread timeout number, s)

/-- Posts the work of a call and waits for the result. -/
def call (thread : Thread) (priority : Priority) (timeout : Duration) (job : Nat → Job) (s : Shop) :
    Except TaskError Answer × Shop :=
  let (number, s) := s.newCall
  match s.post thread priority (job number) with
  | (.refused e, s) => (.error e, s)
  | (_, s) => s.await thread timeout number

end Shop

/-- A step in the workshop. -/
inductive Step where
  | hold
  | release
  | post (label : String) (priority : Priority) (body : Body)
  /-- Posts a task that invokes a delegate. -/
  | postInvoke (label : String) (priority : Priority) (delegate : String) (arg : Int)
  | call (ending : Ending Answer) (priority : Priority) (timeout : Duration)
  /-- Makes a call that somebody else waits for. -/
  | callLater (label : String) (ending : Ending Answer) (priority : Priority)
  | shutdown (mode : ShutdownMode)
  | isCurrent
  | describe
  | sameThread
  | addTimer (label : String) (period : Duration) (cancels : Option String)
  | cancelTimer (label : String)
  | isTimerActive (label : String)
  | dropTimer (label : String)
  | waitHits (label : String) (count : Nat)
  | startWatchdog (config : WatchdogConfig)
  | stopWatchdog
  | waitStalls (count : Nat)
  | isAliveWithin (span : Duration)
  | pause (span : Duration)
  /-- Makes a delegate on a thread, or an empty one. -/
  | delegate (label : String) (thread : Option Thread) (priority : Priority)
  | cloneDelegate (source label : String) (priority : Option Priority)
  | clearDelegate (label : String)
  | equal (a b : String)
  | describeDelegate (label : String)
  | invoke (label : String) (arg : Int)
  /-- Makes a delegate with a result on a thread, or an empty one. -/
  | waitDelegate (label : String) (thread : Option Thread) (panics : Bool) (timeout : Duration)
    (priority : Priority)
  | cloneWait (source label : String)
  | equalWait (a b : String)
  | describeWait (label : String)
  | invokeWait (label : String) (arg : Int)
  /-- Calls a message at once or posts it. -/
  | message (label : String) (args : List Int) (priority : Priority) (now : Bool)

namespace Shop

/-- Posts a task from outside. -/
def postJob (priority : Priority) (job : Job) (s : Shop) : Answer × Shop :=
  let (offer, s) := s.post .main priority job
  (.offered offer, s)

/-- What is found out when the worker is let go. -/
def released (s : Shop) : List (String × Answer) :=
  (if s.closing then [("shutdown", .done)] else []) ++
    (match s.blocked with
      | some offer => [("blocked", .offered offer)]
      | none => []) ++
    s.background.map fun (label, call) =>
      (label, .onThread id (call.bind (s.answerOf .main longestWait)))

/-- The handle of a timer as a step shows it. -/
def timerAnswer (s : Shop) (id : Nat) : List (String × Answer) :=
  [("active", .flag (s.main.timers.contains id)), ("debug", .text (s.main.timers.describe id))]

/-- Replaces the handle of a timer under a label, which cancels the old one. -/
def setTimer (label : String) (id : Nat) (s : Shop) : Shop :=
  let s := match s.timers.lookup label with
    | some old => (s.cancelTimer old).2
    | none => s
  { s with
    timers := store label id s.timers
    hits := store label ((s.hits.lookup label).getD 0) s.hits }

/-- Takes a number for a target. -/
def newTarget (s : Shop) : Nat × Shop := (s.nextTarget, { s with nextTarget := s.nextTarget + 1 })

/-- The delegate under a label. -/
def delegateAt (s : Shop) (label : String) : Delegate Thread Target :=
  (s.delegates.lookup label).getD {}

/-- The delegate with a result under a label. -/
def waitDelegateAt (s : Shop) (label : String) : WaitDelegate Thread Squaring :=
  (s.waitDelegates.lookup label).getD {}

/-- Takes a step; the workers have not come to rest after it. -/
def begin_ (s : Shop) : Step → Answer × Shop
  | .hold =>
    match s.post .main .critical .hold with
    | (.refused e, s) => (.refused e, s)
    | (_, s) => (.text "held", s)
  | .release =>
    let s := { s with held := false }.settle
    (.fields s.released, { s with closing := false, blocked := none, background := [] })
  | .post label priority body => s.postJob priority (.task label body)
  | .postInvoke label priority delegate arg =>
    s.postJob priority (.invoke label (s.waitDelegateAt delegate) arg)
  | .call ending priority timeout =>
    let (result, s) := s.call .main priority timeout (.call · ending)
    (.onThread id result, s)
  | .callLater label ending priority =>
    let (number, s) := s.newCall
    let (offer, s) := s.post .main priority (.call number ending)
    let result := match offer with
      | .refused e => .error e
      | _ => .ok number
    (.flag true, { s with background := s.background ++ [(label, result)] })
  | .shutdown mode =>
    let s := (mainPlace.close mode s).stopWatchdog
    if s.held then (.fields [("closed", .flag true)], { s with closing := true })
    else (.done, s.settle)
  | .isCurrent => (.list [.flag false, .flag false], s)
  | .describe => (.text s.main.describe, s)
  | .sameThread =>
    (.list [.flag true, .flag false, .text (s.name .main), .text (s.name .other)], s)
  | .addTimer label period cancels =>
    let (id, main) := s.main.addTimer s.clock period (.hit label cancels)
    let s := { s with main }.setTimer label id
    (.fields (s.timerAnswer id), s)
  | .cancelTimer label =>
    match s.timers.lookup label with
    | some id =>
      let (removed, s) := s.cancelTimer id
      (.fields (("cancelled", .flag removed) :: s.timerAnswer id), s)
    | none => (.nothing, s)
  | .isTimerActive label =>
    (.option (fun id => .flag (s.main.timers.contains id)) (s.timers.lookup label), s)
  | .dropTimer label =>
    match s.timers.lookup label with
    | some id =>
      (.flag true, { (s.cancelTimer id).2 with timers := s.timers.filter (·.1 != label) })
    | none => (.flag false, s)
  | .waitHits label count =>
    let (found, s) := s.waitFor fun s => count ≤ (s.hits.lookup label).getD 0
    (.flag found, s)
  | .startWatchdog config =>
    let (timer, main) := s.main.addTimer s.clock config.period .touch
    (.done, { { s with main }.stopWatchdog with watchdog := some (.start config timer s.clock) })
  | .stopWatchdog => (.nothing, s.stopWatchdog)
  | .waitStalls count =>
    let (found, s) := s.waitFor fun s => count ≤ s.stalls
    (.flag found, s)
  | .isAliveWithin span => (.flag (s.clock - s.main.lastAlive ≤ span.nanos), s)
  | .pause span => (.nothing, s.wait span)
  | .delegate label thread priority =>
    let (number, s) := s.newTarget
    let binding : Binding Thread Target := match thread with
      | some t => .of t ⟨number, label⟩
      | none => {}
    (.nothing, { s with delegates := store label ⟨binding, priority⟩ s.delegates })
  | .cloneDelegate source label priority =>
    let d := s.delegateAt source
    (.nothing,
      { s with
        delegates := store label { d with priority := priority.getD d.priority } s.delegates })
  | .clearDelegate label =>
    (.nothing, { s with delegates := store label (s.delegateAt label).clear s.delegates })
  | .equal a b => (.flag ((s.delegateAt a).same (s.delegateAt b)), s)
  | .describeDelegate label =>
    let d := s.delegateAt label
    (.fields [("empty", .flag d.binding.isEmpty), ("priority", .text d.priority.name),
      ("debug", .text (d.describe s.name))], s)
  | .invoke label arg =>
    let d := s.delegateAt label
    match d.binding.bound? with
    | none => (.refused .emptyTarget, s)
    | some (thread, target) =>
      let (offer, s) := s.post thread d.priority (.deliver target arg)
      (.offered offer, s)
  | .waitDelegate label thread panics timeout priority =>
    let (number, s) := s.newTarget
    let binding : Binding Thread Squaring := match thread with
      | some t => .of t ⟨number, label, panics⟩
      | none => {}
    (.nothing, { s with waitDelegates := store label ⟨binding, priority, timeout⟩ s.waitDelegates })
  | .cloneWait source label =>
    (.nothing, { s with waitDelegates := store label (s.waitDelegateAt source) s.waitDelegates })
  | .equalWait a b => (.flag ((s.waitDelegateAt a).same (s.waitDelegateAt b)), s)
  | .describeWait label =>
    let d := s.waitDelegateAt label
    (.fields [("empty", .flag d.binding.isEmpty), ("debug", .text (d.describe s.name))], s)
  | .invokeWait label arg =>
    let d := s.waitDelegateAt label
    match d.binding.bound? with
    | none => (.refused .emptyTarget, s)
    | some (thread, target) =>
      let (result, s) := s.call thread d.priority d.timeout (.reply · target arg)
      (.onThread id result, s)
  | .message label args priority now =>
    if now then (.text "dispatched", s.runPlain (.message label args))
    else
      match s.post .main priority (.message label args) with
      | (.accepted, s) => (.text priority.name, s)
      | (offer, s) => (.offered offer, s)

/-- Takes a step and lets the workers come to rest. -/
def step (s : Shop) (step : Step) : Answer × Shop :=
  let (answer, s) := s.begin_ step
  (answer, s.settle)

end Shop

/-- What is seen after a step. -/
structure View where
  answer : Answer
  log : List (String × Answer)
  running : Bool
  pending : Nat

/-- Takes steps in order and looks at the worker after each of them. -/
def run : Shop → List Step → List View
  | _, [] => []
  | s, step :: rest =>
    let (answer, s) := { s with log := [] }.step step
    ⟨answer, s.log, s.main.isRunning, s.main.pending⟩ :: run s rest

/-- A workshop whose worker has a name and a queue. -/
def Shop.start (name : String) (config : QueueConfig) : Shop :=
  ({ main := .new name config } : Shop).settle

end Courier.Workshop
