import Courier.Engine.Registry
import Courier.Script.Answer
import Courier.Script.Argument
import Courier.Task.Delegate
import Courier.Task.Workplace

/-!
# Endpoints step by step

Endpoints are registered and invoked by hand. An endpoint logs its argument at once, hands
it on to a worker that logs it, or hands it on to an empty delegate.
-/

namespace Courier.EndpointDesk

open Script (Answer ArgumentKind Call)

/-- Where an endpoint hands its argument. -/
inductive Destination where
  | inline
  | worker
  | empty
deriving DecidableEq, Repr

/-- What the endpoints act on: the log of calls, and the worker. -/
structure Outside where
  calls : List Call := []
  worker : Worker Call Unit := .new "forward-target" {}

/-- The worker at work: its tasks are logged. -/
def place : Workplace Outside Call Unit where
  worker := Outside.worker
  setWorker o worker := { o with worker }
  clock _ := 0
  isBusy _ := false
  panics _ _ := false
  fire _ o := o
  run t o := { o with calls := o.calls ++ [t.work] }
  drop _ o := o
  ended _ _ o := o

/-- More steps of the worker's loop than any step takes. -/
def patience : Nat := 1000

/-- Hands a call on through a delegate. -/
def forward (d : Delegate Unit Unit) (call : Call) (o : Outside) : Response × Outside :=
  if d.binding.isEmpty then (.failed (.dispatch .emptyTarget), o)
  else
    let (offer, worker) := o.worker.post 0 ⟨d.priority, call⟩
    let o := { o with worker }
    match offer with
    | .refused error => (.failed (.dispatch error), o)
    | _ => (.done, place.settle patience o)

/-- The endpoint for a destination. -/
def endpoint (encoding : Encoding) (kind : ArgumentKind) (label : String)
    (destination : Destination) : Invoker Outside :=
  .decoding (kind.serializer encoding) fun value o =>
    let call : Call := ⟨label, ⟨kind, value⟩⟩
    match destination with
    | .inline => (.done, { o with calls := o.calls ++ [call] })
    | .worker => forward { binding := .of () () } call o
    | .empty => forward {} call o

/-- The endpoints and what they act on. -/
structure Desk where
  registry : Registry Outside := {}
  outside : Outside := {}

/-- A step at the desk. -/
inductive Step where
  | insert (id : UInt16) (encoding : Encoding) (kind : ArgumentKind) (label : String)
    (destination : Destination)
  | invoke (id : UInt16) (payload : Bytes)
  | contains (id : UInt16)
  | ids
  | stopWorker

/-- The answer of an invocation. -/
def responded : Response → Answer
  | .failed error => .failed error
  | .done | .panicked => .done

/-- Takes a step. -/
def Desk.step (d : Desk) : Step → Answer × Desk
  | .insert id encoding kind label destination =>
    let (replaced, registry) := d.registry.insert id (endpoint encoding kind label destination)
    (.fields [("replaced", .flag replaced)], { d with registry })
  | .invoke id payload =>
    match d.registry.get? id with
    | some invoker =>
      let (response, outside) := invoker payload d.outside
      (responded response, { d with outside })
    | none => (.text "missing", d)
  | .contains id => (.flag (d.registry.contains id), d)
  | .ids =>
    (.fields [("ids", .list (d.registry.ids.map fun id => .number id.toNat)),
      ("len", .number d.registry.size), ("is_empty", .flag (d.registry.size = 0))], d)
  | .stopWorker =>
    (.done, { d with outside := place.settle patience (place.close .drain d.outside) })

/-- What is seen after a step. -/
structure View where
  answer : Answer
  calls : List Call

/-- Takes steps in order and looks at the log after each of them. -/
def run : Desk → List Step → List View
  | _, [] => []
  | d, step :: rest =>
    let (answer, d) := { d with outside := { d.outside with calls := [] } }.step step
    ⟨answer, d.outside.calls⟩ :: run d rest

end Courier.EndpointDesk
