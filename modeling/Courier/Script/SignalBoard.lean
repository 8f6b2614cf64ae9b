import Courier.Script.Answer
import Courier.Signal

/-!
# A board of signals

Signals of integers under names, slots that act on the board while they are called, and
tokens for the connections. A signal lives as long as it has a name or a slot that holds
on to it; the tokens of a signal that is gone are inert.
-/

namespace Courier.SignalBoard

open Script (Answer)

/-- What a slot does after it has noted the call. -/
inductive Action where
  | none
  /-- Disconnects a plain token. -/
  | disconnect (label : String)
  /-- Connects another slot. -/
  | connect (label : String)
  /-- Emits one less, as long as the value is positive. -/
  | reemit
  | disconnectAll
deriving DecidableEq, Repr

/-- Whether a slot with this action holds on to its signal. -/
def Action.holdsSignal : Action → Bool
  | .connect _ | .reemit | .disconnectAll => true
  | .none | .disconnect _ => false

/-- A slot on the board: its label, its signal and its action. -/
structure Handler where
  label : String
  home : Nat
  action : Action
deriving DecidableEq, Repr

/-- The token of a connection; a guarded one disconnects when it is dropped. -/
structure Token where
  home : Nat
  id : Nat
  guarded : Bool
deriving DecidableEq, Repr

/-- The signals by number, their names, the tokens by label, and the notes. -/
structure Board where
  signals : List (Signal Handler) := [{}]
  names : List (String × Nat) := [("main", 0)]
  tokens : List (String × Token) := []
  /-- What happened, with a label each. -/
  notes : List (String × Answer) := []

namespace Board

/-- The signal with a number. -/
def signal (b : Board) (home : Nat) : Signal Handler := b.signals.getD home {}

/-- Replaces the signal with a number. -/
def setSignal (b : Board) (home : Nat) (s : Signal Handler) : Board :=
  { b with signals := b.signals.set home s }

/-- The number of the signal with a name. -/
def home? (b : Board) (name : String) : Option Nat := b.names.lookup name

/-- The token with a label. -/
def token? (b : Board) (label : String) : Option Token := b.tokens.lookup label

/-- Whether a signal still exists. -/
def isAlive (b : Board) (home : Nat) : Bool :=
  b.names.any (·.2 == home) || (b.signal home).slots.any (·.handler.action.holdsSignal)

/-- Adds a note. -/
def note (b : Board) (label : String) (a : Answer) : Board :=
  { b with notes := b.notes ++ [(label, a)] }

/-- Notes that a slot was called. -/
def noteCall (b : Board) (h : Handler) (value : Int) : Board := b.note h.label (.number value)

/-- Notes what disconnecting gave, or that there was no such token. -/
def noteDisconnect (b : Board) (result : Option Bool) : Board :=
  b.note "disconnected" (.option .flag result)

/-- Gives a name to a signal, in place of the one that had it. -/
def setName (b : Board) (name : String) (home : Nat) : Board :=
  { b with names := (name, home) :: b.names.filter (·.1 ≠ name) }

/-- Whether the slot of a token is connected. -/
def isConnected (b : Board) (t : Token) : Bool :=
  b.isAlive t.home && (b.signal t.home).isConnected t.id

/-- Removes the slot of a token and says whether it was there. -/
def disconnect (b : Board) (t : Token) : Bool × Board :=
  if b.isAlive t.home then
    let (removed, s) := (b.signal t.home).disconnect t.id
    (removed, b.setSignal t.home s)
  else (false, b)

/-- Disconnects a plain token; a guarded one, or a label without one, gives nothing. -/
def disconnectPlain (b : Board) (label : String) : Option Bool × Board :=
  match b.token? label with
  | some t =>
    if t.guarded then (none, b)
    else let (removed, b) := b.disconnect t; (some removed, b)
  | none => (none, b)

/-- Drops the token with a label. The slot of a plain token stays. -/
def dropToken (b : Board) (label : String) : Board :=
  let kept := { b with tokens := b.tokens.filter (·.1 ≠ label) }
  match b.token? label with
  | some t => if t.guarded then (kept.disconnect t).2 else kept
  | none => kept

/-- Connects a slot and stores its token in place of the one with the same label. -/
def connect (b : Board) (label : String) (home : Nat) (guarded : Bool) (action : Action) : Board :=
  let (id, s) := (b.signal home).connect ⟨label, home, action⟩
  let b := (b.setSignal home s).dropToken label
  { b with tokens := (label, ⟨home, id, guarded⟩) :: b.tokens }

/-- Runs the action of a slot that was called with `value`; `emit` emits on its signal. -/
def act (emit : Int → Board → Board) (h : Handler) (value : Int) (b : Board) : Board :=
  match h.action with
  | .none => b
  | .disconnect label =>
    let (removed, b) := b.disconnectPlain label
    b.noteDisconnect removed
  | .connect label => b.connect label h.home false .none
  | .reemit => if 0 < value then emit (value - 1) b else b
  | .disconnectAll => b.setSignal h.home (b.signal h.home).disconnectAll

/-- Emits a value on a signal. Emissions nest at most `depth` deep, which is no limit when
`depth` is at least the value. -/
def emit (home : Nat) : Nat → Int → Board → Board
  | 0, value, b =>
    (b.signal home).emit (fun h v b => act (fun _ b => b) h v (b.noteCall h v)) value b
  | depth + 1, value, b =>
    (b.signal home).emit
      (fun h v b => act (emit home depth) h v (b.noteCall h v)) value b

end Board

/-- A step on the board. -/
inductive Step where
  | connect (label on : String) (guarded : Bool) (action : Action)
  | emit (on : String) (value : Int)
  | disconnect (label : String)
  | isConnected (label : String)
  | describe (label : String)
  | dropToken (label : String)
  | disconnectAll (on : String)
  /-- Gives a signal another name. -/
  | clone (on name : String)
  | new (name : String)
  | dropSignal (on : String)
deriving DecidableEq, Repr

/-- The text that describes a token. -/
def describeToken (b : Board) (t : Token) : String :=
  let inner := s!"Connection \x7b id: {t.id}, connected: {b.isConnected t} \x7d"
  if t.guarded then s!"ScopedConnection({inner})" else inner

/-- Takes a step. -/
def Board.step (b : Board) : Step → Answer × Board
  | .connect label on guarded action =>
    match b.home? on with
    | some home => (.nothing, b.connect label home guarded action)
    | none => (.nothing, b)
  | .emit on value =>
    match b.home? on with
    | some home => (.nothing, b.emit home value.toNat value)
    | none => (.nothing, b)
  | .disconnect label =>
    let (removed, b) := b.disconnectPlain label
    (.option .flag removed, b)
  | .isConnected label =>
    match b.token? label with
    | some t => (.flag (b.isConnected t), b)
    | none => (.nothing, b)
  | .describe label =>
    match b.token? label with
    | some t => (.text (describeToken b t), b)
    | none => (.nothing, b)
  | .dropToken label => (.flag (b.token? label).isSome, b.dropToken label)
  | .disconnectAll on =>
    match b.home? on with
    | some home => (.nothing, b.setSignal home (b.signal home).disconnectAll)
    | none => (.nothing, b)
  | .clone on name =>
    match b.home? on with
    | some home => (.nothing, b.setName name home)
    | none => (.nothing, b)
  | .new name =>
    let fresh : Signal Handler := {}
    (.nothing, { b with signals := b.signals ++ [fresh] }.setName name b.signals.length)
  | .dropSignal on => (.flag true, { b with names := b.names.filter (·.1 ≠ on) })

/-- What is seen after a step: its answer, its notes, and the signals by name. -/
structure View where
  answer : Answer
  notes : List (String × Answer)
  signals : List (String × Answer)

/-- A signal as it is shown: its size, whether it is empty, and its text. -/
def signalAnswer (s : Signal Handler) : Answer :=
  .list [.number s.size, .flag (s.size = 0), .text s.describe]

/-- Takes steps in order and looks at the board after each of them. -/
def run : Board → List Step → List View
  | _, [] => []
  | b, s :: rest =>
    let (answer, b) := { b with notes := [] }.step s
    ⟨answer, b.notes, b.names.map fun (name, home) => (name, signalAnswer (b.signal home))⟩ ::
      run b rest

end Courier.SignalBoard
