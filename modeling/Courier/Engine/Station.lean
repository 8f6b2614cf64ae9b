import Courier.Engine.Inbound
import Courier.Task.Workplace

/-!
# Engines with their threads

An engine handles frames on a thread of its own. While it runs, a second loop takes frames
from the transport and posts them to that thread, and a timer on the thread scans for late
frames.
-/

namespace Courier

/-- A task on an engine's thread. -/
inductive EngineTask (χ : Type) where
  | handle (frame : Frame)
  /-- Work that others bring. -/
  | other (work : χ)

/-- An engine and its thread, which may have other work of type `χ` to do. -/
structure Station (σ ρ χ : Type) where
  engine : Engine σ ρ
  /-- The thread; its only timer scans for late frames. -/
  worker : Worker (EngineTask χ) Unit
  scanTimer : Option Nat := none

namespace Station

variable {σ ρ χ : Type}

/-- An engine whose thread has just been started. -/
def new (config : EngineConfig) (medium : σ) (outside : ρ) :
    Except NetworkError (Station σ ρ χ) := do
  return {
    engine := ← Engine.new config medium outside
    worker := .new config.threadName config.queue }

/-- The failure that there is no transport to receive from. -/
def noTransport : NetworkError :=
  .configuration "start called before initialize" (some "transport")

/-- Starts to receive and to scan, unless that was done before. -/
def start (clock : Time) (s : Station σ ρ χ) : Except NetworkError Unit × Station σ ρ χ :=
  if !s.engine.isInitialized then (.error noTransport, s)
  else if s.engine.running then (.ok (), s)
  else
    let (timer, worker) :=
      s.worker.addTimer clock (EngineConfig.millis s.engine.config.processInterval) ()
    (.ok (), { engine := { s.engine with running := true }, worker, scanTimer := some timer })

/-- Stops to receive and to scan; the thread goes on. -/
def stop (s : Station σ ρ χ) : Station σ ρ χ :=
  let worker := match s.scanTimer with
    | some timer => (s.worker.cancelTimer timer).2
    | none => s.worker
  { engine := { s.engine with running := false }, worker, scanTimer := none }

/-- Whether the receiving loop is free: it may have to wait until the thread has room for
the last frame. -/
def isReceiving (s : Station σ ρ χ) : Bool :=
  s.engine.running && s.worker.room.waiting.isEmpty && s.worker.room.notified.isEmpty

/-- Receives once and posts the frame to the thread. -/
def receive (c : Carrier σ) (s : Station σ ρ χ) : Station σ ρ χ :=
  match s.engine.receive c with
  | (none, engine) => { s with engine }
  | (some frame, engine) =>
    match s.worker.post 0 ⟨.normal, .handle frame⟩ with
    | (.refused error, worker) => { s with engine := engine.dropFrame frame error, worker }
    | (_, worker) => { s with engine, worker }

end Station

end Courier
