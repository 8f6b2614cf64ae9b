import Courier.Config.Watchdog

/-!
# Watchdogs

A watchdog looks at intervals how long ago a worker was last alive, and reports once for
every time that this takes longer than it may. A timer on the worker keeps an idle worker
alive.
-/

namespace Courier

/-- A watchdog at work. -/
structure Watchdog where
  config : WatchdogConfig
  /-- The timer that keeps the worker alive. -/
  timer : Nat
  nextCheck : Time
  /-- Whether the present stall has been reported. -/
  reported : Bool := false
deriving DecidableEq, Repr

namespace Watchdog

/-- A watchdog that starts at a time. -/
def start (config : WatchdogConfig) (timer : Nat) (clock : Time) : Watchdog :=
  { config, timer, nextCheck := clock + config.period.nanos }

/-- Looks at a worker that was last alive at a time, and says whether to report. -/
def check (d : Watchdog) (clock lastAlive : Time) : Bool × Watchdog :=
  let stalled := d.config.timeoutDuration.nanos < clock - lastAlive
  (stalled && !d.reported,
    { d with reported := stalled, nextCheck := clock + d.config.period.nanos })

end Watchdog

end Courier
