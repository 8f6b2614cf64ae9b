import Courier.Duration

/-!
# Settings of a watchdog

A watchdog looks at intervals whether a thread has made a pass within a timeout.
-/

namespace Courier

/-- The settings of a watchdog, in milliseconds. -/
structure WatchdogConfig where
  timeout : UInt64 := 2000
  checkInterval : UInt64 := 250
deriving DecidableEq, Repr, Inhabited

namespace WatchdogConfig

/-- One millisecond, the least period of a check. -/
def leastInterval : Duration := .ofMillis 1

/-- A watchdog for a timeout checks four times within it. -/
def ofTimeout (timeout : Duration) : WatchdogConfig :=
  ⟨timeout.millis64, (timeout.quarter.atLeast leastInterval).millis64⟩

/-- The same watchdog with another check interval. -/
def withCheckInterval (c : WatchdogConfig) (interval : Duration) : WatchdogConfig :=
  { c with checkInterval := interval.millis64 }

/-- The timeout as a duration. -/
def timeoutDuration (c : WatchdogConfig) : Duration := .ofMillis c.timeout.toNat

/-- The period of the checks. -/
def period (c : WatchdogConfig) : Duration :=
  (Duration.ofMillis c.checkInterval.toNat).atLeast leastInterval

end WatchdogConfig

end Courier
