import Courier.Duration
import Courier.Error
import Courier.Task.Policy

/-!
# Settings of an engine

Every setting has a default. A send is tried once and then resent until its retries are
used up; each try takes the wait for an acknowledgment and, at worst, one scan period
more, which gives the time a delivery may need.
-/

namespace Courier

/-- The settings of an engine; all times are in milliseconds. -/
structure EngineConfig where
  threadName : String := "network"
  /-- How long a frame waits for its acknowledgment. -/
  ackTimeout : UInt64 := 1000
  /-- How often a frame is sent again. -/
  maxRetries : UInt32 := 3
  /-- The period of the scan for frames that waited too long. -/
  processInterval : UInt64 := 100
  /-- How long one attempt to receive may block. -/
  receivePoll : UInt64 := 50
  /-- How long a caller waits for a delivery. -/
  waitTimeout : UInt64 := 5000
  /-- Whether received frames are acknowledged. -/
  sendAcks : Bool := true
  /-- How many received frames are remembered to recognise repetitions; 0 for none. -/
  dedupeWindow : UInt64 := 0
  queue : QueueConfig := {}
deriving DecidableEq, Repr, Inhabited

namespace EngineConfig

/-- The settings that must not be zero, with their names. -/
def positiveSettings (c : EngineConfig) : List (String × UInt64) :=
  [("ack_timeout_ms", c.ackTimeout), ("process_interval_ms", c.processInterval),
    ("receive_poll_ms", c.receivePoll), ("wait_timeout_ms", c.waitTimeout)]

/-- Refuses settings with which no engine can work, and names the first one at fault. -/
def validate (c : EngineConfig) : Except NetworkError Unit :=
  match c.positiveSettings.find? (·.2 = 0) with
  | some (field, _) => .error (.configuration s!"{field} must be greater than zero" (some field))
  | none =>
    if c.threadName = "" then
      .error (.configuration "thread_name must not be empty" (some "thread_name"))
    else .ok ()

/-- A setting in milliseconds as a duration. -/
def millis (setting : UInt64) : Duration := .ofMillis setting.toNat

/-- The number of tries per send, as far as 32 bits go. -/
def budgetedAttempts (c : EngineConfig) : Nat := min (c.maxRetries.toNat + 1) (Nat.pow 2 32 - 1)

/-- The longest time in which a send can come to its end with every retry used. -/
def deliveryBudget (c : EngineConfig) : Duration :=
  ((millis c.ackTimeout).add (millis c.processInterval)).times c.budgetedAttempts

/-- Whether a waiting caller outlasts every retry. -/
def waitCoversDelivery (c : EngineConfig) : Bool :=
  c.deliveryBudget.nanos ≤ (millis c.waitTimeout).nanos

end EngineConfig

end Courier
