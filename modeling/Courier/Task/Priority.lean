/-!
# Priorities

Tasks on a thread are ordered by four priorities. A queue ranks them from 1 to 4 and keeps
the ranks below and above for itself.
-/

namespace Courier

/-- How urgent a task is on the thread it is for. -/
inductive Priority where
  | low | normal | high | critical
deriving DecidableEq, Repr, Inhabited

namespace Priority

/-- The priority of a task that does not state one. -/
def default : Priority := normal

/-- The rank of a priority in a queue. -/
def rank : Priority → Nat
  | low => 1
  | normal => 2
  | high => 3
  | critical => 4

/-- The position of a priority among all, from the least urgent on. -/
def index (p : Priority) : Nat := p.rank - 1

/-- All priorities, the least urgent first. -/
def all : List Priority := [low, normal, high, critical]

/-- Priorities are ordered by urgency. -/
def compare (a b : Priority) : Ordering := Ord.compare a.rank b.rank

/-- The name of a priority. -/
def name : Priority → String
  | low => "Low"
  | normal => "Normal"
  | high => "High"
  | critical => "Critical"

/-- The priority with a given name. -/
def ofName? (s : String) : Option Priority := all.find? (·.name == s)

end Priority

end Courier
