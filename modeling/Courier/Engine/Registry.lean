import Courier.Argument.Codec
import Std.Data.ExtTreeMap

/-!
# Endpoints

An endpoint takes the payloads of the frames for its id. Mostly it decodes an argument and
calls a target with it; what the target acts on is a state outside of the endpoint.
-/

namespace Courier

/-- How the invocation of an endpoint ended. -/
inductive Response where
  | done
  | failed (error : NetworkError)
  | panicked
deriving DecidableEq, Repr

/-- What an endpoint does with a payload, acting on a state of type `ρ`. -/
abbrev Invoker (ρ : Type) := Bytes → ρ → Response × ρ

namespace Invoker

variable {ρ : Type}

/-- An endpoint that decodes an argument and calls a target, which may fail. -/
def decoding {α : Type} (serializer : Serializer α) (target : α → ρ → Response × ρ) :
    Invoker ρ := fun payload outside =>
  match serializer.read payload with
  | .ok v => target v outside
  | .error e => (.failed e, outside)

end Invoker

/-- The endpoints by id. -/
structure Registry (ρ : Type) where
  endpoints : Std.ExtTreeMap UInt16 (Invoker ρ) := ∅

namespace Registry

variable {ρ : Type}

/-- Whether there is an endpoint for an id. -/
def contains (r : Registry ρ) (id : UInt16) : Bool := r.endpoints.contains id

/-- Registers an endpoint and says whether it replaced another one. -/
def insert (r : Registry ρ) (id : UInt16) (invoker : Invoker ρ) : Bool × Registry ρ :=
  (r.contains id, ⟨r.endpoints.insert id invoker⟩)

/-- The endpoint for an id. -/
def get? (r : Registry ρ) (id : UInt16) : Option (Invoker ρ) := r.endpoints[id]?

/-- The ids in ascending order. -/
def ids (r : Registry ρ) : List UInt16 := r.endpoints.keys

/-- The number of endpoints. -/
def size (r : Registry ρ) : Nat := r.endpoints.size

end Registry

end Courier
