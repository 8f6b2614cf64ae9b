import Courier.Argument.Encoding

/-!
# Arguments in scripts

Scripts call endpoints with arguments of any shape, with measurements, which have named fields,
and with arguments that no codec takes.
-/

namespace Courier.Script

open Json (Value)

/-- One measurement of a sensor. -/
structure Reading where
  sensor : String
  value : Binary64
  flags : List (BitVec 8)
deriving DecidableEq, Repr

namespace Reading

/-- The shape of a measurement whose fields have no names. -/
def shape : Shape := .pair .text (.pair .float (.list (.unsigned .one)))

/-- A measurement as a value. -/
def toValue (r : Reading) : Value :=
  .record [(Json.Text.ofString "sensor", JsonForm.ofArgument .text r.sensor),
    (Json.Text.ofString "value", JsonForm.ofArgument .float r.value),
    (Json.Text.ofString "flags", JsonForm.ofArgument (.list (.unsigned .one)) r.flags)]

/-- The only value that a record holds under a name, when all its names are texts. -/
def field? (fields : List (Json.Text × Value)) (name : String) : Option Value := do
  let named ← fields.mapM fun (key, v) => (Json.Text.content? key).map (·, v)
  match named.filter (·.1 == name) with
  | [(_, v)] => some v
  | _ => none

/-- The parts of a measurement, by name or in order. -/
def parts? : Value → Option (Value × Value × Value)
  | .list [sensor, value, flags] => some (sensor, value, flags)
  | .record fields => do
    let sensor ← field? fields "sensor"
    let value ← field? fields "value"
    let flags ← field? fields "flags"
    return (sensor, value, flags)
  | _ => none

/-- The measurement that a value stands for. -/
def ofValue? (v : Value) : Option Reading := do
  let (sensor, value, flags) ← parts? v
  return ⟨← JsonForm.toArgument? .text sensor, ← JsonForm.toArgument? .float value,
    ← JsonForm.toArgument? (.list (.unsigned .one)) flags⟩

/-- The codec for measurements: in binary form their fields follow each other. -/
def codec : Encoding → Codec Reading
  | .binary =>
    { encode := fun r => (Binary.codec shape).encode (r.sensor, r.value, r.flags)
      decode := fun bytes =>
        ((Binary.codec shape).decode bytes).map fun (sensor, value, flags) =>
          ⟨sensor, value, flags⟩ }
  | .json => JsonForm.codecOf toValue ofValue?

end Reading

/-- The kinds of arguments in scripts. -/
inductive ArgumentKind where
  | plain (shape : Shape)
  | reading
  /-- An argument that refuses to be encoded or decoded. -/
  | refusing
deriving DecidableEq, Repr

namespace ArgumentKind

/-- The arguments of a kind. -/
@[reducible] def Value : ArgumentKind → Type
  | plain shape => shape.Value
  | reading => Reading
  | refusing => Unit

/-- The codec for arguments of a kind. -/
def codec (encoding : Encoding) : (kind : ArgumentKind) → Codec kind.Value
  | plain shape => encoding.codec shape
  | reading => Reading.codec encoding
  | refusing => { encode := fun _ => .error "refused", decode := fun _ => .error "refused" }

/-- The serializer for arguments of a kind. -/
def serializer (encoding : Encoding) (kind : ArgumentKind) : Serializer kind.Value :=
  (codec encoding kind).serializer

end ArgumentKind

/-- A call of an endpoint's target. -/
structure Call where
  label : String
  argument : Argument ArgumentKind.Value

end Courier.Script
