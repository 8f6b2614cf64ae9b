import Courier.Config.Document
import Courier.Json.Reader

/-!
# Settings in JSON

A JSON text is read as a settings document. The payload beside the name of a variant has
to be null, and a list may not be longer than the record that it stands for.
-/

namespace Courier.Json

/-- What JSON settings allow. -/
def settingsRules : Dialect where
  isEmptyPayload
    | .null => true
    | _ => false
  allowsExcess := false

mutual

/-- The document a JSON value stands for. A record in which some name is no text stands
for nothing. -/
def Value.toDocument : Value → Document
  | .null => .null
  | .bool b => .flag b
  | .number n =>
    match n.toInt? with
    | some i => .integer i
    | none => .other
  | .text t =>
    match t.content? with
    | some s => .text s
    | none => .other
  | .list items => .list (itemDocuments items)
  | .record fields =>
    match fieldDocuments fields with
    | some fields => .table fields
    | none => .other

/-- The documents of the items of a list. -/
def itemDocuments : List Value → List Document
  | [] => []
  | v :: rest => v.toDocument :: itemDocuments rest

/-- The documents of the fields of a record. -/
def fieldDocuments : List (Text × Value) → Option (List (String × Document))
  | [] => some []
  | (name, v) :: rest => do
    let name ← Text.content? name
    let rest ← fieldDocuments rest
    return (name, v.toDocument) :: rest

end

/-- The document that a JSON text stands for. -/
def document? (text : String) : Option Document :=
  match read (Courier.Text.encodeUtf8 text) with
  | .ok v => some v.toDocument
  | .error _ => none

end Courier.Json
