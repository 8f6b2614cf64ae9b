import Courier.Task.Priority
import Courier.Task.Policy

/-!
# Settings documents

Settings are read from a tree that does not depend on the notation in which it was
written. A record of settings is a table of named fields or a list of the fields in
order, a choice is the name of one of its variants, and a reader for a field says whether
a tree has the form that the field needs.
-/

namespace Courier

/-- A tree of settings. -/
inductive Document where
  | null
  | flag (b : Bool)
  | integer (n : Int)
  | text (s : String)
  | list (items : List Document)
  | table (fields : List (String × Document))
  /-- Something that no setting is made of. -/
  | other
deriving Inhabited

/-- What a notation allows beyond the plain form of settings. -/
structure Dialect where
  /-- What may stand beside the name of a variant that is written as a table. -/
  isEmptyPayload : Document → Bool
  /-- Whether a list that stands for a record may be longer than the record. -/
  allowsExcess : Bool

namespace Document

/-- A truth value. -/
def flag? : Document → Option Bool
  | flag b => some b
  | _ => none

/-- A text. -/
def text? : Document → Option String
  | text s => some s
  | _ => none

/-- An integer from 0 up to a limit. -/
def natBelow? (limit : Nat) : Document → Option Nat
  | integer n => if 0 ≤ n ∧ n < limit then some n.toNat else none
  | _ => none

/-- An integer of 64 bits without a sign. -/
def word64? (d : Document) : Option UInt64 := (d.natBelow? (Nat.pow 2 64)).map UInt64.ofNat

/-- An integer of 32 bits without a sign. -/
def word32? (d : Document) : Option UInt32 := (d.natBelow? (Nat.pow 2 32)).map UInt32.ofNat

/-- The variant of a choice: its name, or a table of one field that has its name. -/
def variant? {α : Type} (rules : Dialect) (named : String → Option α) : Document → Option α
  | text s => named s
  | table [(name, payload)] => do
    let v ← named name
    if rules.isEmptyPayload payload then some v else none
  | _ => none

/-- The fields of a record in order, those that are missing as nothing. A field may not
be given twice, fields with other names are ignored, and only the last fields of a list
can be missing. -/
def fields? (rules : Dialect) (names : List String) : Document → Option (List (Option Document))
  | table fields =>
    names.mapM fun name =>
      match fields.filter (·.1 == name) with
      | [] => some none
      | [(_, d)] => some (some d)
      | _ => none
  | list items =>
    if items.length ≤ names.length ∨ rules.allowsExcess then
      some ((items.take names.length).map some
        ++ List.replicate (names.length - items.length) none)
    else none
  | _ => none

end Document

/-- Reads a field that has a default. -/
def fieldOr {α : Type} (read : Document → Option α) (fallback : α) : Option Document → Option α
  | some d => read d
  | none => some fallback

/-- Reads a field that has to be there. -/
def field {α : Type} (read : Document → Option α) : Option Document → Option α
  | some d => read d
  | none => none

end Courier
