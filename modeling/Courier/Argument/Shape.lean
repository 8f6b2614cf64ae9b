import Courier.Decimal.Binary64
import Courier.Task.Priority

/-!
# Shapes of arguments

A remote call carries one argument. Its shape is agreed between the caller and the
endpoint and is not part of the encoding, so that an encoding is written and read along a
shape.
-/

namespace Courier

/-- The number of bytes of a whole number. -/
inductive Width where
  | one | two | four | eight
deriving DecidableEq, Repr

/-- The size in bytes. -/
def Width.bytes : Width → Nat
  | one => 1
  | two => 2
  | four => 4
  | eight => 8

/-- The size in bits. -/
abbrev Width.bits (w : Width) : Nat := 8 * w.bytes

/-- The shape of an argument. -/
inductive Shape where
  | unsigned (w : Width)
  | signed (w : Width)
  | bool
  | char
  | unit
  | float
  | text
  | priority
  | list (item : Shape)
  | option (item : Shape)
  | pair (first second : Shape)
deriving DecidableEq, Repr

/-- The arguments of a shape. -/
@[reducible] def Shape.Value : Shape → Type
  | unsigned w => BitVec w.bits
  | signed w => BitVec w.bits
  | bool => Bool
  | char => Char
  | unit => Unit
  | float => Binary64
  | text => String
  | priority => Priority
  | list item => List item.Value
  | option item => Option item.Value
  | pair first second => first.Value × second.Value

end Courier
