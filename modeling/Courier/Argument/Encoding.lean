import Courier.Argument.Binary
import Courier.Argument.JsonForm

/-!
# Binary or JSON

The two forms of an argument behind one choice.
-/

namespace Courier

/-- The forms in which an argument can travel. -/
inductive Encoding where
  | binary | json
deriving DecidableEq, Repr

/-- The codec for arguments of a shape. -/
def Encoding.codec (encoding : Encoding) (s : Shape) : Codec s.Value :=
  match encoding with
  | binary => Binary.codec s
  | json => JsonForm.codec s

end Courier
