import Courier.Bytes
import Courier.Error

/-!
# Encoding and decoding arguments

How the arguments of a type become bytes is the business of a codec, of which there are many.
Calls and endpoints use it through a serializer, which appends to what is there and reports
failures as failures of the network that do not yet name an endpoint.
-/

namespace Courier

/-- A form in which the arguments of a type are written and read. Failures are told in
words. -/
structure Codec (α : Type) where
  encode : α → Except String Bytes
  decode : Bytes → Except String α

/-- What calls and endpoints do with the arguments of a type. -/
structure Serializer (α : Type) where
  /-- Appends the encoding of an argument to what is there. -/
  write : α → Bytes → Except NetworkError Bytes
  /-- Decodes an argument. -/
  read : Bytes → Except NetworkError α

/-- Encodes an argument. -/
def Serializer.encode {α : Type} (serializer : Serializer α) (v : α) : Except NetworkError Bytes :=
  serializer.write v []

/-- A codec in use for calls and endpoints. -/
def Codec.serializer {α : Type} (codec : Codec α) : Serializer α where
  write v out := ((codec.encode v).map (out ++ ·)).mapError (.serialization none)
  read bytes := (codec.decode bytes).mapError (.serialization none)

/-- An argument together with its kind; the arguments of a kind have a type. -/
structure Argument {κ : Type} (Value : κ → Type) where
  kind : κ
  value : Value kind

end Courier
