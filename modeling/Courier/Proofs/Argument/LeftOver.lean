import Courier.Engine.Registry
import Courier.Proofs.Argument.BinaryForm
import Courier.Proofs.Argument.JsonForm

/-!
# Bytes behind an argument

A payload may be longer than the argument in it. A codec that has to read the whole of its bytes
finds that out, and an endpoint that uses it does not call its target. A codec that reads an
argument off the front and is content with it does not: the target is called whatever else is in
the payload. Which codec does which is a property of the codec alone, for arguments of any type.
-/

namespace Courier

variable {α ρ : Type}

namespace Json

/-- Whether a JSON text ends by itself. A number does not: more digits could follow. -/
def EndsItself (bytes : Bytes) : Prop := ∀ b ∈ bytes.head?, b ≠ 0x2D ∧ Digit.ofByte? b = none

/-- Numbers are what does not. -/
theorem not_endsItself_bytes {n : Numeral} (h : n.Proper) : ¬EndsItself n.bytes := by
  intro hends
  rw [bytes_eq] at hends
  cases hnegative : n.negative with
  | true =>
    rw [hnegative] at hends
    exact (hends 0x2D rfl).1 rfl
  | false =>
    obtain ⟨d, ds, hds⟩ := List.exists_cons_of_ne_nil h.whole_ne_nil
    rw [hnegative, hds] at hends
    cases (Digit.ofByte?_byte d).symm.trans (hends d.byte rfl).2

end Json

namespace Codec

/-- A codec that reads an argument off the front of its bytes, by `front`, and allows whatever
follows it. Where the argument ends is told by its own bytes. -/
structure AllowsMore (codec : Codec α) (front : Bytes → Except String (α × Bytes)) : Prop where
  decode_eq : ∀ bytes, codec.decode bytes = (front bytes).map (·.1)
  front_append : ∀ {bytes v left}, front bytes = .ok (v, left) →
    ∀ rest, front (bytes ++ rest) = .ok (v, left ++ rest)

/-- A codec for JSON that reads an argument off the front of its bytes, by `front`, and rejects
whatever follows it but blanks. What it writes is a value that JSON has, and what it reads an
argument from is one, too. Where a value ends is a matter of JSON alone, and not of the codec. -/
structure RejectsMore (codec : Codec α) (front : Bytes → Except String (α × Bytes)) : Prop where
  exists_write : ∀ {v bytes}, codec.encode v = .ok bytes →
    ∃ value : Json.Value, value.Proper ∧ value.write = bytes
  exists_value : ∀ {bytes v left}, front bytes = .ok (v, left) →
    ∃ value, Json.front bytes = .ok (value, left)
  exists_front : ∀ {bytes v}, codec.decode bytes = .ok v →
    ∃ left, front bytes = .ok (v, left) ∧ ∀ b ∈ left, Json.isBlank b = true

variable {codec : Codec α} {front : Bytes → Except String (α × Bytes)} {bytes rest : Bytes} {v : α}

/-- What is read is read in front of more bytes, whatever they are. -/
theorem AllowsMore.decode_append (h : codec.AllowsMore front) (hread : codec.decode bytes = .ok v)
    (rest : Bytes) : codec.decode (bytes ++ rest) = .ok v := by
  rw [h.decode_eq] at hread ⊢
  cases hfront : front bytes with
  | error cause =>
    rw [hfront] at hread
    cases hread
  | ok found =>
    obtain ⟨w, left⟩ := found
    rw [hfront] at hread
    rw [h.front_append hfront]
    exact hread

/-- Behind an argument that ends by itself, nothing but blanks is accepted. -/
theorem RejectsMore.decode_append (h : codec.RejectsMore front)
    (hwrite : codec.encode v = .ok bytes) (hends : Json.EndsItself bytes)
    (hrest : ∃ b ∈ rest, Json.isBlank b = false) :
    ∃ message, codec.decode (bytes ++ rest) = .error message := by
  obtain ⟨value, hproper, rfl⟩ := h.exists_write hwrite
  have hbounded : value.Bounded rest := by
    rintro n rfl
    cases hproper with
    | number hn => exact absurd hends (Json.not_endsItself_bytes hn)
  cases hread : codec.decode (value.write ++ rest) with
  | error message => exact ⟨message, rfl⟩
  | ok w =>
    -- The value that was read is the one that was written, so that all of `rest` was left.
    obtain ⟨left, hfront, hblank⟩ := h.exists_front hread
    obtain ⟨found, hfound⟩ := h.exists_value hfront
    have hvalue := Json.front_write_append hproper hbounded
    obtain ⟨-, rfl⟩ := Prod.mk.inj (Except.ok.inj (hfound.symm.trans hvalue))
    obtain ⟨b, hb, hother⟩ := hrest
    cases hother.symm.trans (hblank b hb)

/-- A serializer encodes as its codec does. -/
theorem serializer_encode_eq_ok :
    codec.serializer.encode v = .ok bytes ↔ codec.encode v = .ok bytes := by
  cases hwrite : codec.encode v <;>
    simp [Serializer.encode, serializer, hwrite, Except.map, Except.mapError]

/-- A serializer decodes as its codec does. -/
theorem serializer_read_eq_ok :
    codec.serializer.read bytes = .ok v ↔ codec.decode bytes = .ok v := by
  cases hread : codec.decode bytes <;> simp [serializer, hread, Except.mapError]

end Codec

/-- The binary form allows bytes behind an argument. -/
theorem Binary.allowsMore (s : Shape) : (Binary.codec s).AllowsMore (Binary.front s) where
  decode_eq _ := rfl
  front_append {bytes v left} hfront rest := by
    unfold Binary.front at hfront ⊢
    cases htake : take s bytes with
    | error cause =>
      rw [htake] at hfront
      cases hfront
    | ok found =>
      rw [htake] at hfront
      obtain rfl := Except.ok.inj hfront
      rw [(prefixed_take s).append htake]
      rfl

/-- The JSON form of whatever is written as values that JSON has allows only blanks. -/
theorem JsonForm.rejectsMore {write : α → Json.Value} (hproper : ∀ a, (write a).Proper)
    (read? : Json.Value → Option α) :
    (JsonForm.codecOf write read?).RejectsMore (JsonForm.front read?) where
  exists_write {a _} hwrite := ⟨write a, hproper a, Except.ok.inj hwrite⟩
  exists_value {bytes a left} hfront := by
    unfold front at hfront
    split at hfront
    · cases hfront
    · next value rest hvalue =>
      split at hfront
      · obtain ⟨-, rfl⟩ := Prod.mk.inj (Except.ok.inj hfront)
        exact ⟨value, hvalue⟩
      · cases hfront
  exists_front {bytes a} hread := by
    simp only [codecOf] at hread
    cases hfront : front read? bytes with
    | error cause =>
      rw [hfront] at hread
      cases hread
    | ok found =>
      obtain ⟨b, left⟩ := found
      rw [hfront] at hread
      simp only [bind, Except.bind] at hread
      split at hread
      · next hblank =>
        obtain rfl := Except.ok.inj hread
        exact ⟨left, rfl, List.dropWhile_eq_nil_iff.mp hblank⟩
      · cases hread

/-- An argument of any type is encoded, and more bytes follow. A codec for JSON that accepts only
blanks behind an argument refuses it if there is anything else, and an endpoint leaves everything
as it is; only an argument whose text is a number is excepted. A codec that allows whatever follows
an argument reads what it reads without, for every argument and whatever follows, and an endpoint
calls its target with it. -/
theorem Codec.left_over_bytes {json binary : Codec α}
    {frontJson frontBinary : Bytes → Except String (α × Bytes)}
    (hjson : json.RejectsMore frontJson) (hbinary : binary.AllowsMore frontBinary)
    (v : α) (rest : Bytes) (target : α → ρ → Response × ρ) (outside : ρ) :
    (∀ bytes, json.serializer.encode v = .ok bytes → Json.EndsItself bytes →
      (∃ b ∈ rest, Json.isBlank b = false) →
      ∃ message, json.serializer.read (bytes ++ rest) = .error (.serialization none message) ∧
        Invoker.decoding json.serializer target (bytes ++ rest) outside =
          (.failed (.serialization none message), outside)) ∧
    ∀ bytes w, binary.serializer.encode v = .ok bytes → binary.serializer.read bytes = .ok w →
      binary.serializer.read (bytes ++ rest) = .ok w ∧
        Invoker.decoding binary.serializer target (bytes ++ rest) outside = target w outside := by
  constructor
  · intro bytes hwrite hends hrest
    obtain ⟨message, hread⟩ :=
      hjson.decode_append (serializer_encode_eq_ok.mp hwrite) hends hrest
    have hrefused : json.serializer.read (bytes ++ rest) =
        .error (.serialization none message) := by
      simp only [serializer, hread, Except.mapError]
    exact ⟨message, hrefused, by rw [Invoker.decoding, hrefused]⟩
  · intro bytes w _ hread
    have hmore : binary.serializer.read (bytes ++ rest) = .ok w :=
      serializer_read_eq_ok.mpr (hbinary.decode_append (serializer_read_eq_ok.mp hread) rest)
    exact ⟨hmore, by rw [Invoker.decoding, hmore]⟩

/-- A target that counts is called with a byte that has another one behind it, and not with a text
that has. -/
theorem Codec.left_over_bytes_of_one_more :
    let target (α : Type) : α → Nat → Response × Nat := fun _ n => (.done, n + 1)
    Invoker.decoding (Binary.codec (.unsigned .one)).serializer (target _) [5, 0] 0 = (.done, 1) ∧
    ∃ message, Invoker.decoding (JsonForm.codec .text).serializer (target _)
      [0x22, 0x61, 0x22, 0x62] 0 = (.failed (.serialization none message), 0) := by
  intro target
  have hjson (s : Shape) := JsonForm.rejectsMore (JsonForm.proper_ofArgument s)
    (JsonForm.toArgument? s)
  obtain ⟨-, hbinary⟩ := left_over_bytes (hjson (.unsigned .one)) (Binary.allowsMore _)
    (5 : BitVec 8) [0] (target _) 0
  have hread : (Binary.codec (.unsigned .one)).serializer.read [5] = .ok 5 :=
    serializer_read_eq_ok.mpr
      (Binary.decode_write_append (s := .unsigned .one) (v := 5) trivial [])
  obtain ⟨-, hcalled⟩ := hbinary [5] 5 rfl hread
  obtain ⟨hjson, -⟩ := left_over_bytes (hjson .text) (Binary.allowsMore _) "a" [0x62] (target _) 0
  have hends : Json.EndsItself [0x22, 0x61, 0x22] := by
    rintro b ⟨⟩
    exact ⟨by decide, rfl⟩
  obtain ⟨message, -, hrefused⟩ := hjson [0x22, 0x61, 0x22] rfl hends (by decide)
  exact ⟨hcalled, message, hrefused⟩

end Courier
