import Courier.Argument.Binary

/-!
# Reading back the binary form

Whatever is written in the binary form is read back from the front of any bytes, and what follows
it is left. More than that, whatever can be read can be read in front of more bytes: where an
argument ends is told by its own bytes. A reader that stops there has to look at what is left if it
wants to know of it.
-/

namespace Courier

namespace Text

variable {n : Nat} {rest : Bytes}

/-! ## Characters -/

/-- The continuation byte with the last six bits of a number. -/
def tail (n : Nat) : UInt8 := UInt8.ofNat (n % 64 + 128)

/-- A byte behind the first holds the last six bits of what it is made from, above a mark. -/
theorem toNat_tail (n : Nat) : (tail n).toNat = n % 64 + 128 := by
  rw [tail, UInt8.toNat_ofNat']
  omega

/-- The mark tells it from the first byte of a character. -/
theorem isContinuation_tail (n : Nat) : isContinuation (tail n) = true := by
  simp only [isContinuation, Bool.and_eq_true, decide_eq_true_eq, UInt8.le_iff_toNat_le,
    toNat_tail, UInt8.reduceToNat]
  omega

/-- The six bits can be had back. -/
theorem continuationBits_tail (n : Nat) : continuationBits (tail n) = n % 64 := by
  rw [continuationBits, toNat_tail]
  omega

/-- A number below 256 survives as a byte. -/
theorem toNat_ofNat_of_lt (h : n < 256) : (UInt8.ofNat n).toNat = n :=
  (UInt8.toNat_ofNat').trans (Nat.mod_eq_of_lt h)

/-- A first byte without marks is a character by itself. -/
theorem lead_of_one (h : n ≤ 127) (rest : Bytes) :
    lead (.ofNat n) rest = .char (Char.ofNat n) rest := by
  have hfirst : (UInt8.ofNat n).toNat = n := toNat_ofNat_of_lt (by omega)
  have hlength : sequenceLength (.ofNat n) = 1 := by
    simp only [sequenceLength, UInt8.le_iff_toNat_le, hfirst, UInt8.reduceToNat]
    rw [if_pos h]
  simp only [lead, hlength, hfirst]

/-- A first byte with two marks asks for one more byte. -/
theorem lead_of_two (hleast : 127 < n) (hmost : n ≤ 2047) (rest : Bytes) :
    lead (.ofNat (n / 64 + 192)) (tail n :: rest) = .char (Char.ofNat n) rest := by
  have hfirst : (UInt8.ofNat (n / 64 + 192)).toNat = n / 64 + 192 := toNat_ofNat_of_lt (by omega)
  have hlength : sequenceLength (.ofNat (n / 64 + 192)) = 2 := by
    simp only [sequenceLength, UInt8.le_iff_toNat_le, hfirst, UInt8.reduceToNat]
    rw [if_neg (by omega), if_pos (by omega)]
  have hnumber : (n / 64 + 192) % 32 * 64 + n % 64 = n := by omega
  simp only [lead, hlength, isContinuation_tail, if_true, hfirst, continuationBits_tail, hnumber]

/-- Surrogates are what a second byte must not spell after 237. -/
theorem lead_of_three (hleast : 2047 < n) (hmost : n ≤ 65535)
    (hproper : n < 0xD800 ∨ 0xDFFF < n) (rest : Bytes) :
    lead (.ofNat (n / 4096 + 224)) (tail (n / 64) :: tail n :: rest) =
      .char (Char.ofNat n) rest := by
  have hfirst : (UInt8.ofNat (n / 4096 + 224)).toNat = n / 4096 + 224 :=
    toNat_ofNat_of_lt (by omega)
  have hlength : sequenceLength (.ofNat (n / 4096 + 224)) = 3 := by
    simp only [sequenceLength, UInt8.le_iff_toNat_le, hfirst, UInt8.reduceToNat]
    rw [if_neg (by omega), if_neg (by omega), if_pos (by omega)]
  have hsecond : allowsSecond (.ofNat (n / 4096 + 224)) (tail (n / 64)) = true := by
    simp only [allowsSecond, ← UInt8.toNat_inj, hfirst, UInt8.reduceToNat,
      UInt8.le_iff_toNat_le, toNat_tail, isContinuation_tail]
    grind
  have hnumber : ((n / 4096 + 224) % 16 * 64 + n / 64 % 64) * 64 + n % 64 = n := by omega
  simp only [lead, hlength, hsecond, isContinuation_tail, Bool.not_true, Bool.false_eq_true,
    if_false, hfirst, continuationBits_tail, hnumber]

/-- A first byte with four marks asks for three more bytes. -/
theorem lead_of_four (hleast : 65535 < n) (hmost : n < 0x110000) (rest : Bytes) :
    lead (.ofNat (n / 262144 + 240)) (tail (n / 4096) :: tail (n / 64) :: tail n :: rest) =
      .char (Char.ofNat n) rest := by
  have hfirst : (UInt8.ofNat (n / 262144 + 240)).toNat = n / 262144 + 240 :=
    toNat_ofNat_of_lt (by omega)
  have hlength : sequenceLength (.ofNat (n / 262144 + 240)) = 4 := by
    simp only [sequenceLength, UInt8.le_iff_toNat_le, hfirst, UInt8.reduceToNat]
    rw [if_neg (by omega), if_neg (by omega), if_neg (by omega), if_pos (by omega)]
  have hsecond : allowsSecond (.ofNat (n / 262144 + 240)) (tail (n / 4096)) = true := by
    simp only [allowsSecond, ← UInt8.toNat_inj, hfirst, UInt8.reduceToNat,
      UInt8.le_iff_toNat_le, toNat_tail, isContinuation_tail]
    grind
  have hnumber : (((n / 262144 + 240) % 8 * 64 + n / 4096 % 64) * 64 + n / 64 % 64) * 64 + n % 64
      = n := by omega
  simp only [lead, hlength, hsecond, isContinuation_tail, Bool.not_true, Bool.false_eq_true,
    if_false, hfirst, continuationBits_tail, hnumber]

/-- The bytes of a character, with the sizes of each byte worked out. -/
theorem charBytes_eq (c : Char) : charBytes c =
    if c.toNat ≤ 127 then [.ofNat c.toNat]
    else if c.toNat ≤ 2047 then [.ofNat (c.toNat / 64 + 192), tail c.toNat]
    else if c.toNat ≤ 65535 then
      [.ofNat (c.toNat / 4096 + 224), tail (c.toNat / 64), tail c.toNat]
    else [.ofNat (c.toNat / 262144 + 240), tail (c.toNat / 4096), tail (c.toNat / 64),
      tail c.toNat] := by
  have hlt : c.toNat < 2097152 := by
    rcases c.valid with h | ⟨-, h⟩ <;> exact Nat.lt_of_lt_of_le h (by decide)
  have hdef : charBytes c = if c.toNat ≤ 127 then [.ofNat c.toNat]
      else if c.toNat ≤ 2047 then [.ofNat (c.toNat / 64 % 32 + 192), tail c.toNat]
      else if c.toNat ≤ 65535 then
        [.ofNat (c.toNat / 4096 % 16 + 224), tail (c.toNat / 64), tail c.toNat]
      else [.ofNat (c.toNat / 262144 % 8 + 240), tail (c.toNat / 4096), tail (c.toNat / 64),
        tail c.toNat] := rfl
  rw [hdef]
  split
  · rfl
  · split
    · rw [Nat.mod_eq_of_lt (by omega)]
    · split
      · rw [Nat.mod_eq_of_lt (by omega)]
      · rw [Nat.mod_eq_of_lt (by omega)]

/-- A character is read back from its bytes, whatever follows them. -/
theorem lead_charBytes (c : Char) : ∃ first more, charBytes c = first :: more ∧
    ∀ rest, lead first (more ++ rest) = .char c rest := by
  have hback : Char.ofNat c.toNat = c := Char.ofNat_toNat c
  have hvalid : c.toNat < 0xD800 ∨ 0xDFFF < c.toNat ∧ c.toNat < 0x110000 := c.valid
  have hbytes := charBytes_eq c
  generalize c.toNat = n at hback hvalid hbytes
  subst hback
  split at hbytes
  · next hone => exact ⟨_, _, hbytes, lead_of_one hone⟩
  · next hone =>
    split at hbytes
    · next htwo => exact ⟨_, _, hbytes, lead_of_two (by omega) htwo⟩
    · next htwo =>
      split at hbytes
      · next hthree => exact ⟨_, _, hbytes, lead_of_three (by omega) hthree (by omega)⟩
      · next hthree => exact ⟨_, _, hbytes, lead_of_four (by omega) (by omega)⟩

/-- A character is read in front of more bytes, which are left. -/
theorem lead_append {first : UInt8} {left : Bytes} {c : Char} (h : lead first rest = .char c left)
    (more : Bytes) : lead first (rest ++ more) = .char c (left ++ more) := by
  unfold lead at h ⊢
  -- One case for each length that the first byte may announce.
  split at h
  · grind
  · rcases rest with _ | ⟨b, rest⟩ <;> grind
  · rcases rest with _ | ⟨b, _ | ⟨c, rest⟩⟩ <;> grind
  · rcases rest with _ | ⟨b, _ | ⟨c, _ | ⟨d, rest⟩⟩⟩ <;> grind
  · cases h

/-! ## Texts -/

/-- Characters that are written one after the other are read one after the other, wherever the
reader has come to. -/
theorem decodeFrom_encode (chars : List Char) (position : Nat) :
    decodeFrom position (chars.flatMap charBytes) = .ok chars := by
  induction chars generalizing position with
  | nil => rw [List.flatMap_nil, decodeFrom]
  | cons c chars ih =>
    obtain ⟨first, more, hbytes, hlead⟩ := lead_charBytes c
    rw [List.flatMap_cons, hbytes, List.cons_append, decodeFrom]
    split
    · next hfault => cases (hlead _).symm.trans hfault
    · next hchar =>
      obtain ⟨rfl, rfl⟩ := Lead.char.inj ((hlead _).symm.trans hchar)
      rw [ih]
      rfl

/-- A text is read back from its bytes. -/
theorem decodeUtf8_encodeUtf8 (s : String) : decodeUtf8 (encodeUtf8 s) = .ok s := by
  rw [decodeUtf8, encodeUtf8, decodeFrom_encode]
  exact congrArg Except.ok String.ofList_toList

end Text

namespace Shape

/-- Whether every text and every list in an argument can be counted in 64 bits. -/
def Counted : (s : Shape) → s.Value → Prop
  | .text, v => (Text.encodeUtf8 v).length < Nat.pow 2 64
  | .list item, vs => vs.length < Nat.pow 2 64 ∧ ∀ v ∈ vs, Counted item v
  | .option item, some v => Counted item v
  | .pair first second, (a, b) => Counted first a ∧ Counted second b
  | _, _ => True

end Shape

namespace Binary

variable {s : Shape} {bytes rest : Bytes}

/-- A step that succeeds has succeeded in both of its parts. -/
theorem bind_eq_ok {α β : Type} {x : Except ArgumentError α} {f : α → Except ArgumentError β}
    {b : β} : x >>= f = .ok b ↔ ∃ a, x = .ok a ∧ f a = .ok b := by
  cases x with
  | error cause => simp [bind, Except.bind]
  | ok a => simp [bind, Except.bind]

/-- What is mapped and succeeds has succeeded before it was mapped. -/
theorem map_eq_ok {α β : Type} {x : Except ArgumentError α} {f : α → β} {b : β} :
    x.map f = .ok b ↔ ∃ a, x = .ok a ∧ f a = b := by
  cases x with
  | error cause => simp [Except.map]
  | ok a => simp [Except.map]

/-- A number is read back as far as its width goes. -/
theorem takeNat_littleEndian (width n : Nat) (rest : Bytes) :
    takeNat width (littleEndian width n ++ rest) = .ok (n % Nat.pow 256 width, rest) := by
  induction width generalizing n with
  | zero => simp [littleEndian, takeNat, Nat.mod_one]
  | succ width ih =>
    rw [littleEndian, List.cons_append, takeNat, ih]
    simp only [Except.map, UInt8.toNat_ofNat', Nat.mod_mod]
    have hpow : Nat.pow 256 (width + 1) = 256 * Nat.pow 256 width := Nat.mul_comm ..
    rw [hpow, Nat.mod_mul]

/-- A length that fits its eight bytes is read back. -/
theorem takeNat_lengthBytes {n : Nat} (h : n < Nat.pow 2 64) (rest : Bytes) :
    takeNat 8 (lengthBytes n ++ rest) = .ok (n, rest) := by
  rw [lengthBytes, takeNat_littleEndian]
  exact congrArg (fun n => Except.ok (n, rest)) (Nat.mod_eq_of_lt h)

/-- A number of the width of its bits is read back. -/
theorem takeNat_bits {w : Width} (v : BitVec w.bits) (rest : Bytes) :
    takeNat w.bytes (littleEndian w.bytes v.toNat ++ rest) = .ok (v.toNat, rest) := by
  have hpow : Nat.pow 2 w.bits = Nat.pow 256 w.bytes := by cases w <;> rfl
  have hlt : v.toNat < Nat.pow 2 w.bits := v.isLt
  rw [hpow] at hlt
  rw [takeNat_littleEndian, Nat.mod_eq_of_lt hlt]

/-- A text whose length fits is read back in front of anything. -/
theorem takeText_textBytes {s : String} (h : (Text.encodeUtf8 s).length < Nat.pow 2 64)
    (rest : Bytes) : takeText (textBytes s ++ rest) = .ok (s, rest) := by
  rw [takeText, textBytes, List.append_assoc, takeNat_lengthBytes h]
  simp only [bind, Except.bind, List.length_append, List.take_left', List.drop_left',
    Text.decodeUtf8_encodeUtf8]
  rw [if_neg (by omega)]
  rfl

/-- A character is read back in front of anything. -/
theorem takeChar_charBytes (c : Char) (rest : Bytes) :
    takeChar (Text.charBytes c ++ rest) = .ok (c, rest) := by
  obtain ⟨first, more, hbytes, hlead⟩ := Text.lead_charBytes c
  rw [hbytes, List.cons_append, takeChar, hlead]

/-- A number of one byte is this byte. -/
theorem takeNat_one (b : UInt8) (rest : Bytes) : takeNat 1 (b :: rest) = .ok (b.toNat, rest) := rfl

/-- Items are read back one after the other. -/
theorem takeItems_flatMap {α : Type} {write : α → Bytes}
    {take : Bytes → Except ArgumentError (α × Bytes)} {vs : List α}
    (hitem : ∀ v ∈ vs, ∀ rest, take (write v ++ rest) = .ok (v, rest)) (rest : Bytes) :
    takeItems take vs.length (vs.flatMap write ++ rest) = .ok (vs, rest) := by
  induction vs with
  | nil => rfl
  | cons v vs ih =>
    rw [List.flatMap_cons, List.length_cons, takeItems, List.append_assoc,
      hitem v List.mem_cons_self]
    simp only [bind, Except.bind]
    rw [ih fun w hw => hitem w (List.mem_cons_of_mem v hw)]
    rfl

/-- Whatever is written is read back, and what follows it is left. -/
theorem take_write {v : s.Value} (hcounted : s.Counted v) (rest : Bytes) :
    take s (write s v ++ rest) = .ok (v, rest) := by
  induction s generalizing rest with
  | unsigned w =>
    rw [write, take, takeNat_bits]
    simp [Except.map]
  | signed w =>
    rw [write, take, takeNat_bits]
    simp [Except.map]
  | bool => cases v <;> rfl
  | char => exact takeChar_charBytes v rest
  | unit => rfl
  | float =>
    have hlt : v.bits.toNat < Nat.pow 256 8 := v.bits.toNat_lt
    rw [write, take, takeNat_littleEndian, Nat.mod_eq_of_lt hlt]
    simp [Except.map]
  | text => exact takeText_textBytes hcounted rest
  | priority => cases v <;> rfl
  | list item ih =>
    rw [write, take, List.append_assoc, takeNat_lengthBytes hcounted.1]
    exact takeItems_flatMap (fun w hw rest => ih (hcounted.2 w hw) rest) rest
  | option item ih =>
    cases v with
    | none => rfl
    | some v =>
      rw [write, take, List.cons_append, takeNat_one]
      simp only [bind, Except.bind, ih hcounted rest]
      rfl
  | pair first second ihFirst ihSecond =>
    obtain ⟨a, b⟩ := v
    rw [write, take, List.append_assoc, ihFirst hcounted.1]
    simp only [bind, Except.bind, ihSecond hcounted.2]
    rfl

/-- An argument whose parts can be counted is read from its binary form, whatever is behind it. -/
theorem decode_write_append {v : s.Value} (hcounted : s.Counted v) (rest : Bytes) :
    (codec s).decode (write s v ++ rest) = .ok v := by
  simp only [codec, front, take_write hcounted rest]
  rfl

/-! ## More bytes behind -/

/-- A way of reading something off the front of some bytes that does not depend on what follows
it. -/
structure Prefixed {α : Type} (read : Bytes → Except ArgumentError (α × Bytes)) : Prop where
  append : ∀ {bytes left : Bytes} {a : α}, read bytes = .ok (a, left) →
    ∀ rest, read (bytes ++ rest) = .ok (a, left ++ rest)

namespace Prefixed

variable {α β : Type} {read : Bytes → Except ArgumentError (α × Bytes)}

/-- Reading nothing depends on nothing. -/
theorem pure (a : α) : Prefixed fun bytes => .ok (a, bytes) where
  append h rest := by
    obtain ⟨rfl, rfl⟩ := Prod.mk.inj (Except.ok.inj h)
    rfl

/-- Nothing is read where reading fails in any case. -/
theorem error (cause : ArgumentError) :
    Prefixed (fun _ => .error cause : Bytes → Except ArgumentError (α × Bytes)) where
  append h := by cases h

/-- What is made of the thing that was read does not matter. -/
theorem map (h : Prefixed read) (f : α → β) :
    Prefixed fun bytes => (read bytes).map fun found => (f found.1, found.2) where
  append hread rest := by
    obtain ⟨⟨a, behind⟩, ha, heq⟩ := map_eq_ok.mp hread
    obtain ⟨rfl, rfl⟩ := Prod.mk.inj heq
    rw [h.append ha]
    rfl

/-- One thing is read after the other, and which one it is may depend on the first. -/
theorem bind {next : α × Bytes → Except ArgumentError (β × Bytes)} (h : Prefixed read)
    (hnext : ∀ a, Prefixed fun left => next (a, left)) :
    Prefixed fun bytes => read bytes >>= next where
  append hread rest := by
    obtain ⟨⟨a, behind⟩, ha, hb⟩ := bind_eq_ok.mp hread
    rw [h.append ha]
    exact (hnext a).append hb rest

/-- A choice is made between two such ways, by a condition that does not look at the bytes. -/
theorem ite {read' : Bytes → Except ArgumentError (α × Bytes)} (condition : Prop)
    [Decidable condition] (h : Prefixed read) (h' : Prefixed read') :
    Prefixed fun bytes => if condition then read bytes else read' bytes := by
  split
  · exact h
  · exact h'

end Prefixed

/-- A number is read no further than its width goes. -/
theorem prefixed_takeNat (width : Nat) : Prefixed (takeNat width) := by
  induction width with
  | zero => exact .pure 0
  | succ width ih =>
    refine ⟨fun {bytes _ _} h rest => ?_⟩
    cases bytes with
    | nil => cases h
    | cons b bytes => exact (ih.map (b.toNat + 256 * ·)).append h rest

/-- What was read of a text does not depend on what follows it. -/
theorem prefixed_takeText : Prefixed takeText := by
  refine (prefixed_takeNat 8).bind fun length => ⟨fun {bytes _ _} h rest => ?_⟩
  dsimp only at h ⊢
  split at h
  · cases h
  · next hlong =>
    have htext : (bytes ++ rest).take length = bytes.take length :=
      List.take_append_of_le_length (by omega)
    have hleft : (bytes ++ rest).drop length = bytes.drop length ++ rest :=
      List.drop_append_of_le_length (by omega)
    rw [if_neg (by rw [List.length_append]; omega), htext, hleft]
    simp only [Pure.pure, Except.pure] at h ⊢
    split at h
    · obtain ⟨rfl, rfl⟩ := Prod.mk.inj (Except.ok.inj h)
      rfl
    · cases h

/-- What was read of a character does not depend on what follows it, as its first byte tells how
long it is. -/
theorem prefixed_takeChar : Prefixed takeChar := by
  refine ⟨fun {bytes _ _} h rest => ?_⟩
  cases bytes with
  | nil => cases h
  | cons first bytes =>
    rw [takeChar] at h
    split at h
    · next hlead =>
      obtain ⟨rfl, rfl⟩ := Prod.mk.inj (Except.ok.inj h)
      rw [List.cons_append, takeChar, Text.lead_append hlead]
    · cases h

/-- As many items as are asked for are read whatever follows them, if each of them is. -/
theorem prefixed_takeItems {α : Type} {take : Bytes → Except ArgumentError (α × Bytes)}
    (hitem : Prefixed take) (n : Nat) : Prefixed (takeItems take n) := by
  induction n with
  | zero => exact .pure []
  | succ n ih => exact hitem.bind fun v => ih.bind fun vs => .pure (v :: vs)

/-- Whatever is read is read in front of more bytes, which are left. -/
theorem prefixed_take (s : Shape) : Prefixed (take s) := by
  induction s with
  | unsigned w => exact (prefixed_takeNat w.bytes).map _
  | signed w => exact (prefixed_takeNat w.bytes).map _
  | bool =>
    refine (prefixed_takeNat 1).bind fun n => ?_
    exact .ite (n = 0) (.pure false) (.ite (n = 1) (.pure true) (.error (.invalidBool n)))
  | char => exact prefixed_takeChar
  | unit => exact .pure ()
  | float => exact (prefixed_takeNat 8).map fun n => Binary64.mk (UInt64.ofNat n)
  | text => exact prefixed_takeText
  | priority =>
    refine (prefixed_takeNat 4).bind fun n => ?_
    dsimp only
    cases Priority.all[n]? with
    | some p => exact .pure p
    | none => exact .error (.invalidVariant n Priority.all.length)
  | list item ih => exact (prefixed_takeNat 8).bind fun n => prefixed_takeItems ih n
  | option item ih =>
    refine (prefixed_takeNat 1).bind fun n => ?_
    exact .ite (n = 0) (.pure none)
      (.ite (n = 1) (ih.bind fun v => .pure (some v)) (.error (.invalidOption n)))
  | pair first second ihFirst ihSecond =>
    exact ihFirst.bind fun a => ihSecond.bind fun b => .pure (a, b)

end Binary
end Courier
