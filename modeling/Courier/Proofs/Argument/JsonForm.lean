import Courier.Argument.JsonForm
import Mathlib.Data.List.TakeWhile

/-!
# Reading back JSON

Whatever is written as JSON is read back from the front of any bytes, and what follows it is left.
Only a number has no end of its own: more digits would go on with it, so it has to be followed by
what separates it from others. A value is read with as much fuel as its text is long, which is what
the induction is on, as the reader itself goes by it.
-/

namespace Courier

/-! ## Numerals -/

/-- A natural number has at least one digit. -/
theorem natDigits_ne_nil (n : Nat) : natDigits n ≠ [] := by
  rw [natDigits]
  split <;> simp

/-- What is put behind a list that is not empty does not change its head. -/
theorem head?_append_of_ne_nil {α : Type} {l : List α} (h : l ≠ []) (more : List α) :
    (l ++ more).head? = l.head? := by
  obtain ⟨a, l, rfl⟩ := List.exists_cons_of_ne_nil h
  rfl

/-- A number that is not zero has no zeros in front. -/
theorem head?_natDigits {n : Nat} (h : n ≠ 0) : (natDigits n).head? ≠ some Digit.zero := by
  induction n using natDigits.induct with
  | case1 n hn =>
    rw [natDigits, dif_pos hn]
    intro hzero
    exact h (congrArg Fin.val (Option.some.inj hzero))
  | case2 n hn ih =>
    rw [natDigits, dif_neg hn, head?_append_of_ne_nil (natDigits_ne_nil _)]
    exact ih (by omega)

/-- Another digit at the end makes a number ten times as large, and adds to it. -/
theorem digitsValue_append (start : Nat) (ds : List Digit) (d : Digit) :
    digitsValue start (ds ++ [d]) = digitsValue start ds * 10 + d.val := by
  rw [digitsValue, List.foldl_append]
  rfl

/-- The digits of a number spell it. -/
theorem digitsValue_natDigits (n : Nat) : digitsValue 0 (natDigits n) = n := by
  induction n using natDigits.induct with
  | case1 n hn =>
    rw [natDigits, dif_pos hn]
    simp [digitsValue]
  | case2 n hn ih =>
    rw [natDigits, dif_neg hn, digitsValue_append, ih]
    simp only [Digit.last]
    omega

namespace Numeral

/-- A numeral as JSON has them: there are digits wherever there may be, and no zeros in front. -/
structure Proper (n : Numeral) : Prop where
  whole_ne_nil : n.whole ≠ []
  unpadded : n.whole.head? = some Digit.zero → n.whole.length ≤ 1
  fraction_ne_nil : ∀ digits, n.fraction = some digits → digits ≠ []

/-- The digits of a natural number do not begin with a zero, unless it is the only one. -/
theorem unpadded_natDigits (n : Nat) :
    (natDigits n).head? = some Digit.zero → (natDigits n).length ≤ 1 := by
  intro hzero
  by_cases h : n = 0
  · subst h
    simp [natDigits]
  · exact absurd hzero (head?_natDigits h)

/-- A natural number is a number that JSON has. -/
theorem proper_ofNat (n : Nat) : (ofNat n).Proper :=
  ⟨natDigits_ne_nil n, unpadded_natDigits n, nofun⟩

/-- A whole number is a number that JSON has. -/
theorem proper_ofInt (n : Int) : (ofInt n).Proper :=
  ⟨natDigits_ne_nil _, unpadded_natDigits _, nofun⟩

/-- However a decimal is laid out, it is a numeral as JSON has them. -/
theorem proper_layout (layout : Decimal.Layout) (negative : Bool) (s : Decimal.Scaled) :
    (layout.numeral negative s).Proper := by
  have hne := natDigits_ne_nil s.digits
  have hsome (l : List Digit) : (if l.isEmpty then [Digit.zero] else l) ≠ [] := by
    cases l <;> simp
  unfold Decimal.Layout.numeral
  dsimp only
  split
  · exact ⟨by simp, fun _ => Nat.le_refl 1, by rintro _ ⟨⟩; simp⟩
  · next hdigits =>
    have hhead := head?_natDigits hdigits
    have htake (k : Nat) (hk : 0 < k) : (natDigits s.digits).take k ≠ [] ∧
        ((natDigits s.digits).take k).head? = (natDigits s.digits).head? := by
      obtain ⟨d, ds, hds⟩ := List.exists_cons_of_ne_nil hne
      obtain ⟨k, rfl⟩ := Nat.exists_eq_succ_of_ne_zero (Nat.ne_of_gt hk)
      rw [hds]
      exact ⟨by simp, by simp⟩
    split
    · split
      · exact ⟨by simp, fun _ => Nat.le_refl 1, by rintro _ ⟨⟩; simp [hne]⟩
      · next hpoint =>
        obtain ⟨hfront, hsame⟩ := htake ((natDigits s.digits).length + s.exponent).toNat (by omega)
        refine ⟨by simp [hfront], fun hzero => ?_, by rintro _ ⟨⟩; exact hsome _⟩
        rw [head?_append_of_ne_nil hfront, hsame] at hzero
        exact absurd hzero hhead
    · obtain ⟨hfront, hsame⟩ := htake 1 Nat.one_pos
      refine ⟨hfront, fun hzero => absurd (hsame.symm.trans hzero) hhead, ?_⟩
      intro digits hfraction
      split at hfraction
      · cases hfraction
      · next hmore =>
        obtain rfl := Option.some.inj hfraction
        simpa using hmore

end Numeral

namespace Json

variable {b : UInt8} {bytes rest : Bytes} {ds : List Digit} {n : Numeral}

/-- What cannot go on with a number: the end, or what separates values. -/
def Ends (rest : Bytes) : Prop := ∀ b ∈ rest.head?, b = 0x2C ∨ b = 0x5D ∨ b = 0x7D

/-- Digits end before what is no digit. -/
def EndsDigits (rest : Bytes) : Prop := ∀ b ∈ rest.head?, Digit.ofByte? b = none

/-- What ends a number ends its digits. -/
theorem Ends.endsDigits (h : Ends rest) : EndsDigits rest := by
  intro b hb
  rcases h b hb with rfl | rfl | rfl <;> rfl

/-- Digits end where something that is not a digit stands. -/
theorem endsDigits_cons (h : Digit.ofByte? b = none) (rest : Bytes) : EndsDigits (b :: rest) := by
  rintro _ ⟨⟩
  exact h

/-- All digits are taken up to where they end. -/
theorem takeDigits_map_byte (ds : List Digit) (h : EndsDigits rest) :
    takeDigits (ds.map Digit.byte ++ rest) = (ds, rest) := by
  induction ds with
  | nil =>
    cases rest with
    | nil => rfl
    | cons b rest =>
      rw [List.map_nil, List.nil_append, takeDigits, h b rfl]
  | cons d ds ih =>
    rw [List.map_cons, List.cons_append, takeDigits, Digit.ofByte?_byte]
    simp only [ih]

/-- At least one digit is found if there is one. -/
theorem someDigits_map_byte (hne : ds ≠ []) (h : EndsDigits rest) :
    someDigits (ds.map Digit.byte ++ rest) = .ok (ds, rest) := by
  obtain ⟨d, ds, rfl⟩ := List.exists_cons_of_ne_nil hne
  rw [someDigits, takeDigits_map_byte _ h]

/-- The whole part of a number is found up to where its digits end. -/
theorem wholeDigits_map_byte (h : n.Proper) (hrest : EndsDigits rest) :
    wholeDigits (n.whole.map Digit.byte ++ rest) = .ok (n.whole, rest) := by
  have hunpadded : ¬(n.whole.head? = some Digit.zero ∧ 1 < n.whole.length) :=
    fun ⟨hzero, hmore⟩ => Nat.not_lt_of_le (h.unpadded hzero) hmore
  rw [wholeDigits, someDigits_map_byte h.whole_ne_nil hrest]
  simp only [bind, Except.bind]
  rw [if_neg hunpadded]
  rfl

/-- The point and the digits after it, as they are written. -/
def fractionBytes : Option (List Digit) → Bytes
  | some digits => 0x2E :: digits.map Digit.byte
  | none => []

/-- The exponent as it is written. -/
def exponentBytes : Option Int → Bytes
  | some e => 0x65 :: Numeral.exponentBytes e
  | none => []

/-- The bytes of a number, part by part. -/
theorem bytes_eq (n : Numeral) : n.bytes = (if n.negative then [0x2D] else []) ++
    (n.whole.map Digit.byte ++ (fractionBytes n.fraction ++ exponentBytes n.exponent)) := by
  rw [Numeral.bytes]
  cases n.fraction <;> cases n.exponent <;> simp [fractionBytes, exponentBytes]

/-- An exponent with a minus sign. -/
theorem exponentPart_minus (rest : Bytes) : exponentPart (0x65 :: 0x2D :: rest) =
    (someDigits rest).map fun (digits, rest) => (some (-(digitsValue 0 digits : Int)), rest) := rfl

/-- An exponent with a plus sign. -/
theorem exponentPart_plus (rest : Bytes) : exponentPart (0x65 :: 0x2B :: rest) =
    (someDigits rest).map fun (digits, rest) => (some (digitsValue 0 digits : Int), rest) := rfl

/-- An exponent that was written, or none, is found in front of what ends a number. -/
theorem exponentPart_exponentBytes (e : Option Int) (h : Ends rest) :
    exponentPart (exponentBytes e ++ rest) = .ok (e, rest) := by
  cases e with
  | none =>
    cases rest with
    | nil => rfl
    | cons b rest => rcases h b rfl with rfl | rfl | rfl <;> rfl
  | some e =>
    have hdigits := someDigits_map_byte (natDigits_ne_nil e.natAbs) h.endsDigits
    rw [exponentBytes, Numeral.exponentBytes, List.cons_append, List.cons_append]
    by_cases hnegative : e < 0
    · have habs : -(e.natAbs : Int) = e := by omega
      rw [if_pos hnegative, exponentPart_minus, hdigits]
      simp only [Except.map, digitsValue_natDigits, habs]
    · have habs : (e.natAbs : Int) = e := by omega
      rw [if_neg hnegative, exponentPart_plus, hdigits]
      simp only [Except.map, digitsValue_natDigits, habs]

/-- An exponent, or what ends a number, ends the digits before it. -/
theorem endsDigits_exponentBytes (e : Option Int) (h : Ends rest) :
    EndsDigits (exponentBytes e ++ rest) := by
  cases e with
  | none => exact h.endsDigits
  | some e => exact endsDigits_cons rfl _

/-- A fraction that was written, or none, is found in front of an exponent. -/
theorem fractionPart_fractionBytes (h : n.Proper) (hrest : Ends rest) :
    fractionPart (fractionBytes n.fraction ++ (exponentBytes n.exponent ++ rest)) =
      .ok (n.fraction, exponentBytes n.exponent ++ rest) := by
  have hends := endsDigits_exponentBytes n.exponent hrest
  cases hfraction : n.fraction with
  | none =>
    rw [fractionBytes, List.nil_append]
    cases n.exponent with
    | none =>
      cases rest with
      | nil => rfl
      | cons b rest =>
        rw [exponentBytes, List.nil_append]
        rcases hrest b rfl with rfl | rfl | rfl <;> rfl
    | some e => rfl
  | some digits =>
    rw [fractionBytes, List.cons_append, fractionPart,
      someDigits_map_byte (h.fraction_ne_nil digits hfraction) hends]
    rfl

/-- A fraction, an exponent, or what ends a number, ends the digits before it. -/
theorem endsDigits_fractionBytes (n : Numeral) (h : Ends rest) :
    EndsDigits (fractionBytes n.fraction ++ (exponentBytes n.exponent ++ rest)) := by
  cases n.fraction with
  | none => exact endsDigits_exponentBytes n.exponent h
  | some digits => exact endsDigits_cons rfl _

/-- What a number is read from behind its sign. -/
def unsigned (negative : Bool) (bytes : Bytes) : Except Bytes (Numeral × Bytes) := do
  let (whole, rest) ← wholeDigits bytes
  let (fraction, rest) ← fractionPart rest
  let (exponent, rest) ← exponentPart rest
  return (⟨negative, whole, fraction, exponent⟩, rest)

/-- A minus sign makes a number negative. -/
theorem numeral_minus (bytes : Bytes) : numeral (0x2D :: bytes) = unsigned true bytes := rfl

/-- Without a minus sign a number is not negative. -/
theorem numeral_of_ne_minus (h : b ≠ 0x2D) (rest : Bytes) :
    numeral (b :: rest) = unsigned false (b :: rest) := by
  rw [numeral]
  · rfl
  · intro _ heq
    exact h (List.cons.inj heq).1

/-- A digit is not a minus sign. -/
theorem byte_ne (d : Digit) : d.byte ≠ 0x2D := by
  revert d
  decide

/-- A number is read back before what cannot go on with it. -/
theorem numeral_bytes (h : n.Proper) (hrest : Ends rest) :
    numeral (n.bytes ++ rest) = .ok (n, rest) := by
  have hunsigned : unsigned n.negative (n.whole.map Digit.byte ++
      (fractionBytes n.fraction ++ (exponentBytes n.exponent ++ rest))) = .ok (n, rest) := by
    rw [unsigned, wholeDigits_map_byte h (endsDigits_fractionBytes n hrest)]
    simp only [bind, Except.bind, fractionPart_fractionBytes h hrest,
      exponentPart_exponentBytes n.exponent hrest]
    rfl
  rw [bytes_eq, List.append_assoc, List.append_assoc, List.append_assoc]
  cases hnegative : n.negative with
  | true =>
    rw [if_pos rfl, List.singleton_append, numeral_minus, ← hnegative]
    exact hunsigned
  | false =>
    obtain ⟨d, ds, hds⟩ := List.exists_cons_of_ne_nil h.whole_ne_nil
    rw [hnegative] at hunsigned
    rw [if_neg Bool.false_ne_true, List.nil_append, hds, List.map_cons, List.cons_append,
      numeral_of_ne_minus (byte_ne d)]
    rwa [hds] at hunsigned

/-! ## Strings -/

/-- A piece that can stand in a string. -/
def Piece.Proper : Piece → Prop
  | .byte b => ¬(b < 0x20 ∨ b = 0x5C) ∧ b ≠ 0x22
  | .short letter value => (letter, value) ∈ shortEscapes
  | .unit _ => True

/-- Every byte can stand in a text, if need be by its escape. -/
theorem Piece.proper_ofByte (b : UInt8) : (Piece.ofByte b).Proper := by
  unfold Piece.ofByte
  split
  · next hspecial =>
    rcases hspecial with rfl | rfl | rfl | rfl | rfl | rfl | rfl <;>
      simp [shortEscapes, Piece.Proper]
  · next hspecial =>
    rw [not_or] at hspecial
    split
    · trivial
    · next hcontrol =>
      refine ⟨?_, hspecial.1⟩
      rintro (hlow | rfl)
      · exact hcontrol hlow
      · exact hspecial.2 (.inl rfl)

/-- The value of a written hexadecimal digit. -/
theorem hexValue?_hexByte {n : Nat} (h : n < 16) : hexValue? (hexByte n) = some n := by
  have hall : ∀ n : Fin 16, hexValue? (hexByte n) = some n.val := by decide
  exact hall ⟨n, h⟩

/-- A unit is read back from its digits. -/
theorem hexUnit?_hexByte (u : UInt16) :
    hexUnit? (hexByte (u.toNat / 4096)) (hexByte (u.toNat / 256 % 16))
      (hexByte (u.toNat / 16 % 16)) (hexByte (u.toNat % 16)) = some u := by
  have hu := u.toNat_lt
  have hsum : ((u.toNat / 4096 * 16 + u.toNat / 256 % 16) * 16 + u.toNat / 16 % 16) * 16
      + u.toNat % 16 = u.toNat := by omega
  rw [hexUnit?, hexValue?_hexByte (by omega), hexValue?_hexByte (by omega),
    hexValue?_hexByte (by omega), hexValue?_hexByte (by omega)]
  simp only [Option.bind_eq_bind, Option.bind_some, hsum]
  exact congrArg some (UInt16.ofNat_toNat)

/-- A short escape is found by its letter, which is not the letter of the long ones. -/
theorem find?_of_mem_shortEscapes {letter value : UInt8} (h : (letter, value) ∈ shortEscapes) :
    letter ≠ 0x75 ∧ shortEscapes.find? (·.1 = letter) = some (letter, value) := by
  simp only [shortEscapes, List.mem_cons, Prod.mk.injEq, List.not_mem_nil, or_false] at h
  rcases h with ⟨rfl, rfl⟩ | ⟨rfl, rfl⟩ | ⟨rfl, rfl⟩ | ⟨rfl, rfl⟩ | ⟨rfl, rfl⟩ | ⟨rfl, rfl⟩ |
    ⟨rfl, rfl⟩ | ⟨rfl, rfl⟩ <;> decide

/-- A piece of a text is read off its front. -/
theorem textBody_piece {p : Piece} (h : p.Proper) (rest : Bytes) :
    textBody (p.write ++ rest) = (textBody rest).map fun (t, rest) => (p :: t, rest) := by
  cases p with
  | byte b =>
    obtain ⟨hplain, hquote⟩ := h
    rw [Piece.write, List.singleton_append, textBody, if_neg hplain]
    · exact hquote
    · exact fun _ _ _ _ _ hb _ => hplain (.inr hb)
    · exact fun _ _ hb _ => hplain (.inr hb)
  | short letter value =>
    obtain ⟨hletter, hfind⟩ := find?_of_mem_shortEscapes h
    rw [Piece.write, List.cons_append, List.singleton_append, textBody, hfind]
    exact fun _ _ _ _ _ hb _ => hletter hb
  | unit u =>
    rw [Piece.write]
    simp only [List.cons_append, List.nil_append]
    rw [textBody, hexUnit?_hexByte]

/-- The pieces of a string are read back up to its closing quote. -/
theorem textBody_write {t : Text} (h : ∀ p ∈ t, p.Proper) (rest : Bytes) :
    textBody (t.flatMap Piece.write ++ 0x22 :: rest) = .ok (t, rest) := by
  induction t with
  | nil => rw [List.flatMap_nil, List.nil_append, textBody]
  | cons p t ih =>
    rw [List.flatMap_cons, List.append_assoc, textBody_piece (h p List.mem_cons_self),
      ih fun q hq => h q (List.mem_cons_of_mem p hq)]
    rfl

/-! ## Values -/

/-- A string that is written as JSON has them. -/
def Text.Proper (t : Text) : Prop := ∀ p ∈ t, p.Proper

/-- Every string is a text that JSON has. -/
theorem Text.proper_ofString (s : String) : (Text.ofString s).Proper := by
  intro p hp
  obtain ⟨b, -, rfl⟩ := List.mem_map.mp hp
  exact Piece.proper_ofByte b

/-- A value whose numbers and strings are as JSON has them. -/
inductive Value.Proper : Value → Prop
  | null : Proper .null
  | bool (b : Bool) : Proper (.bool b)
  | number {n : Numeral} : n.Proper → Proper (.number n)
  | text {t : Text} : t.Proper → Proper (.text t)
  | list {items : List Value} : (∀ v ∈ items, Proper v) → Proper (.list items)
  | record {fields : List (Text × Value)} :
      (∀ f ∈ fields, f.1.Proper) → (∀ f ∈ fields, Proper f.2) → Proper (.record fields)

/-- Whether the end of a value can be told from what follows it. -/
def Value.Bounded (v : Value) (rest : Bytes) : Prop := ∀ n, v = .number n → Ends rest

/-- A text that is written stands between its quotes. -/
theorem Text.write_append (t : Text) (rest : Bytes) :
    t.write ++ rest = 0x22 :: (t.flatMap Piece.write ++ 0x22 :: rest) := by
  simp [Text.write]

/-- A number cannot be taken for a blank or for the beginning of another value. -/
theorem digit_head (d : Digit) : isBlank d.byte = false ∧
    d.byte ∉ [0x22, 0x5B, 0x7B, 0x6E, 0x74, 0x66, 0x5D] := by
  revert d
  decide

/-- The first byte of a numeral is that of no other value. -/
theorem head_bytes (h : n.Proper) : ∃ b more, n.bytes = b :: more ∧ isBlank b = false ∧
    b ∉ [0x22, 0x5B, 0x7B, 0x6E, 0x74, 0x66, 0x5D] := by
  rw [bytes_eq]
  cases n.negative with
  | true => exact ⟨_, _, rfl, by decide⟩
  | false =>
    obtain ⟨d, ds, hds⟩ := List.exists_cons_of_ne_nil h.whole_ne_nil
    rw [hds]
    exact ⟨_, _, rfl, digit_head d⟩

/-- A value begins with something that is neither a blank nor the end of a list. -/
theorem Value.Proper.head {v : Value} (h : v.Proper) :
    ∃ b more, v.write = b :: more ∧ isBlank b = false ∧ b ≠ 0x5D := by
  cases h with
  | null => exact ⟨_, _, rfl, by decide⟩
  | bool b => cases b <;> exact ⟨_, _, rfl, by decide⟩
  | number hn =>
    obtain ⟨b, more, hbytes, hblank, hb⟩ := head_bytes hn
    exact ⟨b, more, hbytes, hblank, fun heq => hb (by simp [heq])⟩
  | text => exact ⟨_, _, rfl, by decide⟩
  | list => exact ⟨_, _, rfl, by decide⟩
  | record => exact ⟨_, _, rfl, by decide⟩

/-- There are no blanks to skip in front of something else. -/
theorem skipBlanks_cons (h : isBlank b = false) (rest : Bytes) :
    skipBlanks (b :: rest) = b :: rest := by
  simp [skipBlanks, h]

/-- What follows a value within a list or a record ends a number. -/
theorem ends_cons (h : b = 0x2C ∨ b = 0x5D ∨ b = 0x7D) (rest : Bytes) : Ends (b :: rest) := by
  rintro _ ⟨⟩
  exact h

/-- What is read back with some fuel: values, the items of a list behind its bracket, and the
fields of a record behind its brace. -/
structure ReadsBack (fuel : Nat) : Prop where
  value : ∀ (v : Value) (rest : Bytes), v.Proper → v.Bounded rest → v.write.length < fuel →
    Json.value fuel (v.write ++ rest) = .ok (v, rest)
  items : ∀ (v : Value) (vs : List Value) (rest : Bytes), (∀ w ∈ v :: vs, w.Proper) →
    (writeItems (v :: vs)).length + 1 < fuel →
    Json.items fuel (writeItems (v :: vs) ++ 0x5D :: rest) = .ok (v :: vs, rest)
  fields : ∀ (f : Text × Value) (fs : List (Text × Value)) (rest : Bytes),
    (∀ g ∈ f :: fs, g.1.Proper) → (∀ g ∈ f :: fs, g.2.Proper) →
    (writeFields (f :: fs)).length + 1 < fuel →
    Json.fields fuel (writeFields (f :: fs) ++ 0x7D :: rest) = .ok (f :: fs, rest)

variable {fuel : Nat}

/-- A number is read back in front of what ends it. -/
theorem value_number (h : n.Proper) (hrest : Ends rest) :
    Json.value (fuel + 1) (n.bytes ++ rest) = .ok (.number n, rest) := by
  have hread := numeral_bytes h hrest
  obtain ⟨b, more, hbytes, hblank, hb⟩ := head_bytes h
  simp only [List.mem_cons, List.not_mem_nil, or_false, not_or] at hb
  obtain ⟨h22, h5B, h7B, h6E, h74, h66, -⟩ := hb
  rw [hbytes, List.cons_append] at hread ⊢
  rw [Json.value, skipBlanks_cons hblank]
  split
  · next heq => cases heq
  · next heq => exact absurd (List.cons.inj heq).1 h22
  · next heq => exact absurd (List.cons.inj heq).1 h5B
  · next heq => exact absurd (List.cons.inj heq).1 h7B
  · next heq => exact absurd (List.cons.inj heq).1 h6E
  · next heq => exact absurd (List.cons.inj heq).1 h74
  · next heq => exact absurd (List.cons.inj heq).1 h66
  · rw [hread]
    rfl

/-- A word is read back. -/
theorem word_append (spelled : List Char) (v : Value) (rest : Bytes) :
    word spelled v (spelled.map ascii ++ rest) = .ok (v, rest) := by
  have hprefix : (spelled.map ascii).isPrefixOf (spelled.map ascii ++ rest) = true :=
    List.isPrefixOf_iff_prefix.mpr (List.prefix_append _ _)
  have hspelled : (spelled.map fun c => UInt8.ofNat c.toNat) = spelled.map ascii := rfl
  rw [word, hspelled, if_pos hprefix, List.drop_left]

/-- The word for nothing is read back. -/
theorem value_null (rest : Bytes) :
    Json.value (fuel + 1) (Value.null.write ++ rest) = .ok (.null, rest) :=
  word_append "null".toList .null rest

/-- The words for the two truth values are read back. -/
theorem value_bool (b : Bool) (rest : Bytes) :
    Json.value (fuel + 1) ((Value.bool b).write ++ rest) = .ok (.bool b, rest) := by
  cases b with
  | true => exact word_append "true".toList (.bool true) rest
  | false => exact word_append "false".toList (.bool false) rest

/-- A quote begins a text. -/
theorem value_quote (rest : Bytes) : Json.value (fuel + 1) (0x22 :: rest) =
    (textBody rest).map fun (t, rest) => (.text t, rest) := rfl

/-- A bracket that is not closed at once begins the items of a list. -/
theorem value_bracket (hblank : isBlank b = false) (hb : b ≠ 0x5D) (rest : Bytes) :
    Json.value (fuel + 1) (0x5B :: b :: rest) =
      (Json.items fuel (b :: rest)).map fun (vs, rest) => (.list vs, rest) := by
  have hopen : isBlank 0x5B = false := rfl
  simp only [Json.value, skipBlanks_cons hopen, skipBlanks_cons hblank]
  split
  · next heq => exact absurd (List.cons.inj heq).1 hb
  · rfl

/-- A brace with a name behind it begins the fields of a record. -/
theorem value_brace (rest : Bytes) : Json.value (fuel + 1) (0x7B :: 0x22 :: rest) =
    (Json.fields fuel (0x22 :: rest)).map fun (fs, rest) => (.record fs, rest) := rfl

/-- Items stand between commas. -/
theorem writeItems_cons (v w : Value) (vs : List Value) :
    writeItems (v :: w :: vs) = v.write ++ 0x2C :: writeItems (w :: vs) := by
  rw [writeItems]
  nofun

/-- Fields stand between commas. -/
theorem writeFields_cons (f g : Text × Value) (fs : List (Text × Value)) :
    writeFields (f :: g :: fs) =
      f.1.write ++ 0x3A :: f.2.write ++ 0x2C :: writeFields (g :: fs) := by
  rw [writeFields]
  nofun

/-- A list is read back if its items are, with less fuel. -/
theorem ReadsBack.list (h : ReadsBack fuel) {vs : List Value} (hproper : ∀ v ∈ vs, v.Proper)
    (hfuel : (Value.list vs).write.length < fuel + 1) (rest : Bytes) :
    Json.value (fuel + 1) ((Value.list vs).write ++ rest) = .ok (.list vs, rest) := by
  cases vs with
  | nil => rfl
  | cons v vs =>
    obtain ⟨b, more, hbytes, hblank, hb⟩ := (hproper v List.mem_cons_self).head
    have hhead : ∃ others, writeItems (v :: vs) ++ 0x5D :: rest = b :: others := by
      cases vs with
      | nil => exact ⟨_, by rw [writeItems, hbytes]; rfl⟩
      | cons w vs => exact ⟨_, by rw [writeItems_cons, hbytes]; rfl⟩
    obtain ⟨others, hothers⟩ := hhead
    rw [Value.write, List.length_append, List.length_singleton, List.length_cons] at hfuel
    have hitems := h.items v vs rest hproper (by omega)
    rw [Value.write, List.append_assoc, List.cons_append, List.singleton_append, hothers,
      value_bracket hblank hb, ← hothers, hitems]
    rfl

/-- A record is read back if its fields are. -/
theorem ReadsBack.record (h : ReadsBack fuel) {fs : List (Text × Value)}
    (hnames : ∀ f ∈ fs, f.1.Proper) (hproper : ∀ f ∈ fs, f.2.Proper)
    (hfuel : (Value.record fs).write.length < fuel + 1) (rest : Bytes) :
    Json.value (fuel + 1) ((Value.record fs).write ++ rest) = .ok (.record fs, rest) := by
  cases fs with
  | nil => rfl
  | cons f fs =>
    have hhead : ∃ others, writeFields (f :: fs) ++ 0x7D :: rest = 0x22 :: others := by
      cases fs with
      | nil => exact ⟨_, rfl⟩
      | cons g fs => exact ⟨_, by rw [writeFields_cons]; rfl⟩
    obtain ⟨others, hothers⟩ := hhead
    rw [Value.write, List.length_append, List.length_singleton, List.length_cons] at hfuel
    have hfields := h.fields f fs rest hnames hproper (by omega)
    rw [Value.write, List.append_assoc, List.cons_append, List.singleton_append, hothers,
      value_brace, ← hothers, hfields]
    rfl

/-- With a unit more of fuel, one more level of values is read back. -/
theorem ReadsBack.value_succ (h : ReadsBack fuel) {v : Value} (hproper : v.Proper)
    (hbounded : v.Bounded rest) (hfuel : v.write.length < fuel + 1) :
    Json.value (fuel + 1) (v.write ++ rest) = .ok (v, rest) := by
  cases hproper with
  | null => exact value_null rest
  | bool b => exact value_bool b rest
  | number hn => exact value_number hn (hbounded _ rfl)
  | @text t ht =>
    rw [Value.write, Text.write_append, value_quote, textBody_write ht]
    rfl
  | list hitems => exact h.list hitems hfuel rest
  | record hnames hfields => exact h.record hnames hfields hfuel rest

/-- With a unit more of fuel, the items of one more level are read back: the first, and then the
rest of them. -/
theorem ReadsBack.items_succ (h : ReadsBack fuel) (v : Value) (vs : List Value)
    (hproper : ∀ w ∈ v :: vs, w.Proper) (hfuel : (writeItems (v :: vs)).length + 1 < fuel + 1)
    (rest : Bytes) :
    Json.items (fuel + 1) (writeItems (v :: vs) ++ 0x5D :: rest) = .ok (v :: vs, rest) := by
  cases vs with
  | nil =>
    have hv := h.value v (0x5D :: rest) (hproper v List.mem_cons_self)
      (fun _ _ => ends_cons (.inr (.inl rfl)) rest) (by simpa [writeItems] using hfuel)
    rw [writeItems, Json.items, hv]
    rfl
  | cons w vs =>
    rw [writeItems_cons] at hfuel ⊢
    simp only [List.length_append, List.length_cons] at hfuel
    have hv := h.value v (0x2C :: (writeItems (w :: vs) ++ 0x5D :: rest))
      (hproper v List.mem_cons_self) (fun _ _ => ends_cons (.inl rfl) _) (by omega)
    have hvs := h.items w vs rest (fun x hx => hproper x (List.mem_cons_of_mem v hx)) (by omega)
    rw [List.append_assoc, List.cons_append, Json.items, hv]
    simp only [bind, Except.bind]
    rw [skipBlanks_cons (by decide)]
    exact congrArg (Except.map fun (vs, rest) => (v :: vs, rest)) hvs

/-- A field is a name, a colon and a value; a comma tells that there is another one. -/
theorem fields_quote {t : Text} (h : t.Proper) (rest : Bytes) :
    Json.fields (fuel + 1) (t.write ++ 0x3A :: rest) = (do
      let (v, rest) ← Json.value fuel rest
      match skipBlanks rest with
      | 0x2C :: rest => (Json.fields fuel rest).map fun (fs, rest) => ((t, v) :: fs, rest)
      | 0x7D :: rest => return ([(t, v)], rest)
      | rest => throw rest) := by
  rw [Text.write_append, Json.fields, skipBlanks_cons (by decide)]
  simp only [textBody_write h, bind, Except.bind]
  rfl

/-- With a unit more of fuel, the fields of one more level are read back. -/
theorem ReadsBack.fields_succ (h : ReadsBack fuel) (f : Text × Value) (fs : List (Text × Value))
    (hnames : ∀ g ∈ f :: fs, g.1.Proper) (hproper : ∀ g ∈ f :: fs, g.2.Proper)
    (hfuel : (writeFields (f :: fs)).length + 1 < fuel + 1) (rest : Bytes) :
    Json.fields (fuel + 1) (writeFields (f :: fs) ++ 0x7D :: rest) = .ok (f :: fs, rest) := by
  obtain ⟨t, v⟩ := f
  have ht : t.Proper := hnames (t, v) List.mem_cons_self
  have hv : v.Proper := hproper (t, v) List.mem_cons_self
  cases fs with
  | nil =>
    rw [writeFields] at hfuel ⊢
    simp only [List.length_append, List.length_cons] at hfuel
    rw [List.append_assoc, List.cons_append, fields_quote ht,
      h.value v (0x7D :: rest) hv (fun _ _ => ends_cons (.inr (.inr rfl)) rest) (by omega)]
    rfl
  | cons g fs =>
    rw [writeFields_cons] at hfuel ⊢
    simp only [List.length_append, List.length_cons] at hfuel
    have hfs := h.fields g fs rest (fun x hx => hnames x (List.mem_cons_of_mem _ hx))
      (fun x hx => hproper x (List.mem_cons_of_mem _ hx)) (by omega)
    rw [List.append_assoc, List.append_assoc, List.cons_append, fields_quote ht, List.cons_append,
      h.value v _ hv (fun _ _ => ends_cons (.inl rfl) _) (by omega)]
    simp only [bind, Except.bind]
    rw [skipBlanks_cons (by decide)]
    exact congrArg (Except.map fun (fs, rest) => ((t, v) :: fs, rest)) hfs

/-- Everything is read back with as much fuel as it is long. -/
theorem readsBack (fuel : Nat) : ReadsBack fuel := by
  induction fuel with
  | zero => exact ⟨fun _ _ _ _ h => absurd h (Nat.not_lt_zero _),
      fun _ _ _ _ h => absurd h (Nat.not_lt_zero _),
      fun _ _ _ _ _ h => absurd h (Nat.not_lt_zero _)⟩
  | succ fuel ih =>
    exact ⟨fun _ _ hproper hbounded hfuel => ih.value_succ hproper hbounded hfuel,
      fun v vs rest hproper hfuel => ih.items_succ v vs hproper hfuel rest,
      fun f fs rest hnames hproper hfuel => ih.fields_succ f fs hnames hproper hfuel rest⟩

/-- A value is taken off the front of a text, and what follows it is left. -/
theorem front_write_append {v : Value} (hproper : v.Proper) (hbounded : v.Bounded rest) :
    Json.front (v.write ++ rest) = .ok (v, rest) := by
  have hfuel : v.write.length < (v.write ++ rest).length + 1 := by
    rw [List.length_append]
    omega
  exact (readsBack _).value v rest hproper hbounded hfuel

end Json

namespace JsonForm

open Json (Value)

/-- Every fractional number, the infinities included, has a value that JSON has. -/
theorem proper_ofFloat (x : Binary64) : (ofFloat x).Proper := by
  unfold ofFloat
  split
  · exact .number (Numeral.proper_layout _ _ _)
  · exact .null

/-- Every text has a value that JSON has. -/
theorem proper_ofString (s : String) : (Value.ofString s).Proper :=
  .text (Json.Text.proper_ofString s)

/-- Every argument has a value that JSON has. -/
theorem proper_ofArgument (s : Shape) (v : s.Value) : (ofArgument s v).Proper := by
  induction s with
  | unsigned w => exact .number (Numeral.proper_ofNat _)
  | signed w => exact .number (Numeral.proper_ofInt _)
  | bool => exact .bool v
  | char => exact proper_ofString _
  | unit => exact .null
  | float => exact proper_ofFloat v
  | text => exact proper_ofString v
  | priority => exact proper_ofString _
  | list item ih =>
    refine .list fun w hw => ?_
    obtain ⟨u, -, rfl⟩ := List.mem_map.mp hw
    exact ih u
  | option item ih =>
    cases v with
    | none => exact .null
    | some v => exact ih v
  | pair first second ihFirst ihSecond =>
    refine .list fun w hw => ?_
    simp only [List.mem_cons, List.not_mem_nil, or_false] at hw
    rcases hw with rfl | rfl
    · exact ihFirst v.1
    · exact ihSecond v.2

end JsonForm
end Courier
