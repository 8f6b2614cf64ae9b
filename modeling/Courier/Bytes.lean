/-!
# Bytes and big-endian words

Everything on the wire is a list of bytes. A 16-bit word travels as its high byte
followed by its low byte.
-/

namespace Courier

/-- A run of bytes, in the order in which they travel. -/
abbrev Bytes := List UInt8

/-- The more significant byte of a word. -/
def highByte (word : UInt16) : UInt8 := UInt8.ofNat (word.toNat / 256)

/-- The less significant byte of a word. -/
def lowByte (word : UInt16) : UInt8 := UInt8.ofNat (word.toNat % 256)

/-- The word that two bytes spell, the more significant one first. -/
def word16 (high low : UInt8) : UInt16 := UInt16.ofNat (high.toNat * 256 + low.toNat)

theorem highByte_word16 (high low : UInt8) : highByte (word16 high low) = high := by
  have hh := high.toNat_lt
  have hl := low.toNat_lt
  apply UInt8.toNat_inj.1
  simp only [highByte, word16, UInt16.toNat_ofNat', UInt8.toNat_ofNat']
  omega

theorem lowByte_word16 (high low : UInt8) : lowByte (word16 high low) = low := by
  have hh := high.toNat_lt
  have hl := low.toNat_lt
  apply UInt8.toNat_inj.1
  simp only [lowByte, word16, UInt16.toNat_ofNat', UInt8.toNat_ofNat']
  omega

theorem word16_highByte_lowByte (word : UInt16) : word16 (highByte word) (lowByte word) = word := by
  have hw := word.toNat_lt
  apply UInt16.toNat_inj.1
  simp only [highByte, lowByte, word16, UInt16.toNat_ofNat', UInt8.toNat_ofNat']
  omega

/-- A word as it travels. -/
def wordBytes (word : UInt16) : Bytes := [highByte word, lowByte word]

@[simp] theorem length_wordBytes (word : UInt16) : (wordBytes word).length = 2 := rfl

end Courier
