/-!
# Bytes and words

The processor moves bytes and pairs of bytes. A *word* is a pair, written
with its high byte first; this file takes words apart and puts them
together again, and says that the two undo each other:

- `highByte_word`, `lowByte_word`: a word has the bytes it was made of;
- `word_bytes`: a word is made of its bytes.

`forall_byte` reduces a statement about every byte to 256 cases.
-/

namespace S100

/-- The word with the given high and low bytes. -/
def word (high low : UInt8) : UInt16 :=
  UInt16.ofNat (high.toNat * 256 + low.toNat)

/-- Bits 15 to 8. -/
def highByte (w : UInt16) : UInt8 :=
  UInt8.ofNat (w.toNat / 256)

/-- Bits 7 to 0. -/
def lowByte (w : UInt16) : UInt8 :=
  UInt8.ofNat w.toNat

@[simp] theorem toNat_word (high low : UInt8) :
    (word high low).toNat = high.toNat * 256 + low.toNat := by
  have hh := high.toNat_lt
  have hl := low.toNat_lt
  simp only [word, UInt16.toNat_ofNat']
  omega

@[simp] theorem toNat_highByte (w : UInt16) :
    (highByte w).toNat = w.toNat / 256 := by
  have := w.toNat_lt
  simp only [highByte, UInt8.toNat_ofNat']
  omega

@[simp] theorem toNat_lowByte (w : UInt16) :
    (lowByte w).toNat = w.toNat % 256 := by
  simp [lowByte]

@[simp] theorem highByte_word (high low : UInt8) :
    highByte (word high low) = high := by
  have := low.toNat_lt
  apply UInt8.toNat_inj.mp
  simp only [toNat_highByte, toNat_word]
  omega

@[simp] theorem lowByte_word (high low : UInt8) :
    lowByte (word high low) = low := by
  have := low.toNat_lt
  apply UInt8.toNat_inj.mp
  simp only [toNat_lowByte, toNat_word]
  omega

@[simp] theorem word_bytes (w : UInt16) :
    word (highByte w) (lowByte w) = w := by
  apply UInt16.toNat_inj.mp
  simp only [toNat_word, toNat_highByte, toNat_lowByte]
  omega

theorem lowByte_eq_toUInt8 (w : UInt16) : lowByte w = w.toUInt8 := by
  apply UInt8.toNat_inj.mp
  rw [toNat_lowByte, UInt16.toNat_toUInt8]

theorem highByte_eq_toUInt8 (w : UInt16) :
    highByte w = (w >>> 8).toUInt8 := by
  have hw := w.toNat_lt
  have hshift : (w >>> 8).toNat = w.toNat / 256 := by
    rw [UInt16.toNat_shiftRight, Nat.shiftRight_eq_div_pow]
    rfl
  apply UInt8.toNat_inj.mp
  rw [toNat_highByte, UInt16.toNat_toUInt8, hshift]
  omega

theorem forall_byte {P : UInt8 → Prop}
    (h : ∀ n < 256, P (UInt8.ofNat n)) (b : UInt8) : P b := by
  simpa using h b.toNat b.toNat_lt

end S100
