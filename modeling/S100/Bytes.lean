/-!
# Byte strings

Memories, diskettes and files all hold bytes in a row. What they share is
*overlaying*: writing one string over another from an offset, without
making it longer. What would land past the end is dropped.

The two main statements give the view of an overlaid string:
`size_overlay` (its length stays) and `getElem_overlay` (each byte is the
new one where the new string reaches, the old one elsewhere).
-/

namespace S100

abbrev Bytes := Array UInt8

/-- `old` with `new` written over it from `offset`, clipped at the end of
`old`. -/
def overlay (old : Bytes) (offset : Nat) (new : Bytes) : Bytes :=
  old.extract 0 offset ++ new.extract 0 (old.size - offset)
    ++ old.extract (offset + new.size) old.size

@[simp] theorem size_overlay (old : Bytes) (offset : Nat) (new : Bytes) :
    (overlay old offset new).size = old.size := by
  simp only [overlay, Array.size_append, Array.size_extract]
  omega

theorem getElem_overlay (old : Bytes) (offset : Nat) (new : Bytes) (i : Nat)
    (h : i < old.size) (h' : i < (overlay old offset new).size) :
    (overlay old offset new)[i] =
      if hi : offset ≤ i ∧ i < offset + new.size then new[i - offset]
      else old[i] := by
  simp only [overlay, Array.getElem_append, Array.size_append,
    Array.size_extract, Array.getElem_extract]
  split
  · split
    · rw [dif_neg (by omega)]
      simp
    · rw [dif_pos (by omega)]
      congr 1
      omega
  · rw [dif_neg (by omega)]
    congr 1
    omega

/-- The byte at `i`, or 0 past the end. -/
def byteAt (bytes : Bytes) (i : Nat) : UInt8 :=
  bytes[i]?.getD 0

theorem byteAt_of_lt {bytes : Bytes} {i : Nat} (h : i < bytes.size) :
    byteAt bytes i = bytes[i] := by
  simp [byteAt, h]

theorem byteAt_of_le {bytes : Bytes} {i : Nat} (h : bytes.size ≤ i) :
    byteAt bytes i = 0 := by
  simp [byteAt, h]

theorem byteAt_overlay (old : Bytes) (offset : Nat) (new : Bytes) (i : Nat) :
    byteAt (overlay old offset new) i =
      if i < old.size ∧ offset ≤ i ∧ i < offset + new.size then
        byteAt new (i - offset)
      else byteAt old i := by
  by_cases h : i < old.size
  · have h' : i < (overlay old offset new).size := by simpa using h
    rw [byteAt_of_lt h', getElem_overlay _ _ _ _ h, byteAt_of_lt h]
    by_cases hi : offset ≤ i ∧ i < offset + new.size
    · rw [dif_pos hi, if_pos ⟨h, hi⟩, byteAt_of_lt (by omega)]
    · rw [dif_neg hi, if_neg (fun c => hi c.2)]
  · rw [if_neg (fun c => h c.1), byteAt_of_le (by simpa using h),
      byteAt_of_le (by omega)]

end S100
