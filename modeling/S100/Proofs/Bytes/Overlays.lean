import S100.Bytes

/-!
# Overlays

Laying a byte string over another comes to the same as storing its bytes one
after the other, if the offset goes along (`overlay_nil`, `overlay_cons`).
What lies inside the old string can be read back, byte by byte and in one
piece (`getElem?_overlay`, `extract_overlay`).
-/

namespace S100

theorem overlay_nil (old : Bytes) (offset : Nat) :
    overlay old offset #[] = old := by
  refine Array.ext (size_overlay ..) fun k h h' => ?_
  rw [getElem_overlay _ _ _ _ h', dif_neg]
  simp only [Array.size_empty]
  omega

theorem overlay_cons (old : Bytes) (offset : Nat) (value : UInt8)
    (rest : List UInt8) :
    overlay (old.setIfInBounds offset value) (offset + 1) rest.toArray =
      overlay old offset (value :: rest).toArray := by
  refine Array.ext (by simp) fun k hk hk' => ?_
  have hsize : k < old.size := by simpa using hk'
  rw [getElem_overlay _ _ _ _ (by simpa using hsize),
    getElem_overlay _ _ _ _ hsize]
  simp only [List.size_toArray, List.length_cons]
  by_cases hrest : offset + 1 ≤ k ∧ k < offset + 1 + rest.length
  · rw [dif_pos hrest, dif_pos (by omega)]
    have hk : k - offset = k - (offset + 1) + 1 := by omega
    simp only [List.getElem_toArray, hk, List.getElem_cons_succ]
  · rw [dif_neg hrest]
    by_cases hfirst : offset = k
    · subst hfirst
      rw [dif_pos (by omega)]
      simp
    · rw [dif_neg (by omega)]
      exact Array.getElem_setIfInBounds_ne hsize hfirst

theorem getElem?_overlay (old : Bytes) (offset k : Nat) (new : Bytes)
    (hfits : offset + new.size ≤ old.size) :
    (overlay old offset new)[k]? =
      if offset ≤ k ∧ k < offset + new.size then new[k - offset]?
      else old[k]? := by
  by_cases hk : k < old.size
  · have hk' : k < (overlay old offset new).size := by
      rwa [size_overlay]
    rw [Array.getElem?_eq_getElem hk', getElem_overlay _ _ _ _ hk]
    split
    · rw [Array.getElem?_eq_getElem]
    · exact (Array.getElem?_eq_getElem hk).symm
  · rw [if_neg (by omega), Array.getElem?_eq_none (by rw [size_overlay]; omega),
      Array.getElem?_eq_none (by omega)]

theorem extract_overlay (old : Bytes) (offset : Nat) (new : Bytes)
    (hfits : offset + new.size ≤ old.size) :
    (overlay old offset new).extract offset (offset + new.size) = new := by
  have hsize : (overlay old offset new).size = old.size := size_overlay ..
  refine Array.ext ?_ fun k hk hk' => ?_
  · rw [Array.size_extract]
    omega
  · rw [Array.getElem_extract, getElem_overlay _ _ _ _ (by omega),
      dif_pos (by omega)]
    simp only [Nat.add_sub_cancel_left]

end S100
