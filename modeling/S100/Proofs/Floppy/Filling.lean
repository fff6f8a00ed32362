import S100.Floppy.Diskette
import S100.Proofs.Bytes.Overlays

/-!
# Filling a diskette byte by byte

A sector reaches a diskette one byte after the other. `fill` is that, and
on a diskette that can be written it comes to the same as laying the bytes
over the image in one piece (`fill_eq_overlay`). What is read afterwards
are the bytes filled in, and everywhere else what was there before
(`read_fill`).
-/

namespace S100

/-! ## Filling -/

namespace Diskette

/-- Store bytes one after the other, from an offset on. -/
def fill (x : Diskette) (offset : Nat) : List UInt8 → Diskette
  | [] => x
  | value :: rest => (x.write offset value).fill (offset + 1) rest

@[simp] theorem fill_nil (x : Diskette) (offset : Nat) :
    x.fill offset [] = x := rfl

theorem fill_append (x : Diskette) (offset : Nat)
    (first rest : List UInt8) :
    x.fill offset (first ++ rest) =
      (x.fill offset first).fill (offset + first.length) rest := by
  induction first generalizing x offset with
  | nil => rfl
  | cons value first ih =>
      refine (ih _ _).trans ?_
      rw [List.length_cons, Nat.add_assoc, Nat.add_comm 1]
      rfl

theorem fill_concat (x : Diskette) (offset : Nat) (data : List UInt8)
    (value : UInt8) :
    x.fill offset (data ++ [value]) =
      (x.fill offset data).write (offset + data.length) value :=
  x.fill_append offset data [value]

@[simp] theorem writeProtected_write (x : Diskette) (offset : Nat)
    (value : UInt8) :
    (x.write offset value).writeProtected = x.writeProtected := by
  unfold write
  split <;> rfl

@[simp] theorem file_write (x : Diskette) (offset : Nat) (value : UInt8) :
    (x.write offset value).file = x.file := by
  unfold write
  split <;> rfl

@[simp] theorem writeProtected_fill (x : Diskette) (offset : Nat)
    (data : List UInt8) :
    (x.fill offset data).writeProtected = x.writeProtected := by
  induction data generalizing x offset with
  | nil => rfl
  | cons value rest ih => exact (ih _ _).trans (writeProtected_write ..)

@[simp] theorem file_fill (x : Diskette) (offset : Nat)
    (data : List UInt8) : (x.fill offset data).file = x.file := by
  induction data generalizing x offset with
  | nil => rfl
  | cons value rest ih => exact (ih _ _).trans (file_write ..)

@[simp] theorem size_fill (x : Diskette) (offset : Nat)
    (data : List UInt8) : (x.fill offset data).size = x.size := by
  induction data generalizing x offset with
  | nil => rfl
  | cons value rest ih => exact (ih _ _).trans (size_write ..)

theorem fill_eq_overlay (x : Diskette) (offset : Nat) (data : List UInt8)
    (hwritable : x.writeProtected = false) :
    x.fill offset data =
      { x with bytes := overlay x.bytes offset data.toArray } := by
  induction data generalizing x offset with
  | nil =>
      rw [show ([] : List UInt8).toArray = #[] from rfl, overlay_nil]
      rfl
  | cons value rest ih =>
      refine (ih _ _ (by rwa [writeProtected_write])).trans ?_
      rw [← overlay_cons]
      simp only [write, hwritable, Bool.false_eq_true, if_false]

/-- The bytes filled in are there to be read, and all others as before. -/
theorem read_fill (x : Diskette) (offset k : Nat) (data : List UInt8)
    (hwritable : x.writeProtected = false)
    (hfits : offset + data.length ≤ x.size) :
    (x.fill offset data).read k =
      if offset ≤ k ∧ k < offset + data.length then data[k - offset]?
      else x.read k := by
  rw [fill_eq_overlay x offset data hwritable]
  refine (getElem?_overlay x.bytes offset k data.toArray hfits).trans ?_
  simp only [List.size_toArray, List.getElem?_toArray]
  rfl

/-- All of the filling, where it fits. -/
theorem extract_fill (x : Diskette) (offset : Nat) (data : List UInt8)
    (hwritable : x.writeProtected = false)
    (hfits : offset + data.length ≤ x.size) :
    (x.fill offset data).bytes.extract offset (offset + data.length) =
      data.toArray := by
  rw [fill_eq_overlay x offset data hwritable]
  exact extract_overlay x.bytes offset data.toArray hfits

end Diskette

end S100
