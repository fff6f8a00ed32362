import S100.Memory
import S100.Proofs.Bytes.Overlays

/-!
# Loaded images

An image is cut off at the end of memory before it is copied, where a byte that
is stored on its own past that end is dropped. `load_cons` says that it comes to
the same for the first byte of an image, and `read_load_offset` what the bytes
read that have been loaded.
-/

namespace S100

theorem toNat_next (address : UInt16) :
    (address + 1).toNat = (address.toNat + 1) % addressSpace := by
  rw [UInt16.toNat_add]
  rfl

theorem offset_succ (address : UInt16) (i : Nat) :
    address + UInt16.ofNat (i + 1) = address + UInt16.ofNat i + 1 := by
  rw [UInt16.ofNat_add, ← UInt16.add_assoc]
  rfl

namespace Memory

theorem ext_bytes {m m' : Memory} (h : m.bytes = m'.bytes) : m = m' := by
  cases m
  cases m'
  congr

@[simp] theorem load_nil (m : Memory) (address : UInt16) :
    m.load address [].toArray = m :=
  ext_bytes (overlay_nil m.bytes address.toNat)

/-- The first byte of an image that ends inside the address space can be stored
on its own. -/
theorem load_cons (m : Memory) {address : UInt16} (value : UInt8)
    {rest : List UInt8}
    (h : address.toNat + (rest.length + 1) ≤ addressSpace) :
    (m.write address value).load (address + 1) rest.toArray =
      m.load address (value :: rest).toArray := by
  cases rest with
  | nil =>
      -- The next address may be around the end of the address space.
      rw [load_nil]
      refine ext_bytes ((overlay_nil _ (address.toNat + 1)).symm.trans ?_)
      exact overlay_cons m.bytes address.toNat value []
  | cons next rest =>
      have hnext : (address + 1).toNat = address.toNat + 1 := by
        rw [List.length_cons] at h
        rw [toNat_next]
        exact Nat.mod_eq_of_lt (by omega)
      refine ext_bytes ?_
      show overlay _ (address + 1).toNat _ = _
      rw [hnext]
      exact overlay_cons m.bytes address.toNat value (next :: rest)

/-- The address of a byte that lies inside the address space. -/
theorem toNat_offset {address : UInt16} {i : Nat}
    (h : address.toNat + i < addressSpace) :
    (address + UInt16.ofNat i).toNat = address.toNat + i := by
  rw [toNat_addressFrom]
  exact Nat.mod_eq_of_lt h

/-- A byte of an image that has been loaded. -/
theorem read_load_offset (m : Memory) {address : UInt16} {bytes : List UInt8}
    (h : address.toNat + bytes.length ≤ addressSpace) {i : Nat}
    (hi : i < bytes.length) :
    (m.load address bytes.toArray).read (address + UInt16.ofNat i) =
      if address.toNat + i < m.size then bytes[i] else 0 := by
  rw [read_load, toNat_offset (by omega), List.size_toArray]
  by_cases hpopulated : address.toNat + i < m.size
  · rw [if_pos ⟨hpopulated, by omega, by omega⟩, if_pos hpopulated,
      Nat.add_sub_cancel_left, byteAt_of_lt (by simpa using hi)]
    exact List.getElem_toArray _
  · rw [if_neg fun hall => hpopulated hall.1, if_neg hpopulated]
    refine read_of_size_le ?_
    rw [toNat_offset (by omega)]
    omega

end Memory

end S100
