import S100.Bus
import S100.Bytes
import S100.Word

/-!
# Memory

A machine may be populated with less than the 64K that the processor can
address. There is no fault: addresses past the populated size read 0 and
drop what is written to them. The size is fixed when the memory is made.

`read_write` and `read_load` say what is read after a byte, or an image,
was stored.
-/

namespace S100

/-- The bytes that sixteen address lines reach. -/
def addressSpace : Nat := 0x10000

/-- The address that is so far from the first. -/
theorem toNat_addressFrom (first : UInt16) (i : Nat) :
    (first + UInt16.ofNat i).toNat = (first.toNat + i) % 65536 := by
  rw [UInt16.toNat_add, UInt16.toNat_ofNat']
  omega

structure Memory where
  bytes : Bytes
  size_le : bytes.size ≤ addressSpace

namespace Memory

/-- Zeroed memory, populated from address 0. A size above 64K is cut
down to it. -/
def ofSize (size : Nat) : Memory where
  bytes := Array.replicate (min size addressSpace) 0
  size_le := by simp only [Array.size_replicate]; omega

def size (m : Memory) : Nat :=
  m.bytes.size

def read (m : Memory) (address : UInt16) : UInt8 :=
  byteAt m.bytes address.toNat

def write (m : Memory) (address : UInt16) (value : UInt8) : Memory where
  bytes := m.bytes.setIfInBounds address.toNat value
  size_le := by simpa using m.size_le

/-- The word whose low byte is at `address`; the high byte follows it,
around the end of the address space. -/
def readWord (m : Memory) (address : UInt16) : UInt16 :=
  word (m.read (address + 1)) (m.read address)

def writeWord (m : Memory) (address : UInt16) (value : UInt16) : Memory :=
  (m.write address (lowByte value)).write (address + 1) (highByte value)

/-- Copy an image into memory from `address` on, as far as memory
goes. -/
def load (m : Memory) (address : UInt16) (image : Bytes) : Memory where
  bytes := overlay m.bytes address.toNat image
  size_le := by simpa using m.size_le

/-- How many bytes of an image find a place. -/
def loadCount (m : Memory) (address : UInt16) (image : Bytes) : Nat :=
  min image.size (m.size - address.toNat)

/-- Zero every populated byte. -/
def clear (m : Memory) : Memory :=
  ofSize m.size

/-- Memory alone is a system without ports: inputs are 0, outputs are
lost. -/
instance : Bus Memory where
  read m address := (m.read address, m)
  write := write
  input m _ := (0, m)
  output m _ _ := m

/-! ## What is read back -/

@[simp] theorem size_ofSize (size : Nat) :
    (ofSize size).size = min size addressSpace := by
  simp [ofSize, Memory.size]

@[simp] theorem size_write (m : Memory) (address : UInt16) (value : UInt8) :
    (m.write address value).size = m.size := by
  simp [write, size]

@[simp] theorem size_writeWord (m : Memory) (address value : UInt16) :
    (m.writeWord address value).size = m.size := by
  simp [writeWord]

@[simp] theorem size_load (m : Memory) (address : UInt16) (image : Bytes) :
    (m.load address image).size = m.size := by
  simp [load, size]

@[simp] theorem size_clear (m : Memory) : m.clear.size = m.size := by
  have := m.size_le
  simp only [clear, size_ofSize]
  simp only [size]
  omega

@[simp] theorem read_ofSize (size : Nat) (address : UInt16) :
    (ofSize size).read address = 0 := by
  simp only [ofSize, read, byteAt, Array.getElem?_replicate]
  split <;> rfl

theorem read_of_size_le {m : Memory} {address : UInt16}
    (h : m.size ≤ address.toNat) : m.read address = 0 :=
  byteAt_of_le h

theorem read_write (m : Memory) (address other : UInt16) (value : UInt8) :
    (m.write address value).read other =
      if address = other ∧ other.toNat < m.size then value
      else m.read other := by
  simp only [read, write, byteAt, size, Array.getElem?_setIfInBounds,
    UInt16.toNat_inj]
  by_cases h : address = other
  · subst h
    by_cases hs : address.toNat < m.bytes.size <;> simp [hs]
  · simp [h]

theorem read_write_of_lt {m : Memory} (address : UInt16) {other : UInt16}
    (value : UInt8) (hother : other.toNat < m.size) :
    (m.write address value).read other =
      if address = other then value else m.read other := by
  simp only [read_write, hother, and_true]

theorem read_load (m : Memory) (address : UInt16) (image : Bytes)
    (other : UInt16) :
    (m.load address image).read other =
      if other.toNat < m.size ∧ address.toNat ≤ other.toNat
          ∧ other.toNat < address.toNat + image.size then
        byteAt image (other.toNat - address.toNat)
      else m.read other :=
  byteAt_overlay _ _ _ _

/-! ## Full memory

Where every address is populated, nothing that is stored is dropped. -/

theorem lt_size_of_full {m : Memory} (hfull : m.size = addressSpace)
    (address : UInt16) : address.toNat < m.size := by
  rw [hfull]
  exact address.toNat_lt

theorem read_write_of_full {m : Memory} (hfull : m.size = addressSpace)
    (address other : UInt16) (value : UInt8) :
    (m.write address value).read other =
      if address = other then value else m.read other :=
  read_write_of_lt address value (lt_size_of_full hfull other)

theorem read_load_of_full {m : Memory} (hfull : m.size = addressSpace)
    (address : UInt16) (image : Bytes) (other : UInt16) :
    (m.load address image).read other =
      if address.toNat ≤ other.toNat
          ∧ other.toNat < address.toNat + image.size then
        byteAt image (other.toNat - address.toNat)
      else m.read other := by
  simp only [read_load, lt_size_of_full hfull, true_and]

end Memory

end S100
