import S100.Cpu.Flags

/-!
# Eight-bit arithmetic

Each operation answers with a result and the whole flags byte it gives
rise to. Sums and differences are formed in the natural numbers, where
carries and borrows are visible, and only then cut down to a byte:

- `add`: carry is the sum's ninth bit, auxiliary carry the fifth bit of
  the sum of the low halves;
- `sub`: carry is the borrow. The silicon subtracts by adding the
  complement, so auxiliary carry is set when the low half did *not*
  borrow;
- `increment` and `decrement` say nothing about carry; the caller keeps
  the one it has;
- `decimalAdjust` turns the binary sum of two packed decimal bytes into
  their decimal sum.

`add_toNat` and `sub_toNat` are the equations that chains of bytes are
built from.
-/

namespace S100

/-- A byte and the flags that belong to it. -/
structure Flagged where
  value : UInt8
  flags : UInt8
deriving DecidableEq, Repr

def Flagged.carry (r : Flagged) : Bool :=
  Flag.carry.isSet r.flags

namespace Arithmetic

def add (a b : UInt8) (carryIn : Bool) : Flagged :=
  let sum := a.toNat + b.toNat + carryIn.toNat
  let low := a.toNat % 16 + b.toNat % 16 + carryIn.toNat
  let value := UInt8.ofNat sum
  { value, flags := resultFlags value (16 ≤ low) (256 ≤ sum) }

def sub (a b : UInt8) (borrowIn : Bool) : Flagged :=
  let taken := b.toNat + borrowIn.toNat
  let takenLow := b.toNat % 16 + borrowIn.toNat
  let value := UInt8.ofNat (a.toNat + 512 - taken)
  { value
    flags := resultFlags value (takenLow ≤ a.toNat % 16) (a.toNat < taken) }

/-- Bitwise results clear both carries. -/
def logic (value : UInt8) : Flagged :=
  { value, flags := resultFlags value false false }

def increment (a : UInt8) : Flagged :=
  let value := a + 1
  { value, flags := resultFlags value (value.toNat % 16 == 0) false }

def decrement (a : UInt8) : Flagged :=
  let value := a - 1
  { value, flags := resultFlags value (value.toNat % 16 != 15) false }

/-- Add 6 to each decimal digit that overflowed: the low digit when it is
above 9 or carried, the high one when it is above 9, carried, or will
carry once the low one is adjusted. A carry, once there, stays. -/
def decimalAdjust (a flags : UInt8) : Flagged :=
  let low := a.toNat % 16
  let high := a.toNat / 16
  let fixLow := Flag.auxCarry.isSet flags || 9 < low
  let fixHigh := Flag.carry.isSet flags || 9 < high || (9 ≤ high && 9 < low)
  let correction := (bif fixLow then 0x06 else 0) + (bif fixHigh then 0x60 else 0)
  let sum := add a correction false
  { value := sum.value
    flags := resultFlags sum.value (Flag.auxCarry.isSet sum.flags) fixHigh }

/-! ## Chains of bytes -/

theorem carry_add (a b : UInt8) (c : Bool) :
    (add a b c).carry = decide (256 ≤ a.toNat + b.toNat + c.toNat) := by
  simp [Flagged.carry, add, resultFlags]

theorem carry_sub (a b : UInt8) (c : Bool) :
    (sub a b c).carry = decide (a.toNat < b.toNat + c.toNat) := by
  simp [Flagged.carry, sub, resultFlags]

/-- Nothing of a sum is lost between its result and its carry. -/
theorem add_toNat (a b : UInt8) (c : Bool) :
    (add a b c).value.toNat + 256 * (add a b c).carry.toNat =
      a.toNat + b.toNat + c.toNat := by
  have ha := a.toNat_lt
  have hb := b.toNat_lt
  have hc := c.toNat_le
  rw [carry_add]
  simp only [add, UInt8.toNat_ofNat']
  by_cases h : 256 ≤ a.toNat + b.toNat + c.toNat <;> simp [h] <;> omega

/-- A difference below zero is made up for by its borrow. -/
theorem sub_toNat (a b : UInt8) (c : Bool) :
    (sub a b c).value.toNat + b.toNat + c.toNat =
      a.toNat + 256 * (sub a b c).carry.toNat := by
  have ha := a.toNat_lt
  have hb := b.toNat_lt
  have hc := c.toNat_le
  rw [carry_sub]
  simp only [sub, UInt8.toNat_ofNat']
  by_cases h : a.toNat < b.toNat + c.toNat <;> simp [h] <;> omega

end Arithmetic

end S100
