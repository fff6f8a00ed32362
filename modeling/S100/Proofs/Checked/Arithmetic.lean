import S100.Cpu.Arithmetic
import S100.Proofs.Checked.Numbers

/-!
# Eight-bit arithmetic does not trap

On a host the sums of two bytes and a carry are formed in words, and so are
those of two low halves: they fit with room to spare. A difference wraps, and
only for its auxiliary carry is there a subtraction that must not, of the
borrow from 1. What comes of it is the arithmetic of the processor, result
and flags.
-/

namespace S100.Checked

/-- The sum of three numbers, the way a host forms it. -/
def sum (a b c : Nat) : Checked Nat := do
  let first ← add 16 a b
  add 16 first c

theorem sum_eq {a b c : Nat} (h : a + b + c < 2 ^ 16) :
    sum a b c = .ok (a + b + c) := by
  rw [sum, add_eq (by omega)]
  exact add_eq h

def addBytes (a b : UInt8) (carryIn : Bool) : Checked Flagged := do
  let full ← sum a.toNat b.toNat carryIn.toNat
  let low ← sum (a.toNat % 16) (b.toNat % 16) carryIn.toNat
  let value := UInt8.ofNat full
  return { value, flags := resultFlags value (0x0F < low) (0xFF < full) }

def subBytes (a b : UInt8) (borrowIn : Bool) : Checked Flagged := do
  let full := a.toUInt16 - b.toUInt16 - UInt16.ofNat borrowIn.toNat
  let kept ← sub 1 borrowIn.toNat
  let low ← sum (a.toNat % 16) ((~~~b).toNat % 16) kept
  let value := full.toUInt8
  return { value, flags := resultFlags value (0x0F < low) (0xFF < full) }

def decimalAdjust (a flags : UInt8) : Checked Flagged := do
  let low := a.toNat % 16
  let high ← shiftRight 8 a.toNat 4
  let fixLow := Flag.auxCarry.isSet flags || 9 < low
  let fixHigh := Flag.carry.isSet flags || 9 < high || (9 ≤ high && 9 < low)
  let correction := (bif fixLow then 0x06 else 0) ||| bif fixHigh then 0x60 else 0
  let adjusted ← addBytes a correction false
  return {
    value := adjusted.value
    flags := resultFlags adjusted.value
      (Flag.auxCarry.isSet adjusted.flags) fixHigh }

@[simp] theorem addBytes_eq (a b : UInt8) (carryIn : Bool) :
    addBytes a b carryIn = .ok (Arithmetic.add a b carryIn) := by
  have ha := a.toNat_lt
  have hb := b.toNat_lt
  have hc := carryIn.toNat_le
  rw [addBytes, sum_eq (by omega), ok_bind, sum_eq (by omega)]
  rfl

/-- The low half of a complement is what the low half lacks to 15. -/
theorem complement_low (b : UInt8) :
    (~~~b).toNat % 16 = 15 - b.toNat % 16 := by
  revert b
  exact forall_byte (by decide +kernel)

theorem toNat_wrapped (a b : UInt8) (borrowIn : Bool) :
    (a.toUInt16 - b.toUInt16 - UInt16.ofNat borrowIn.toNat).toNat =
      (a.toNat + 0x10000 - (b.toNat + borrowIn.toNat)) % 0x10000 := by
  have ha := a.toNat_lt
  have hb := b.toNat_lt
  have hc := borrowIn.toNat_le
  simp only [UInt16.toNat_sub, UInt8.toNat_toUInt16, UInt16.toNat_ofNat']
  omega

@[simp] theorem subBytes_eq (a b : UInt8) (borrowIn : Bool) :
    subBytes a b borrowIn = .ok (Arithmetic.sub a b borrowIn) := by
  have ha := a.toNat_lt
  have hb := b.toNat_lt
  have hc := borrowIn.toNat_le
  have hvalue :
      (a.toUInt16 - b.toUInt16 - UInt16.ofNat borrowIn.toNat).toUInt8 =
        UInt8.ofNat (a.toNat + 512 - (b.toNat + borrowIn.toNat)) := by
    apply UInt8.toNat_inj.mp
    rw [UInt16.toNat_toUInt8, toNat_wrapped, UInt8.toNat_ofNat']
    omega
  have hborrow :
      (0xFF < a.toUInt16 - b.toUInt16 - UInt16.ofNat borrowIn.toNat) ↔
        a.toNat < b.toNat + borrowIn.toNat := by
    rw [UInt16.lt_iff_toNat_lt, toNat_wrapped]
    show 255 < _ ↔ _
    omega
  have hlow : 0x0F < a.toNat % 16 + (~~~b).toNat % 16 + (1 - borrowIn.toNat) ↔
      b.toNat % 16 + borrowIn.toNat ≤ a.toNat % 16 := by
    rw [complement_low]
    omega
  rw [subBytes, sub_eq hc, ok_bind, sum_eq (by rw [complement_low]; omega),
    ok_bind]
  simp only [hvalue, hborrow, hlow]
  rfl

@[simp] theorem decimalAdjust_eq (a flags : UInt8) :
    decimalAdjust a flags = .ok (Arithmetic.decimalAdjust a flags) := by
  have hor : ∀ low high : Bool,
      ((bif low then 0x06 else 0 : UInt8) ||| bif high then 0x60 else 0) =
        (bif low then 0x06 else 0) + (bif high then 0x60 else 0) := by
    decide
  rw [decimalAdjust, shiftRight_eq (by decide), ok_bind]
  simp only [hor, addBytes_eq, ok_bind]
  rfl

end S100.Checked
