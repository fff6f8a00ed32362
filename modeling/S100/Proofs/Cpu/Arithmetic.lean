import Mathlib.Data.Nat.Bitwise
import S100.Proofs.Cpu.Decoding
import S100.Proofs.Cpu.Reference

/-!
# Bytes with flags as numbers

The operations on bytes, and what they do to the flags byte, are the
reference's operations on numbers.
-/

namespace S100

open Reference

/-- A byte and its flags as the reference gives them. -/
def Flagged.numbers (r : Flagged) : Nat × Nat :=
  (r.value.toNat, r.flags.toNat)

/-! ## Flags bytes -/

theorem toNat_flagsByte (s z a p c : Bool) :
    (flagsByte s z a p c).toNat = flagBits s z a p c := by
  revert s z a p c
  decide

theorem evenOnes_toNat (value : UInt8) :
    evenOnes value.toNat = evenParity value := by
  rw [evenParity_eq_count]
  exact beq_eq_decide _ _

theorem toNat_resultFlags (value : UInt8) (auxCarry carry : Bool) :
    (resultFlags value auxCarry carry).toNat =
      flagsOf value.toNat auxCarry carry := by
  have hs : decide ((0x80 : UInt8) ≤ value) = decide (128 ≤ value.toNat) :=
    decide_eq_decide.mpr UInt8.le_iff_toNat_le
  have hz : (value == 0) = decide (value.toNat = 0) := by
    rw [beq_eq_decide]
    exact decide_eq_decide.mpr UInt8.toNat_inj.symm
  rw [resultFlags, toNat_flagsByte, flagsOf, evenOnes_toNat, hs, hz]

/-- A flag is set when its bit is. -/
theorem isSet_eq (flag : Flag) (flags : UInt8) {i : Nat}
    (hbit : flag.bit.toNat = 2 ^ i) :
    flag.isSet flags = decide (flags.toNat / 2 ^ i % 2 = 1) := by
  have hand : (flags &&& flag.bit).toNat =
      (flags.toNat.testBit i).toNat * 2 ^ i := by
    rw [UInt8.toNat_and, hbit, Nat.and_two_pow]
  have hset : flag.isSet flags =
      !decide ((flags &&& flag.bit).toNat = 0) := by
    rw [Flag.isSet, bne, beq_eq_decide]
    exact congrArg _ (decide_eq_decide.mpr UInt8.toNat_inj.symm)
  rw [hset, hand, ← Nat.testBit_eq_decide_div_mod_eq]
  cases flags.toNat.testBit i with
  | false => simp
  | true => simp

theorem isSet_carry (flags : UInt8) :
    Flag.carry.isSet flags = decide (flags.toNat % 2 = 1) := by
  rw [isSet_eq .carry flags (i := 0) rfl, Nat.pow_zero, Nat.div_one]

theorem isSet_auxCarry (flags : UInt8) :
    Flag.auxCarry.isSet flags = decide (flags.toNat / 16 % 2 = 1) :=
  isSet_eq .auxCarry flags (i := 4) rfl

theorem toNat_and_mask (flags : UInt8) :
    (flags &&& Flag.mask).toNat = usedBits flags.toNat := by
  revert flags
  exact forall_byte (by decide +kernel)

theorem holds_conditionAt (flags : UInt8) {y : Nat} (hy : y < 8) :
    (Instruction.conditionAt y).holds flags = condition y flags.toNat := by
  have hclear (n : Nat) : (!decide (n % 2 = 1)) = decide (n % 2 = 0) := by
    rcases Nat.mod_two_eq_zero_or_one n with h | h
    · rw [h]
      rfl
    · rw [h]
      rfl
  have hz := isSet_eq .zero flags (i := 6) rfl
  have hc := isSet_eq .carry flags (i := 0) rfl
  have hp := isSet_eq .parity flags (i := 2) rfl
  have hs := isSet_eq .sign flags (i := 7) rfl
  rcases eq_of_lt_eight hy with rfl | rfl | rfl | rfl | rfl | rfl | rfl | rfl
  · exact (congrArg not hz).trans (hclear _)
  · exact hz
  · exact (congrArg not hc).trans (hclear _)
  · exact hc
  · exact (congrArg not hp).trans (hclear _)
  · exact hp
  · exact (congrArg not hs).trans (hclear _)
  · exact hs

/-- The flags of a result, with the carry that was there before. -/
theorem toNat_keepingCarry (flags value : UInt8) (auxCarry : Bool) :
    ((flags &&& Flag.carry.bit ||| resultFlags value auxCarry false)
        &&& Flag.mask).toNat =
      flagsOf value.toNat auxCarry (flags.toNat % 2 = 1) := by
  have hcarry : flags &&& Flag.carry.bit =
      bif Flag.carry.isSet flags then Flag.carry.bit else 0 := by
    revert flags
    exact forall_byte (by decide +kernel)
  have hmerge : ∀ s z a p c : Bool,
      ((bif c then Flag.carry.bit else 0) ||| flagsByte s z a p false)
        &&& Flag.mask = flagsByte s z a p c := by
    decide
  rw [hcarry, resultFlags, hmerge, isSet_carry]
  exact toNat_resultFlags value auxCarry _

/-- Storing a carry moves nothing else, when the unused bits are clear. -/
theorem toNat_settingCarry (flags : UInt8) (carry : Bool)
    (h : usedBits flags.toNat = flags.toNat) :
    ((bif carry then flags ||| Flag.carry.bit
        else flags &&& ~~~Flag.carry.bit) &&& Flag.mask).toNat =
      flags.toNat / 2 * 2 + carry.toNat := by
  revert flags carry
  exact forall_byte (by decide +kernel)

/-- The flags byte as it is pushed. -/
theorem toNat_pushedFlags (flags : UInt8)
    (h : usedBits flags.toNat = flags.toNat) :
    (flags &&& Flag.mask ||| 0x02).toNat = flags.toNat + 2 := by
  revert flags
  exact forall_byte (by decide +kernel)

/-! ## Operations -/

theorem numbers_add (a b : UInt8) (c : Bool) :
    (Arithmetic.add a b c).numbers = sum a.toNat b.toNat c.toNat := by
  have hvalue : (UInt8.ofNat (a.toNat + b.toNat + c.toNat)).toNat =
      (a.toNat + b.toNat + c.toNat) % 256 := UInt8.toNat_ofNat'
  simp only [Flagged.numbers, Arithmetic.add, sum, toNat_resultFlags, hvalue,
    Nat.lt_iff_add_one_le]

theorem numbers_sub (a b : UInt8) (c : Bool) :
    (Arithmetic.sub a b c).numbers = difference a.toNat b.toNat c.toNat := by
  have ha := a.toNat_lt
  have hb := b.toNat_lt
  have hc := c.toNat_le
  have hvalue : (UInt8.ofNat (a.toNat + 512 - (b.toNat + c.toNat))).toNat =
      (a.toNat + (255 - b.toNat) + (1 - c.toNat)) % 256 := by
    rw [UInt8.toNat_ofNat']
    omega
  have hlow : (b.toNat % 16 + c.toNat ≤ a.toNat % 16) =
      (15 < a.toNat % 16 + (15 - b.toNat % 16) + (1 - c.toNat)) :=
    propext (by omega)
  have hborrow : (a.toNat < b.toNat + c.toNat) =
      (a.toNat + (255 - b.toNat) + (1 - c.toNat) ≤ 255) :=
    propext (by omega)
  simp only [Flagged.numbers, Arithmetic.sub, difference, toNat_resultFlags,
    hvalue, hlow, hborrow]

theorem numbers_logic (value : UInt8) :
    (Arithmetic.logic value).numbers = bitwise value.toNat := by
  simp only [Flagged.numbers, Arithmetic.logic, bitwise, toNat_resultFlags]

/-- Only a comparison gives a value that the reference does not give. -/
theorem numbers_apply {y : Nat} (hy : y < 8) (a b : UInt8) (carry : Bool) :
    operation y a.toNat b.toNat carry.toNat =
      (if Instruction.operationAt y = .cmp then a.toNat
        else ((Instruction.operationAt y).apply a b carry).value.toNat,
       ((Instruction.operationAt y).apply a b carry).flags.toNat) := by
  have hand := numbers_logic (a &&& b)
  have hxor := numbers_logic (a ^^^ b)
  have hor := numbers_logic (a ||| b)
  rw [UInt8.toNat_and] at hand
  rw [UInt8.toNat_xor] at hxor
  rw [UInt8.toNat_or] at hor
  rcases eq_of_lt_eight hy with rfl | rfl | rfl | rfl | rfl | rfl | rfl | rfl
  · exact (numbers_add a b false).symm
  · exact (numbers_add a b carry).symm
  · exact (numbers_sub a b false).symm
  · exact (numbers_sub a b carry).symm
  · exact hand.symm
  · exact hxor.symm
  · exact hor.symm
  · have hflags := congrArg Prod.snd (numbers_sub a b false)
    exact congrArg (a.toNat, ·) hflags.symm

theorem toNat_add_one (v : UInt8) : (v + 1).toNat = (v.toNat + 1) % 256 :=
  UInt8.toNat_add v 1

theorem toNat_sub_one (v : UInt8) : (v - 1).toNat = (v.toNat + 255) % 256 := by
  rw [UInt8.toNat_sub, Nat.add_comm]
  rfl

/-- What decimal adjustment adds, digit by digit. -/
theorem toNat_correction : ∀ low high : Bool,
    ((bif low then 0x06 else 0) + (bif high then 0x60 else 0) : UInt8).toNat =
      6 * low.toNat + 96 * high.toNat := by
  decide

/-- A sum of two decimal digits is too large for a digit exactly when the
whole number is above 99, read as decimal digits. -/
theorem numbers_decimalAdjust (a flags : UInt8) :
    (Arithmetic.decimalAdjust a flags).numbers =
      decimal a.toNat flags.toNat := by
  have ha := a.toNat_lt
  have hlow : (Flag.auxCarry.isSet flags || decide (9 < a.toNat % 16)) =
      decide (9 < a.toNat % 16 ∨ flags.toNat / 16 % 2 = 1) := by
    rw [isSet_auxCarry, Bool.or_comm, Bool.decide_or]
  have hhigh : (Flag.carry.isSet flags || decide (9 < a.toNat / 16)
        || (decide (9 ≤ a.toNat / 16) && decide (9 < a.toNat % 16))) =
      decide (0x99 < a.toNat ∨ flags.toNat % 2 = 1) := by
    rw [isSet_carry, ← Bool.decide_and, ← Bool.decide_or, ← Bool.decide_or]
    exact decide_eq_decide.mpr (by omega)
  have hvalue : ∀ correction : UInt8,
      (Arithmetic.add a correction false).value.toNat =
        (a.toNat + correction.toNat) % 256 := fun correction =>
    congrArg Prod.fst (numbers_add a correction false)
  have haux : ∀ correction : UInt8, Flag.auxCarry.isSet
      (Arithmetic.add a correction false).flags =
        decide (15 < a.toNat % 16 + correction.toNat % 16) := by
    intro correction
    simp only [Arithmetic.add, resultFlags, isSet_flagsByte, Bool.toNat_false,
      Nat.add_zero, Nat.lt_iff_add_one_le]
  simp only [Flagged.numbers, Arithmetic.decimalAdjust, decimal,
    toNat_resultFlags, haux, hvalue, hlow, hhigh, toNat_correction]

/-! ## The accumulator -/

/-- Bits put in above others. -/
theorem or_of_lt {low : Nat} {i : Nat} (hlow : low < 2 ^ i) (high : Nat) :
    (high * 2 ^ i) ||| low = high * 2 ^ i + low := by
  rw [← Nat.shiftLeft_eq, ← Nat.shiftLeft_add_eq_or_of_lt hlow]

theorem toNat_double (a : UInt8) :
    (a <<< 1).toNat = a.toNat % 128 * 2 ^ 1 := by
  rw [UInt8.toNat_shiftLeft, Nat.shiftLeft_eq]
  show a.toNat * 2 % 256 = _
  omega

theorem toNat_half (a : UInt8) : (a >>> 1).toNat = a.toNat / 2 := by
  rw [UInt8.toNat_shiftRight, Nat.shiftRight_eq_div_pow]
  rfl

theorem toNat_highBit (a : UInt8) :
    (decide (0x80 ≤ a)).toNat = a.toNat / 128 := by
  have ha := a.toNat_lt
  have hle : decide ((0x80 : UInt8) ≤ a) = decide (128 ≤ a.toNat) :=
    decide_eq_decide.mpr UInt8.le_iff_toNat_le
  rw [hle]
  by_cases h : 128 ≤ a.toNat
  · rw [decide_eq_true h]
    show 1 = _
    omega
  · rw [decide_eq_false h]
    show 0 = _
    omega

theorem toNat_lowBit (a : UInt8) : (a % 2 == 1).toNat = a.toNat % 2 := by
  have hlow : (a % 2 == 1) = decide (a.toNat % 2 = 1) := by
    rw [beq_eq_decide]
    exact decide_eq_decide.mpr UInt8.toNat_inj.symm
  rw [hlow]
  rcases Nat.mod_two_eq_zero_or_one a.toNat with h | h
  · rw [h]
    rfl
  · rw [h]
    rfl

theorem toNat_rotateLeft (a : UInt8) :
    (a <<< 1 ||| a >>> 7).toNat = 2 * a.toNat % 256 + a.toNat / 128 := by
  have ha := a.toNat_lt
  have hlow : (a >>> 7).toNat = a.toNat / 128 := by
    rw [UInt8.toNat_shiftRight, Nat.shiftRight_eq_div_pow]
    rfl
  rw [UInt8.toNat_or, toNat_double, hlow, or_of_lt (by omega)]
  omega

theorem toNat_rotateRight (a : UInt8) :
    (a >>> 1 ||| a <<< 7).toNat = a.toNat / 2 + 128 * (a.toNat % 2) := by
  have ha := a.toNat_lt
  have hhigh : (a <<< 7).toNat = a.toNat % 2 * 2 ^ 7 := by
    rw [UInt8.toNat_shiftLeft, Nat.shiftLeft_eq]
    show a.toNat * 128 % 256 = _
    omega
  rw [UInt8.toNat_or, Nat.or_comm, toNat_half, hhigh, or_of_lt (by omega)]
  omega

theorem toNat_shiftLeft (a : UInt8) (carry : Bool) :
    (a <<< 1 ||| bif carry then 0x01 else 0).toNat =
      2 * a.toNat % 256 + carry.toNat := by
  have hcarry : (bif carry then 0x01 else 0 : UInt8).toNat = carry.toNat := by
    cases carry <;> rfl
  have hlt := carry.toNat_lt
  rw [UInt8.toNat_or, toNat_double, hcarry, or_of_lt (by omega)]
  omega

theorem toNat_shiftRight (a : UInt8) (carry : Bool) :
    (a >>> 1 ||| bif carry then 0x80 else 0).toNat =
      a.toNat / 2 + 128 * carry.toNat := by
  have ha := a.toNat_lt
  have hcarry : (bif carry then 0x80 else 0 : UInt8).toNat =
      carry.toNat * 2 ^ 7 := by
    cases carry <;> rfl
  rw [UInt8.toNat_or, Nat.or_comm, toNat_half, hcarry, or_of_lt (by omega)]
  omega

theorem toNat_complement (a : UInt8) : (~~~a).toNat = 255 - a.toNat :=
  UInt8.toNat_not a

end S100
