import Mathlib.Data.Nat.Digits.Lemmas
import Mathlib.Tactic.LinearCombination
import S100.Cpu.Step
import S100.Proofs.Cpu.Arithmetic

/-!
# Numbers of many bytes

The processor adds and subtracts single bytes. A larger number is kept in
several, the lowest first, and is worked on byte by byte: what one operation
leaves in the carry flag goes into the next. `chained` does that with any
operation on two bytes and a carry.

What such a chain comes to is decided by one of its links. If no link loses
anything, its result and its carry together being worth what went in
(`Balanced`), neither does the chain (`numeral_chained`). `long_arithmetic` says
so of binary numbers, `decimal_sum` of numbers with two decimal digits to a
byte, where a link is a binary addition that is adjusted afterwards.

The chains are those of the processor: `chainedIn` works on its accumulator and
its carry flag (`chainedIn_eq`).
-/

namespace S100

/-- The number that bytes stand for, the lowest first, each worth a digit to
some base. -/
def numeral (base : Nat) (digit : UInt8 → Nat) (bytes : List UInt8) : Nat :=
  Nat.ofDigits base (bytes.map digit)

theorem numeral_cons (base : Nat) (digit : UInt8 → Nat) (byte : UInt8)
    (rest : List UInt8) :
    numeral base digit (byte :: rest) =
      digit byte + base * numeral base digit rest :=
  Nat.ofDigits_cons

/-- The number that bytes stand for in binary. -/
abbrev binary : List UInt8 → Nat :=
  numeral 256 UInt8.toNat

theorem lt_of_mem_map_toNat {bytes : List UInt8} {d : Nat}
    (h : d ∈ bytes.map UInt8.toNat) : d < 256 := by
  obtain ⟨byte, -, rfl⟩ := List.mem_map.mp h
  exact byte.toNat_lt

theorem binary_lt (bytes : List UInt8) : binary bytes < 256 ^ bytes.length := by
  have hlt := Nat.ofDigits_lt_base_pow_length (b := 256)
    (l := bytes.map UInt8.toNat) (by decide) fun d => lt_of_mem_map_toNat
  rwa [List.length_map] at hlt

/-- Bytes can be told from their number, and from how many they are. -/
theorem binary_inj {xs ys : List UInt8} (hlength : xs.length = ys.length)
    (h : binary xs = binary ys) : xs = ys := by
  have hmap : xs.map UInt8.toNat = ys.map UInt8.toNat :=
    Nat.ofDigits_inj_of_len_eq (b := 256) (by decide)
      (by rwa [List.length_map, List.length_map])
      (fun d => lt_of_mem_map_toNat) (fun d => lt_of_mem_map_toNat) h
  exact List.map_injective_iff.mpr (fun a b => UInt8.toNat_inj.mp) hmap

namespace Arithmetic

/-! ## Byte by byte -/

/-- Operate on two numbers byte by byte, with the carry that each byte leaves
going into the next: the bytes of the result, and the last carry. -/
def chained (operate : UInt8 → UInt8 → Bool → Flagged) (carry : Bool) :
    List UInt8 → List UInt8 → List UInt8 × Bool
  | a :: xs, b :: ys =>
    let r := operate a b carry
    let rest := chained operate r.carry xs ys
    (r.value :: rest.1, rest.2)
  | _, _ => ([], carry)

/-- The operation adds digits, or takes them away if the sign is negative, and
what does not go into the digit of its result is in its carry. It does so with
the bytes that are digits. -/
structure Balanced (operate : UInt8 → UInt8 → Bool → Flagged) (base : Nat)
    (digit : UInt8 → Nat) (isDigit : UInt8 → Prop) (sign : Int) : Prop where
  balance : ∀ a b carry, isDigit a → isDigit b →
    digit a + sign * (digit b + carry.toNat) =
      digit (operate a b carry).value
        + sign * (base * (operate a b carry).carry.toNat)
  isDigit_value : ∀ a b carry, isDigit a → isDigit b →
    isDigit (operate a b carry).value

section

variable {operate : UInt8 → UInt8 → Bool → Flagged} {base : Nat}
  {digit : UInt8 → Nat} {isDigit : UInt8 → Prop} {sign : Int}
  {xs ys : List UInt8}

theorem length_chained (operate : UInt8 → UInt8 → Bool → Flagged)
    (carry : Bool) (hlength : xs.length = ys.length) :
    (chained operate carry xs ys).1.length = xs.length := by
  induction xs generalizing ys carry with
  | nil => rfl
  | cons a xs ih =>
      obtain ⟨b, ys, rfl⟩ := List.exists_cons_of_length_eq_add_one hlength.symm
      exact congrArg (· + 1) (ih _ (Nat.succ.inj hlength))

theorem isDigit_chained (h : Balanced operate base digit isDigit sign)
    (carry : Bool) (hxs : ∀ a ∈ xs, isDigit a) (hys : ∀ b ∈ ys, isDigit b) :
    ∀ r ∈ (chained operate carry xs ys).1, isDigit r := by
  induction xs generalizing ys carry with
  | nil => exact fun r hr => absurd hr List.not_mem_nil
  | cons a xs ih =>
      cases ys with
      | nil => exact fun r hr => absurd hr List.not_mem_nil
      | cons b ys =>
          obtain ⟨ha, hxs⟩ := List.forall_mem_cons.mp hxs
          obtain ⟨hb, hys⟩ := List.forall_mem_cons.mp hys
          exact List.forall_mem_cons.mpr
            ⟨h.isDigit_value a b carry ha hb, ih _ hxs hys⟩

/-- A chain loses nothing if no link of it does. -/
theorem numeral_chained (h : Balanced operate base digit isDigit sign)
    (carry : Bool) (hlength : xs.length = ys.length)
    (hxs : ∀ a ∈ xs, isDigit a) (hys : ∀ b ∈ ys, isDigit b) :
    let r := chained operate carry xs ys
    numeral base digit xs + sign * (numeral base digit ys + carry.toNat) =
      numeral base digit r.1 + sign * (base ^ xs.length * r.2.toNat) := by
  induction xs generalizing ys carry with
  | nil =>
      obtain rfl := List.length_eq_zero_iff.mp hlength.symm
      simp [chained, numeral]
  | cons a xs ih =>
      obtain ⟨b, ys, rfl⟩ := List.exists_cons_of_length_eq_add_one hlength.symm
      obtain ⟨ha, hxs⟩ := List.forall_mem_cons.mp hxs
      obtain ⟨hb, hys⟩ := List.forall_mem_cons.mp hys
      have hfirst := h.balance a b carry ha hb
      have hrest := ih (operate a b carry).carry (Nat.succ.inj hlength) hxs hys
      simp only [chained, numeral_cons, List.length_cons, pow_succ] at hrest ⊢
      push_cast
      linear_combination hfirst + base * hrest

end

/-! ## Binary numbers -/

theorem balanced_add : Balanced add 256 UInt8.toNat (fun _ => True) 1 where
  balance a b carry _ _ := by
    have := add_toNat a b carry
    omega
  isDigit_value _ _ _ _ _ := trivial

theorem balanced_sub : Balanced sub 256 UInt8.toNat (fun _ => True) (-1) where
  balance a b carry _ _ := by
    have := sub_toNat a b carry
    omega
  isDigit_value _ _ _ _ _ := trivial

variable {xs ys : List UInt8}

theorem binary_chained_add (carry : Bool) (hlength : xs.length = ys.length) :
    let r := chained add carry xs ys
    binary r.1 + r.2.toNat * 256 ^ xs.length =
      binary xs + binary ys + carry.toNat := by
  intro r
  have h := numeral_chained balanced_add carry hlength (by simp) (by simp)
  dsimp only at h
  zify
  linear_combination -h

/-- A difference below zero is made up for by its borrow. -/
theorem binary_chained_sub (borrow : Bool) (hlength : xs.length = ys.length) :
    let r := chained sub borrow xs ys
    binary r.1 + binary ys + borrow.toNat =
      binary xs + r.2.toNat * 256 ^ xs.length := by
  intro r
  have h := numeral_chained balanced_sub borrow hlength (by simp) (by simp)
  dsimp only at h
  zify
  linear_combination -h

/-- A chain of subtractions is left with a borrow when what is taken away is
more than what is there. -/
theorem borrow_chained_sub (borrow : Bool) (hlength : xs.length = ys.length) :
    (chained sub borrow xs ys).2 = true ↔
      binary xs < binary ys + borrow.toNat := by
  have h := binary_chained_sub borrow hlength
  have hlt := binary_lt (chained sub borrow xs ys).1
  rw [length_chained sub borrow hlength] at hlt
  dsimp only at h
  cases hborrow : (chained sub borrow xs ys).2 with
  | true =>
      rw [hborrow, Bool.toNat_true, Nat.one_mul] at h
      exact iff_of_true rfl (by omega)
  | false =>
      rw [hborrow, Bool.toNat_false, Nat.zero_mul] at h
      exact iff_of_false nofun (by omega)

/-- What has been added can be taken away again, and what the addition carried
is then borrowed. -/
theorem chained_sub_chained_add (carry : Bool)
    (hlength : xs.length = ys.length) :
    let sum := chained add carry xs ys
    chained sub carry sum.1 ys = (xs, sum.2) := by
  have hsize := length_chained add carry hlength
  have hsum := binary_chained_add carry hlength
  dsimp only at hsum ⊢
  generalize chained add carry xs ys = sum at hsize hsum
  have hback := binary_chained_sub carry (hsize.trans hlength)
  have hborrow := borrow_chained_sub carry (hsize.trans hlength)
  have hlt := binary_lt xs
  have hlt' := binary_lt sum.1
  dsimp only at hback
  rw [hsize] at hback hlt'
  -- The sum falls short of what was added exactly when it carries.
  have hcarry : (chained sub carry sum.1 ys).2 = sum.2 := by
    rw [Bool.eq_iff_iff, hborrow]
    cases hsum' : sum.2 with
    | true =>
        rw [hsum', Bool.toNat_true] at hsum
        exact iff_of_true (by omega) rfl
    | false =>
        rw [hsum', Bool.toNat_false] at hsum
        exact iff_of_false (by omega) nofun
  have hbytes : (chained sub carry sum.1 ys).1 = xs := by
    refine binary_inj
      ((length_chained sub carry (hsize.trans hlength)).trans hsize) ?_
    rw [hcarry] at hback
    omega
  exact Prod.ext hbytes hcarry

/-! ## Decimal numbers -/

/-- A byte that holds two decimal digits. -/
def Packed (a : UInt8) : Prop :=
  a.toNat / 16 ≤ 9 ∧ a.toNat % 16 ≤ 9

instance : DecidablePred Packed :=
  fun a => inferInstanceAs (Decidable (a.toNat / 16 ≤ 9 ∧ a.toNat % 16 ≤ 9))

/-- What two decimal digits are worth. -/
def packedValue (a : UInt8) : Nat :=
  10 * (a.toNat / 16) + a.toNat % 16

/-- The number that packed bytes stand for, two decimal digits in each. -/
abbrev decimal : List UInt8 → Nat :=
  numeral 100 packedValue

/-- Add in binary, and adjust the sum and its flags. -/
def addDecimal (a b : UInt8) (carryIn : Bool) : Flagged :=
  let sum := add a b carryIn
  decimalAdjust sum.value sum.flags

theorem toNat_decide (p : Prop) [Decidable p] :
    p ∧ (decide p).toNat = 1 ∨ ¬ p ∧ (decide p).toNat = 0 := by
  by_cases h : p
  · exact .inl ⟨h, by rw [decide_eq_true h]; rfl⟩
  · exact .inr ⟨h, by rw [decide_eq_false h]; rfl⟩

/-- The adjusted sum is the one that is got digit by digit. -/
theorem addDecimal_eq {a b : UInt8} (ha : Packed a) (hb : Packed b)
    (carryIn : Bool) :
    let low := a.toNat % 16 + b.toNat % 16 + carryIn.toNat
    let high := a.toNat / 16 + b.toNat / 16 + (decide (9 < low)).toNat
    let r := addDecimal a b carryIn
    r.value.toNat = 16 * (high % 10) + low % 10
      ∧ r.carry = decide (9 < high) := by
  intro low high r
  let sum := a.toNat + b.toNat + carryIn.toNat
  obtain ⟨hahigh, halow⟩ := ha
  obtain ⟨hbhigh, hblow⟩ := hb
  have hcarryIn := carryIn.toNat_le
  have hcarryLow := toNat_decide (9 < low)
  have hcarryHigh := toNat_decide (9 < high)
  have hsum : (add a b carryIn).value.toNat = sum % 256 := UInt8.toNat_ofNat'
  have hcarry : Flag.carry.isSet (add a b carryIn).flags =
      decide (256 ≤ sum) := carry_add a b carryIn
  have hauxCarry : Flag.auxCarry.isSet (add a b carryIn).flags =
      decide (16 ≤ low) := by
    simp only [add, resultFlags, isSet_flagsByte, low]
  have hlow : (decide (16 ≤ low) || decide (9 < sum % 256 % 16)) =
      decide (9 < low) := by
    rw [← Bool.decide_or]
    exact decide_eq_decide.mpr (by omega)
  have hhigh : (decide (256 ≤ sum) || decide (9 < sum % 256 / 16)
        || (decide (9 ≤ sum % 256 / 16) && decide (9 < sum % 256 % 16))) =
      decide (9 < high) := by
    rw [← Bool.decide_and, ← Bool.decide_or, ← Bool.decide_or]
    exact decide_eq_decide.mpr (by omega)
  refine ⟨?_, ?_⟩
  · have hvalue : r.value.toNat = (sum % 256
        + (6 * (decide (9 < low)).toNat + 96 * (decide (9 < high)).toNat))
          % 256 := by
      rw [← hlow, ← hhigh, ← hsum, ← hauxCarry, ← hcarry, ← toNat_correction]
      exact UInt8.toNat_ofNat'
    omega
  · simp only [r, addDecimal, decimalAdjust, Flagged.carry, resultFlags,
      isSet_flagsByte, hcarry, hsum, hhigh]

/-- The sum of packed bytes is packed, and nothing of it is lost. -/
theorem addDecimal_packed {a b : UInt8} (ha : Packed a) (hb : Packed b)
    (carryIn : Bool) :
    let r := addDecimal a b carryIn
    Packed r.value
      ∧ packedValue r.value + 100 * r.carry.toNat =
        packedValue a + packedValue b + carryIn.toNat := by
  intro r
  let low := a.toNat % 16 + b.toNat % 16 + carryIn.toNat
  let high := a.toNat / 16 + b.toNat / 16 + (decide (9 < low)).toNat
  obtain ⟨hvalue, hcarry⟩ : r.value.toNat = 16 * (high % 10) + low % 10
      ∧ r.carry = decide (9 < high) := addDecimal_eq ha hb carryIn
  obtain ⟨hahigh, halow⟩ := ha
  obtain ⟨hbhigh, hblow⟩ := hb
  have hcarryIn := carryIn.toNat_le
  have hcarryLow := toNat_decide (9 < low)
  have hcarryHigh := toNat_decide (9 < high)
  have hhighDigit : r.value.toNat / 16 = high % 10 := by omega
  have hlowDigit : r.value.toNat % 16 = low % 10 := by omega
  unfold Packed packedValue
  rw [hcarry, hhighDigit, hlowDigit]
  omega

theorem balanced_addDecimal :
    Balanced addDecimal 100 packedValue Packed 1 where
  balance a b carry ha hb := by
    have := (addDecimal_packed ha hb carry).2
    omega
  isDigit_value a b carry ha hb := (addDecimal_packed ha hb carry).1

end Arithmetic

/-! ## In the accumulator -/

namespace Cpu

open Arithmetic

/-- What is done with a byte is an operation on the accumulator, that byte and
the carry flag, without a cycle on the bus. -/
def Performs (work : Cpu → UInt8 → Dialogue Cpu)
    (operate : UInt8 → UInt8 → Bool → Flagged) : Prop :=
  ∀ cpu b, ∃ after,
    let r := operate cpu.regs.a b (cpu.regs.hasFlag .carry)
    work cpu b = .done after ∧ after.regs.a = r.value
      ∧ after.regs.hasFlag .carry = r.carry

/-- Work on two numbers byte by byte: each byte of the first goes through the
accumulator, and something is done with it and a byte of the second there. -/
def chainedIn (work : Cpu → UInt8 → Dialogue Cpu) (cpu : Cpu) :
    List UInt8 → List UInt8 → Dialogue (List UInt8 × Cpu)
  | a :: xs, b :: ys => do
    let cpu ← work { cpu with regs.a := a } b
    let (rest, after) ← chainedIn work cpu xs ys
    return (cpu.regs.a :: rest, after)
  | _, _ => return ([], cpu)

theorem chainedIn_eq {work : Cpu → UInt8 → Dialogue Cpu}
    {operate : UInt8 → UInt8 → Bool → Flagged} (h : Performs work operate)
    (cpu : Cpu) (xs ys : List UInt8) :
    ∃ after,
      let r := chained operate (cpu.regs.hasFlag .carry) xs ys
      cpu.chainedIn work xs ys = .done (r.1, after)
        ∧ after.regs.hasFlag .carry = r.2 := by
  induction xs generalizing cpu ys with
  | nil => exact ⟨cpu, rfl, rfl⟩
  | cons a xs ih =>
      cases ys with
      | nil => exact ⟨cpu, rfl, rfl⟩
      | cons b ys =>
          obtain ⟨middle, hwork, ha, hcarry⟩ := h { cpu with regs.a := a } b
          obtain ⟨after, hrest, hlast⟩ := ih middle ys
          rw [hcarry] at hrest hlast
          refine ⟨after, ?_, hlast⟩
          rw [chainedIn, hwork, Dialogue.done_bind, hrest, ha]
          rfl

theorem performs_adc : Performs (fun cpu b => return cpu.operate .adc b) add :=
  fun _ _ => ⟨_, rfl, rfl, Flag.isSet_and_mask _ _⟩

theorem performs_sbb : Performs (fun cpu b => return cpu.operate .sbb b) sub :=
  fun _ _ => ⟨_, rfl, rfl, Flag.isSet_and_mask _ _⟩

/-- Only flags are looked at. -/
theorem decimalAdjust_and_mask (a flags : UInt8) :
    decimalAdjust a (flags &&& Flag.mask) = decimalAdjust a flags := by
  simp only [decimalAdjust, Flag.isSet_and_mask]

theorem performs_adc_daa :
    Performs (fun cpu b => (cpu.operate .adc b).execute .daa) addDecimal := by
  intro cpu b
  refine ⟨_, rfl, ?_, ?_⟩
  · exact congrArg Flagged.value (decimalAdjust_and_mask _ _)
  · refine (Flag.isSet_and_mask _ _).trans ?_
    exact congrArg Flagged.carry (decimalAdjust_and_mask _ _)

end Cpu

namespace Arithmetic

variable {xs ys : List UInt8}

/-- Numbers of any length are added and subtracted byte by byte. The bytes of
the sum and its last carry are worth what was added; the bytes of the difference
are worth what is left, less what the last borrow stands for, and there is a
borrow exactly when less was there than was taken away. To take away what was
added, and the carry with it, leads back to where the addition began, and
borrows what that carried.

The processor does the same with its carry flag, each byte going through the
accumulator. -/
theorem long_arithmetic (carry : Bool) (hlength : xs.length = ys.length) :
    let n := xs.length
    let sum := chained add carry xs ys
    let difference := chained sub carry xs ys
    (sum.1.length = n
        ∧ binary sum.1 + sum.2.toNat * 256 ^ n =
          binary xs + binary ys + carry.toNat)
      ∧ (difference.1.length = n
        ∧ (binary difference.1 : Int) - difference.2.toNat * 256 ^ n =
          binary xs - binary ys - carry.toNat
        ∧ (difference.2 = true ↔ binary xs < binary ys + carry.toNat))
      ∧ chained sub carry sum.1 ys = (xs, sum.2)
      ∧ ∀ cpu : Cpu, ∃ added subtracted,
        let carried := cpu.regs.hasFlag .carry
        let sum := chained add carried xs ys
        let difference := chained sub carried xs ys
        (cpu.chainedIn (fun cpu b => return cpu.operate .adc b) xs ys =
            .done (sum.1, added) ∧ added.regs.hasFlag .carry = sum.2)
          ∧ cpu.chainedIn (fun cpu b => return cpu.operate .sbb b) xs ys =
            .done (difference.1, subtracted)
          ∧ subtracted.regs.hasFlag .carry = difference.2 := by
  intro n sum difference
  refine ⟨⟨length_chained add carry hlength,
      binary_chained_add carry hlength⟩,
    ⟨length_chained sub carry hlength, ?_, borrow_chained_sub carry hlength⟩,
    chained_sub_chained_add carry hlength, fun cpu => ?_⟩
  · have h := binary_chained_sub carry hlength
    dsimp only at h
    zify at h
    linear_combination h
  · obtain ⟨added, hadded⟩ := Cpu.chainedIn_eq Cpu.performs_adc cpu xs ys
    obtain ⟨subtracted, hsubtracted⟩ :=
      Cpu.chainedIn_eq Cpu.performs_sbb cpu xs ys
    exact ⟨added, subtracted, hadded, hsubtracted⟩

/-- All ones and a borrow taken from zero: the difference is zero again, and
both bytes borrow. -/
theorem long_arithmetic_all_ones :
    let xs : List UInt8 := [0x00, 0x00]
    let ys : List UInt8 := [0xFF, 0xFF]
    let sum := chained add true xs ys
    let difference := chained sub true xs ys
    xs.length = ys.length
      ∧ binary sum.1 + sum.2.toNat * 256 ^ 2 = 65536
      ∧ (binary difference.1 : Int) - difference.2.toNat * 256 ^ 2 = -65536
      ∧ difference.2 = true
      ∧ chained sub true sum.1 ys = (xs, sum.2) := by
  intro xs ys sum difference
  have hlength : xs.length = ys.length := rfl
  have hxs : binary xs = 0 := by decide
  have hys : binary ys = 65535 := by decide
  obtain ⟨⟨-, hsum⟩, ⟨-, hdifference, hborrow⟩, hback, -⟩ :=
    long_arithmetic true hlength
  rw [hxs, hys] at hsum hdifference hborrow
  exact ⟨hlength, hsum, hdifference, hborrow.mpr (by decide), hback⟩

/-- Decimal numbers of any length, two digits in each byte, are added byte by
byte in binary, each sum adjusted before the next: the result has two decimal
digits in each byte, and with its last carry it is worth what was added. The
carry that goes from byte to byte is the one that the adjustment leaves.

The processor does so with an addition and an adjustment of its accumulator for
each byte. -/
theorem decimal_sum (carry : Bool) (hlength : xs.length = ys.length)
    (hxs : ∀ a ∈ xs, Packed a) (hys : ∀ b ∈ ys, Packed b) :
    let n := xs.length
    let sum := chained addDecimal carry xs ys
    sum.1.length = n ∧ (∀ r ∈ sum.1, Packed r)
      ∧ decimal sum.1 + sum.2.toNat * 100 ^ n =
        decimal xs + decimal ys + carry.toNat
      ∧ ∀ cpu : Cpu, ∃ after,
        let sum := chained addDecimal (cpu.regs.hasFlag .carry) xs ys
        cpu.chainedIn (fun cpu b => (cpu.operate .adc b).execute .daa) xs ys =
            .done (sum.1, after)
          ∧ after.regs.hasFlag .carry = sum.2 := by
  intro n sum
  refine ⟨length_chained addDecimal carry hlength,
    isDigit_chained balanced_addDecimal carry hxs hys, ?_,
    fun cpu => Cpu.chainedIn_eq Cpu.performs_adc_daa cpu xs ys⟩
  have h := numeral_chained balanced_addDecimal carry hlength hxs hys
  dsimp only at h
  zify
  linear_combination -h

/-- 9990, 10 and a carry. One digit of the low byte carries, and both of the
high byte. -/
theorem decimal_sum_carrying :
    let xs : List UInt8 := [0x90, 0x99]
    let ys : List UInt8 := [0x10, 0x00]
    let sum := chained addDecimal true xs ys
    xs.length = ys.length ∧ (∀ a ∈ xs, Packed a) ∧ (∀ b ∈ ys, Packed b)
      ∧ (∀ r ∈ sum.1, Packed r)
      ∧ decimal sum.1 + sum.2.toNat * 10000 = 10001 := by
  intro xs ys sum
  have hlength : xs.length = ys.length := rfl
  have hxs : ∀ a ∈ xs, Packed a := by simp [xs, Packed]
  have hys : ∀ b ∈ ys, Packed b := by simp [ys, Packed]
  obtain ⟨-, hpacked, hsum, -⟩ := decimal_sum true hlength hxs hys
  exact ⟨hlength, hxs, hys, hpacked, hsum⟩

end Arithmetic

end S100
