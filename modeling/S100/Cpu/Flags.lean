import S100.Word

/-!
# Condition flags

Five bits of the flags byte record facts about the last arithmetic result:

| bit  | flag            | set when                                   |
|------|-----------------|--------------------------------------------|
| 0x80 | sign            | bit 7 of the result is set                 |
| 0x40 | zero            | the result is 0                            |
| 0x10 | auxiliary carry | a carry went from bit 3 to bit 4           |
| 0x04 | parity          | the result has an even number of set bits  |
| 0x01 | carry           | a carry (or borrow) left bit 7             |

The other three bits of the byte mean nothing to the processor.
-/

namespace S100

inductive Flag where
  | carry
  | parity
  | auxCarry
  | zero
  | sign
deriving DecidableEq, Repr

namespace Flag

/-- The flag's place in the flags byte. -/
def bit : Flag → UInt8
  | carry => 0x01
  | parity => 0x04
  | auxCarry => 0x10
  | zero => 0x40
  | sign => 0x80

/-- Whether the flag is set in a flags byte. -/
def isSet (flag : Flag) (flags : UInt8) : Bool :=
  flags &&& flag.bit != 0

/-- The five meaningful bits. -/
def mask : UInt8 := 0xD5

/-- The flags are among the meaningful bits. -/
theorem isSet_and_mask (flag : Flag) (flags : UInt8) :
    flag.isSet (flags &&& mask) = flag.isSet flags := by
  have hbit : mask &&& flag.bit = flag.bit := by cases flag <;> rfl
  rw [isSet, UInt8.and_assoc, hbit]
  rfl

end Flag

/-- An even number of set bits. Each fold halves the bits that still
matter, and the last one decides. -/
def evenParity (value : UInt8) : Bool :=
  let x := value ^^^ (value >>> 4)
  let x := x ^^^ (x >>> 2)
  (x ^^^ (x >>> 1)) &&& 1 == 0

theorem evenParity_eq_count (value : UInt8) :
    evenParity value =
      decide (((List.range 8).countP value.toNat.testBit) % 2 = 0) := by
  revert value
  exact forall_byte (by decide +kernel)

/-! ## Flags bytes -/

/-- The flags byte that holds exactly the given flags. -/
def flagsByte (sign zero auxCarry parity carry : Bool) : UInt8 :=
  let bit (flag : Flag) (condition : Bool) : UInt8 :=
    bif condition then flag.bit else 0
  bit .sign sign ||| bit .zero zero ||| bit .auxCarry auxCarry
    ||| bit .parity parity ||| bit .carry carry

@[simp] theorem isSet_flagsByte (flag : Flag) (s z a p c : Bool) :
    flag.isSet (flagsByte s z a p c) =
      match flag with
      | .sign => s
      | .zero => z
      | .auxCarry => a
      | .parity => p
      | .carry => c := by
  cases flag <;> revert s z a p c <;> decide

/-- The meaningless bits of a flags byte made of flags are clear. -/
theorem flagsByte_and_mask (s z a p c : Bool) :
    flagsByte s z a p c &&& Flag.mask = flagsByte s z a p c := by
  revert s z a p c
  decide

/-- The flags of a result: sign, zero and parity are read off the value,
the two carries off the operation. -/
def resultFlags (value : UInt8) (auxCarry carry : Bool) : UInt8 :=
  flagsByte (0x80 ≤ value) (value == 0) auxCarry (evenParity value) carry

end S100
