import Mathlib.Tactic.IntervalCases
import S100.Cpu.Step
import S100.Proofs.Checked.Arithmetic
import S100.Proofs.Cpu.Decoding

/-!
# The register file by number

On a host an instruction does not name a register, it has its number: three
bits of the opcode for a byte register, two for a pair. What is looked up is
found for these numbers, with two exceptions that trap: byte register 6 stands
for the byte in memory and is not in the register file, and a number with more
bits than the field stands for nothing. Conditions and operations have numbers
as well, and all eight of them are found.

The registers are kept in pairs, so that a high byte is shifted into place
when it is stored and out of it when it is read.
-/

namespace S100.Checked

open Instruction

/-! ## Bytes -/

def accumulator (r : Registers) : Checked UInt8 :=
  highByte (r.getPair .psw)

def setHigh (r : Registers) (pair : Pair) (value : UInt8) :
    Checked Registers := do
  let w ← withHigh (r.getPair pair) value
  return r.setPair pair w

/-- The byte register of a number. -/
def readRegister (r : Registers) : Nat → Checked UInt8
  | 0 => highByte (r.getPair .bc)
  | 1 => .ok (lowByte (r.getPair .bc))
  | 2 => highByte (r.getPair .de)
  | 3 => .ok (lowByte (r.getPair .de))
  | 4 => highByte (r.getPair .hl)
  | 5 => .ok (lowByte (r.getPair .hl))
  | 7 => accumulator r
  | _ => .error .unreachable

def writeRegister (r : Registers) (i : Nat) (value : UInt8) :
    Checked Registers :=
  match i with
  | 0 => setHigh r .bc value
  | 1 => .ok (r.setLow .bc value)
  | 2 => setHigh r .de value
  | 3 => .ok (r.setLow .de value)
  | 4 => setHigh r .hl value
  | 5 => .ok (r.setLow .hl value)
  | 7 => setHigh r .psw value
  | _ => .error .unreachable

variable (r : Registers) {i : Nat}

@[simp] theorem accumulator_eq : accumulator r = .ok r.a := by
  simp [accumulator, Registers.getPair]

@[simp] theorem setHigh_eq (pair : Pair) (value : UInt8) :
    setHigh r pair value = .ok (r.setHigh pair value) := by
  rw [setHigh, withHigh_eq]
  cases pair <;> simp [Registers.setPair, Registers.getPair,
    Registers.setHigh, pure, Except.pure]

theorem readRegister_eq (h : i < 8) (hmem : i ≠ 6) :
    readRegister r i = .ok (r.get (registerAt i)) := by
  interval_cases i <;>
    first
      | exact absurd rfl hmem
      | simp [readRegister, Registers.getPair, Registers.get, registerAt]

theorem writeRegister_eq (h : i < 8) (hmem : i ≠ 6) (value : UInt8) :
    writeRegister r i value = .ok (r.set (registerAt i) value) := by
  interval_cases i <;>
    first
      | exact absurd rfl hmem
      | simp [writeRegister, Registers.setHigh, Registers.setLow,
          Registers.set, registerAt]

/-- The memory byte is not a register. -/
example : readRegister r 6 = .error .unreachable := rfl

/-! ## Pairs and words -/

/-- The word register of a number. -/
def readWord (r : Registers) : Nat → Checked UInt16
  | 0 => .ok (r.getPair .bc)
  | 1 => .ok (r.getPair .de)
  | 2 => .ok (r.getPair .hl)
  | 3 => .ok r.sp
  | _ => .error .unreachable

def writeWord (r : Registers) (i : Nat) (value : UInt16) : Checked Registers :=
  match i with
  | 0 => .ok (r.setPair .bc value)
  | 1 => .ok (r.setPair .de value)
  | 2 => .ok (r.setPair .hl value)
  | 3 => .ok { r with sp := value }
  | _ => .error .unreachable

/-- What goes onto the stack of the pair of a number: the accumulator and the
flags for the last one. -/
def readPushed (r : Registers) : Nat → Checked UInt16
  | 3 => do
    let a ← accumulator r
    word a (r.f &&& Flag.mask ||| 0x02)
  | i => readWord r i

def writePopped (r : Registers) (i : Nat) (value : UInt16) :
    Checked Registers :=
  match i with
  | 3 => do
    let a ← highByte value
    let r ← setHigh r .psw a
    return r.setFlags (lowByte value &&& Flag.mask)
  | i => writeWord r i value

theorem readWord_eq (h : i < 4) :
    readWord r i = .ok (r.getWord (wordRegisterAt i)) := by
  interval_cases i <;> rfl

theorem readWord_eq_getPair (h : i < 2) :
    readWord r i = .ok (r.getPair (pairAt i)) := by
  interval_cases i <;> rfl

theorem writeWord_eq (h : i < 4) (value : UInt16) :
    writeWord r i value = .ok (r.setWord (wordRegisterAt i) value) := by
  interval_cases i <;> rfl

theorem readPushed_eq (h : i < 4) :
    readPushed r i = .ok (r.pushed (pairAt i)) := by
  interval_cases i
  · rfl
  · rfl
  · rfl
  · simp [readPushed, Registers.pushed, pairAt]

/-- Bits that are masked twice are masked once. -/
theorem setFlags_mask (flags : UInt8) :
    r.setFlags (flags &&& Flag.mask) = r.setFlags flags := by
  rw [Registers.setFlags, Registers.setFlags, UInt8.and_assoc, UInt8.and_self]

theorem writePopped_eq (h : i < 4) (value : UInt16) :
    writePopped r i value = .ok (r.setPopped (pairAt i) value) := by
  interval_cases i
  · rfl
  · rfl
  · rfl
  · simp only [writePopped, highByte_eq, ok_bind, setHigh_eq, setFlags_mask]
    rfl

/-! ## Conditions and operations -/

/-- Whether the condition of a number holds of a flags byte. -/
def condition (flags : UInt8) : Nat → Checked Bool
  | 0 => .ok !Flag.zero.isSet flags
  | 1 => .ok (Flag.zero.isSet flags)
  | 2 => .ok !Flag.carry.isSet flags
  | 3 => .ok (Flag.carry.isSet flags)
  | 4 => .ok !Flag.parity.isSet flags
  | 5 => .ok (Flag.parity.isSet flags)
  | 6 => .ok !Flag.sign.isSet flags
  | 7 => .ok (Flag.sign.isSet flags)
  | _ => .error .unreachable

theorem condition_eq (flags : UInt8) (h : i < 8) :
    condition flags i = .ok ((conditionAt i).holds flags) := by
  interval_cases i <;> rfl

/-- The operation of a number, but for what is done with its result. -/
def operation (a b : UInt8) (carry : Bool) : Nat → Checked Flagged
  | 0 => addBytes a b false
  | 1 => addBytes a b carry
  | 2 => subBytes a b false
  | 3 => subBytes a b carry
  | 4 => .ok (Arithmetic.logic (a &&& b))
  | 5 => .ok (Arithmetic.logic (a ^^^ b))
  | 6 => .ok (Arithmetic.logic (a ||| b))
  | 7 => subBytes a b false
  | _ => .error .unreachable

theorem operation_eq (a b : UInt8) (carry : Bool) (h : i < 8) :
    operation a b carry i = .ok ((operationAt i).apply a b carry) := by
  interval_cases i <;> simp [operation, operationAt, Operation.apply]

/-- The operation of a number on the accumulator. A comparison keeps its
flags only. -/
def operate (cpu : Cpu) (i : Nat) (value : UInt8) : Checked Cpu := do
  let a ← accumulator cpu.regs
  let result ← operation a value (cpu.regs.hasFlag .carry) i
  if i = 7 then
    return { cpu with regs := cpu.regs.setFlags result.flags }
  else
    let regs ← setHigh cpu.regs .psw result.value
    return { cpu with regs := regs.setFlags result.flags }

theorem operate_eq (cpu : Cpu) (h : i < 8) (value : UInt8) :
    operate cpu i value = .ok (cpu.operate (operationAt i) value) := by
  rw [operate, accumulator_eq, ok_bind, operation_eq _ _ _ h, ok_bind,
    setHigh_eq, ok_bind]
  interval_cases i <;> rfl

end S100.Checked
