import S100.Proofs.Checked.Dialogues
import S100.Proofs.Checked.Registers
import S100.Proofs.Cpu.Steps

/-!
# No instruction traps

`Checked.step` is an instruction the way it is carried out on a host. What to
do follows from the opcode, and with which registers follows from its fields,
which are shifted out of the opcode, masked, and looked up by number.

That no look-up traps is a matter of the opcode map. The fields of each opcode
are as wide as the table in which they are looked up, byte register 6 is taken
for the memory byte before it can be looked up, and `decode` finds in the map
the very operands that the fields stand for (`withFields_decode`). So the
host's instruction is safe for the processor's, one case for each kind of
instruction (`safe_execute_withFields`), and a step for a step.
-/

namespace S100.Checked

open Guarded Instruction

/-! ## Fields -/

/-- Bits 5 to 3: a target, an operation or a condition. -/
def middleField (opcode : UInt8) : Checked Nat := do
  let shifted ← shiftRight 8 opcode.toNat 3
  return shifted % 8

/-- Bits 2 to 0: a source. -/
def lowField (opcode : UInt8) : Nat :=
  opcode.toNat % 8

/-- The bits from bit 4 up that tell so many pairs apart. -/
def pairField (opcode : UInt8) (count : Nat) : Checked Nat := do
  let shifted ← shiftRight 8 opcode.toNat 4
  return shifted % count

@[simp] theorem middleField_eq (opcode : UInt8) :
    middleField opcode = .ok (opcode.toNat / 8 % 8) := by
  rw [middleField, shiftRight_eq (by decide)]
  rfl

@[simp] theorem pairField_eq (opcode : UInt8) (count : Nat) :
    pairField opcode count = .ok (opcode.toNat / 16 % count) := by
  rw [pairField, shiftRight_eq (by decide)]
  rfl

/-- The instruction of the same kind with the operands that the fields of an
opcode stand for. -/
def withFields (opcode : Nat) : Instruction → Instruction
  | .mov _ _ => .mov (operandAt (opcode / 8 % 8)) (operandAt (opcode % 8))
  | .mvi _ => .mvi (operandAt (opcode / 8 % 8))
  | .lxi _ => .lxi (wordRegisterAt (opcode / 16 % 4))
  | .stax _ => .stax (pairAt (opcode / 16 % 2))
  | .ldax _ => .ldax (pairAt (opcode / 16 % 2))
  | .alu _ _ => .alu (operationAt (opcode / 8 % 8)) (operandAt (opcode % 8))
  | .aluImmediate _ => .aluImmediate (operationAt (opcode / 8 % 8))
  | .inr _ => .inr (operandAt (opcode / 8 % 8))
  | .dcr _ => .dcr (operandAt (opcode / 8 % 8))
  | .inx _ => .inx (wordRegisterAt (opcode / 16 % 4))
  | .dcx _ => .dcx (wordRegisterAt (opcode / 16 % 4))
  | .dad _ => .dad (wordRegisterAt (opcode / 16 % 4))
  | .jumpIf _ => .jumpIf (conditionAt (opcode / 8 % 8))
  | .callIf _ => .callIf (conditionAt (opcode / 8 % 8))
  | .retIf _ => .retIf (conditionAt (opcode / 8 % 8))
  | .rst _ => .rst ⟨opcode / 8 % 8, Nat.mod_lt _ (by decide)⟩
  | .push _ => .push (pairAt (opcode / 16 % 4))
  | .pop _ => .pop (pairAt (opcode / 16 % 4))
  | i => i

/-- The operands in the map are those that the fields stand for. -/
theorem withFields_decode (opcode : UInt8) :
    withFields opcode.toNat (decode opcode) = decode opcode := by
  refine of_decide_eq_true
    (all_decode (p := fun n i => decide (withFields n i = i)) ?_ opcode)
  decide +kernel

/-! ## Operands, words and the stack -/

def readOperand (cpu : Cpu) (i : Nat) : Guarded (UInt8 × Cpu) :=
  if i = 6 then liftM (cpu.readAt cpu.regs.hl)
  else do
    let value ← readRegister cpu.regs i
    return (value, cpu)

def writeOperand (cpu : Cpu) (i : Nat) (value : UInt8) : Guarded Cpu :=
  if i = 6 then liftM (cpu.writeAt cpu.regs.hl value)
  else do
    let regs ← writeRegister cpu.regs i value
    return { cpu with regs }

def fetchWord (cpu : Cpu) : Guarded (UInt16 × Cpu) := do
  let (low, cpu) ← cpu.fetch
  let (high, cpu) ← cpu.fetch
  let value ← word high low
  return (value, cpu)

def readWordAt (cpu : Cpu) (address : UInt16) : Guarded (UInt16 × Cpu) := do
  let (low, cpu) ← cpu.readAt address
  let (high, cpu) ← cpu.readAt (address + 1)
  let value ← word high low
  return (value, cpu)

def writeWordAt (cpu : Cpu) (address value : UInt16) : Guarded Cpu := do
  let cpu ← cpu.writeAt address (lowByte value)
  let high ← highByte value
  cpu.writeAt (address + 1) high

def pushWord (cpu : Cpu) (value : UInt16) : Guarded Cpu := do
  let sp := cpu.regs.sp
  let high ← highByte value
  let cpu ← cpu.writeAt (sp - 1) high
  let cpu ← cpu.writeAt (sp - 2) (lowByte value)
  return { cpu with regs.sp := sp - 2 }

def popWord (cpu : Cpu) : Guarded (UInt16 × Cpu) := do
  let sp := cpu.regs.sp
  let (value, cpu) ← readWordAt cpu sp
  return (value, { cpu with regs.sp := sp + 2 })

def callTo (cpu : Cpu) (address : UInt16) : Guarded Cpu := do
  let cpu ← pushWord cpu cpu.regs.pc
  return cpu.jumpTo address

def ret (cpu : Cpu) : Guarded Cpu := do
  let (address, cpu) ← popWord cpu
  return cpu.jumpTo address

section

variable (cpu : Cpu) {i : Nat}

theorem safe_readOperand (h : i < 8) :
    Safe (readOperand cpu i) (cpu.load (operandAt i)) := by
  rw [readOperand, operandAt]
  split
  · exact .lift _
  · rename_i hmem
    exact .ok (readRegister_eq cpu.regs h hmem) (.pure _)

theorem safe_writeOperand (h : i < 8) (value : UInt8) :
    Safe (writeOperand cpu i value) (cpu.store (operandAt i) value) := by
  rw [writeOperand, operandAt]
  split
  · exact .lift _
  · rename_i hmem
    exact .ok (writeRegister_eq cpu.regs h hmem value) (.pure _)

theorem safe_fetchWord : Safe (fetchWord cpu) cpu.fetchWord :=
  .bind (.lift _) fun _ => .bind (.lift _) fun _ => .ok (word_eq _ _) (.pure _)

theorem safe_readWordAt (address : UInt16) :
    Safe (readWordAt cpu address) (cpu.readWordAt address) :=
  .bind (.lift _) fun _ => .bind (.lift _) fun _ => .ok (word_eq _ _) (.pure _)

theorem safe_writeWordAt (address value : UInt16) :
    Safe (writeWordAt cpu address value) (cpu.writeWordAt address value) :=
  .bind (.lift _) fun _ => .ok (highByte_eq value) (.lift _)

theorem safe_pushWord (value : UInt16) :
    Safe (pushWord cpu value) (cpu.pushWord value) :=
  .ok (highByte_eq value)
    (.bind (.lift _) fun _ => .bind (.lift _) fun _ => .pure _)

theorem safe_popWord : Safe (popWord cpu) cpu.popWord :=
  .bind (safe_readWordAt cpu _) fun _ => .pure _

theorem safe_callTo (address : UInt16) :
    Safe (callTo cpu address) (cpu.callTo address) :=
  .bind (safe_pushWord cpu _) fun _ => .pure _

theorem safe_ret : Safe (ret cpu) cpu.ret :=
  .bind (safe_popWord cpu) fun _ => .pure _

end

/-! ## Execution -/

/-- Put a byte in the accumulator. -/
def setA (cpu : Cpu) (value : UInt8) : Checked Cpu := do
  let regs ← setHigh cpu.regs .psw value
  return { cpu with regs }

/-- Put a rotated accumulator and the bit that left it in place. -/
def setRotated (cpu : Cpu) (a : UInt8) (carry : Bool) : Checked Cpu := do
  let cpu ← setA cpu a
  return { cpu with regs := cpu.regs.setCarry carry }

/-- The accumulator, rotated to the left through the carry. -/
def rotateLeft (a : UInt8) (carry : Bool) : Checked UInt8 := do
  let shifted ← shiftLeft 8 a.toNat 1
  return UInt8.ofNat (shifted ||| carry.toNat)

/-- The accumulator, rotated to the right through the carry. -/
def rotateRight (a : UInt8) (carry : Bool) : Checked UInt8 := do
  let shifted ← shiftRight 8 a.toNat 1
  let high ← shiftLeft 8 carry.toNat 7
  return UInt8.ofNat (shifted ||| high)

/-- Do what an opcode says. The operands are those of its fields; of the
instruction only the kind matters. Instructions that are not listed have
nothing to look up and nothing to compute. -/
def execute (cpu : Cpu) (opcode : UInt8) : Instruction → Guarded Cpu
  | .mov _ _ => do
    let (value, cpu) ← readOperand cpu (lowField opcode)
    let target ← middleField opcode
    writeOperand cpu target value
  | .mvi _ => do
    let (value, cpu) ← cpu.fetch
    let target ← middleField opcode
    writeOperand cpu target value
  | .lxi _ => do
    let (value, cpu) ← fetchWord cpu
    let target ← pairField opcode 4
    let regs ← writeWord cpu.regs target value
    return { cpu with regs }
  | .stax _ => do
    let pointer ← pairField opcode 2
    let address ← readWord cpu.regs pointer
    let a ← accumulator cpu.regs
    cpu.writeAt address a
  | .ldax _ => do
    let pointer ← pairField opcode 2
    let address ← readWord cpu.regs pointer
    let (value, cpu) ← cpu.readAt address
    setA cpu value
  | .sta => do
    let (address, cpu) ← fetchWord cpu
    let a ← accumulator cpu.regs
    cpu.writeAt address a
  | .lda => do
    let (address, cpu) ← fetchWord cpu
    let (value, cpu) ← cpu.readAt address
    setA cpu value
  | .shld => do
    let (address, cpu) ← fetchWord cpu
    writeWordAt cpu address cpu.regs.hl
  | .lhld => do
    let (address, cpu) ← fetchWord cpu
    let (value, cpu) ← readWordAt cpu address
    return { cpu with regs := cpu.regs.setPair .hl value }
  | .alu _ _ => do
    let (value, cpu) ← readOperand cpu (lowField opcode)
    let operation ← middleField opcode
    operate cpu operation value
  | .aluImmediate _ => do
    let (value, cpu) ← cpu.fetch
    let operation ← middleField opcode
    operate cpu operation value
  | .inr _ => do
    let target ← middleField opcode
    let (value, cpu) ← readOperand cpu target
    let result := Arithmetic.increment value
    let flags := cpu.regs.f &&& Flag.carry.bit ||| result.flags
    let cpu := { cpu with regs := cpu.regs.setFlags flags }
    writeOperand cpu target result.value
  | .dcr _ => do
    let target ← middleField opcode
    let (value, cpu) ← readOperand cpu target
    let result := Arithmetic.decrement value
    let flags := cpu.regs.f &&& Flag.carry.bit ||| result.flags
    let cpu := { cpu with regs := cpu.regs.setFlags flags }
    writeOperand cpu target result.value
  | .daa => do
    let a ← accumulator cpu.regs
    let result ← decimalAdjust a cpu.regs.f
    let cpu ← setA cpu result.value
    return { cpu with regs := cpu.regs.setFlags result.flags }
  | .inx _ => do
    let target ← pairField opcode 4
    let value ← readWord cpu.regs target
    let regs ← writeWord cpu.regs target (value + 1)
    return { cpu with regs }
  | .dcx _ => do
    let target ← pairField opcode 4
    let value ← readWord cpu.regs target
    let regs ← writeWord cpu.regs target (value - 1)
    return { cpu with regs }
  | .dad _ => do
    let source ← pairField opcode 4
    let value ← readWord cpu.regs source
    let sum ← add 32 cpu.regs.hl.toNat value.toNat
    let regs := cpu.regs.setPair .hl (UInt16.ofNat sum)
    return { cpu with regs := regs.setCarry (0x10000 ≤ sum) }
  | .rlc => do
    let a ← accumulator cpu.regs
    setRotated cpu (a <<< 1 ||| a >>> 7) (0x80 ≤ a)
  | .rrc => do
    let a ← accumulator cpu.regs
    setRotated cpu (a >>> 1 ||| a <<< 7) (a % 2 == 1)
  | .ral => do
    let a ← accumulator cpu.regs
    let rotated ← rotateLeft a (cpu.regs.hasFlag .carry)
    setRotated cpu rotated (0x80 ≤ a)
  | .rar => do
    let a ← accumulator cpu.regs
    let rotated ← rotateRight a (cpu.regs.hasFlag .carry)
    setRotated cpu rotated (a % 2 == 1)
  | .cma => do
    let a ← accumulator cpu.regs
    setA cpu (~~~a)
  | .jmp => do
    let (address, cpu) ← fetchWord cpu
    return cpu.jumpTo address
  | .jumpIf _ => do
    let (address, cpu) ← fetchWord cpu
    let number ← middleField opcode
    let taken ← condition cpu.regs.f number
    return if taken then cpu.jumpTo address else cpu
  | .call => do
    let (address, cpu) ← fetchWord cpu
    callTo cpu address
  | .callIf _ => do
    let (address, cpu) ← fetchWord cpu
    let number ← middleField opcode
    let taken ← condition cpu.regs.f number
    if taken then callTo cpu address else return cpu
  | .ret => ret cpu
  | .retIf _ => do
    let number ← middleField opcode
    let taken ← condition cpu.regs.f number
    if taken then ret cpu else return cpu
  | .rst _ => callTo cpu (UInt16.ofNat (opcode.toNat &&& 0x38))
  | .push _ => do
    let pair ← pairField opcode 4
    let value ← readPushed cpu.regs pair
    pushWord cpu value
  | .pop _ => do
    let (value, cpu) ← popWord cpu
    let pair ← pairField opcode 4
    let regs ← writePopped cpu.regs pair value
    return { cpu with regs }
  | .xthl => do
    let (value, cpu) ← readWordAt cpu cpu.regs.sp
    let cpu ← writeWordAt cpu cpu.regs.sp cpu.regs.hl
    return { cpu with regs := cpu.regs.setPair .hl value }
  | .input => do
    let (port, cpu) ← cpu.fetch
    let (value, cpu) ← cpu.inputFrom port
    setA cpu value
  | .output => do
    let (port, cpu) ← cpu.fetch
    let a ← accumulator cpu.regs
    cpu.outputTo port a
  | i => liftM (cpu.execute i)

def step (cpu : Cpu) : Guarded (StepResult × Cpu) :=
  if cpu.halted then
    return (.halted, cpu)
  else do
    let (opcode, cpu) ← cpu.fetch
    let cpu ← execute { cpu with opcode } opcode (decode opcode)
    return (Cpu.outcome opcode, cpu)

section

variable (cpu : Cpu)

@[simp] theorem setA_eq (value : UInt8) :
    setA cpu value = .ok { cpu with regs.a := value } := by
  rw [setA, setHigh_eq]
  rfl

@[simp] theorem setRotated_eq (a : UInt8) (carry : Bool) :
    setRotated cpu a carry = .ok (cpu.setRotated a carry) := by
  rw [setRotated, setA_eq]
  rfl

@[simp] theorem rotateLeft_eq (a : UInt8) (carry : Bool) :
    rotateLeft a carry = .ok (a <<< 1 ||| bif carry then 0x01 else 0) := by
  rw [rotateLeft, shiftLeft_eq (by decide)]
  refine congrArg Except.ok ?_
  revert a
  refine forall_byte ?_
  cases carry <;> decide +kernel

@[simp] theorem rotateRight_eq (a : UInt8) (carry : Bool) :
    rotateRight a carry = .ok (a >>> 1 ||| bif carry then 0x80 else 0) := by
  rw [rotateRight, shiftRight_eq (by decide), ok_bind,
    shiftLeft_eq (by decide)]
  refine congrArg Except.ok ?_
  revert a
  refine forall_byte ?_
  cases carry <;> decide +kernel

/-- The vector of a restart is where its field is in the opcode. -/
theorem restart_address (opcode : UInt8) :
    (opcode.toNat &&& 0x38) = 8 * (opcode.toNat / 8 % 8) := by
  revert opcode
  exact forall_byte (by decide +kernel)

theorem safe_execute_withFields (opcode : UInt8) (i : Instruction) :
    Safe (execute cpu opcode i) (cpu.execute (withFields opcode.toNat i)) := by
  have hmiddle : opcode.toNat / 8 % 8 < 8 := Nat.mod_lt _ (by decide)
  have hlow : opcode.toNat % 8 < 8 := Nat.mod_lt _ (by decide)
  have hpair : opcode.toNat / 16 % 4 < 4 := Nat.mod_lt _ (by decide)
  have hpointer : opcode.toNat / 16 % 2 < 2 := Nat.mod_lt _ (by decide)
  cases i with
  | mov =>
      exact .bind (safe_readOperand cpu hlow) fun (value, cpu) =>
        .ok (middleField_eq opcode) (safe_writeOperand cpu hmiddle value)
  | mvi =>
      exact .bind (.lift _) fun (value, cpu) =>
        .ok (middleField_eq opcode) (safe_writeOperand cpu hmiddle value)
  | lxi =>
      exact .bind (safe_fetchWord cpu) fun (value, cpu) =>
        .ok (pairField_eq opcode 4)
          (.ok (writeWord_eq cpu.regs hpair value) (.pure _))
  | stax =>
      exact .ok (pairField_eq opcode 2)
        (.ok (readWord_eq_getPair cpu.regs hpointer)
          (.ok (accumulator_eq cpu.regs) (.lift _)))
  | ldax =>
      refine .ok (pairField_eq opcode 2)
        (.ok (readWord_eq_getPair cpu.regs hpointer) ?_)
      exact .bind (.lift _) fun (value, cpu) => .value (setA_eq cpu value)
  | sta =>
      exact .bind (safe_fetchWord cpu) fun (address, cpu) =>
        .ok (accumulator_eq cpu.regs) (.lift _)
  | lda =>
      exact .bind (safe_fetchWord cpu) fun (address, cpu) =>
        .bind (.lift _) fun (value, cpu) => .value (setA_eq cpu value)
  | shld =>
      exact .bind (safe_fetchWord cpu) fun (address, cpu) =>
        safe_writeWordAt cpu address cpu.regs.hl
  | lhld =>
      exact .bind (safe_fetchWord cpu) fun (address, cpu) =>
        .bind (safe_readWordAt cpu address) fun _ => .pure _
  | alu =>
      exact .bind (safe_readOperand cpu hlow) fun (value, cpu) =>
        .ok (middleField_eq opcode) (.value (operate_eq cpu hmiddle value))
  | aluImmediate =>
      exact .bind (.lift _) fun (value, cpu) =>
        .ok (middleField_eq opcode) (.value (operate_eq cpu hmiddle value))
  | inr | dcr =>
      exact .ok (middleField_eq opcode)
        (.bind (safe_readOperand cpu hmiddle) fun _ =>
          safe_writeOperand _ hmiddle _)
  | daa =>
      exact .ok (accumulator_eq cpu.regs)
        (.ok (decimalAdjust_eq cpu.regs.a cpu.regs.f)
          (.ok (setA_eq cpu _) (.pure _)))
  | inx | dcx =>
      exact .ok (pairField_eq opcode 4)
        (.ok (readWord_eq cpu.regs hpair)
          (.ok (writeWord_eq cpu.regs hpair _) (.pure _)))
  | dad =>
      have hleft := cpu.regs.hl.toNat_lt
      have hright :=
        (cpu.regs.getWord (wordRegisterAt (opcode.toNat / 16 % 4))).toNat_lt
      exact .ok (pairField_eq opcode 4)
        (.ok (readWord_eq cpu.regs hpair) (.ok (add_eq (by omega)) (.pure _)))
  | rlc | rrc =>
      exact .ok (accumulator_eq cpu.regs) (.value (setRotated_eq cpu _ _))
  | ral =>
      exact .ok (accumulator_eq cpu.regs)
        (.ok (rotateLeft_eq _ _) (.value (setRotated_eq cpu _ _)))
  | rar =>
      exact .ok (accumulator_eq cpu.regs)
        (.ok (rotateRight_eq _ _) (.value (setRotated_eq cpu _ _)))
  | cma => exact .ok (accumulator_eq cpu.regs) (.value (setA_eq cpu _))
  | jmp => exact .bind (safe_fetchWord cpu) fun _ => .pure _
  | jumpIf =>
      exact .bind (safe_fetchWord cpu) fun (address, cpu) =>
        .ok (middleField_eq opcode)
          (.ok (condition_eq cpu.regs.f hmiddle) (.pure _))
  | call =>
      exact .bind (safe_fetchWord cpu) fun (address, cpu) =>
        safe_callTo cpu address
  | callIf =>
      exact .bind (safe_fetchWord cpu) fun (address, cpu) =>
        .ok (middleField_eq opcode)
          (.ok (condition_eq cpu.regs.f hmiddle)
            (.cond (safe_callTo cpu address) (.pure cpu)))
  | ret => exact safe_ret cpu
  | retIf =>
      exact .ok (middleField_eq opcode)
        (.ok (condition_eq cpu.regs.f hmiddle)
          (.cond (safe_ret cpu) (.pure cpu)))
  | rst =>
      rw [execute, restart_address]
      exact safe_callTo cpu _
  | push =>
      exact .ok (pairField_eq opcode 4)
        (.ok (readPushed_eq cpu.regs hpair) (safe_pushWord cpu _))
  | pop =>
      exact .bind (safe_popWord cpu) fun (value, cpu) =>
        .ok (pairField_eq opcode 4)
          (.ok (writePopped_eq cpu.regs hpair value) (.pure _))
  | xthl =>
      exact .bind (safe_readWordAt cpu _) fun (value, cpu) =>
        .bind (safe_writeWordAt cpu _ _) fun _ => .pure _
  | input =>
      exact .bind (.lift _) fun (port, cpu) =>
        .bind (.lift _) fun (value, cpu) => .value (setA_eq cpu value)
  | output =>
      exact .bind (.lift _) fun (port, cpu) =>
        .ok (accumulator_eq cpu.regs) (.lift _)
  | nop | hlt | di | ei | xchg | stc | cmc | pchl | sphl | undefined =>
      exact .lift _

/-- No opcode traps, whatever is in the registers and whatever the bus
answers, and each does on a host what the instruction in the map does. -/
theorem safe_execute (opcode : UInt8) :
    Safe (execute cpu opcode (decode opcode))
      (cpu.execute (decode opcode)) := by
  have h := safe_execute_withFields cpu opcode (decode opcode)
  rwa [withFields_decode] at h

theorem safe_step : Safe (step cpu) cpu.step := by
  rw [step, Cpu.step]
  exact .cond (.pure _)
    (.bind (.lift _) fun fetched =>
      .bind (safe_execute _ fetched.1) fun _ => .pure _)

end

end S100.Checked
