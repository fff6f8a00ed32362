import S100.Cpu.Instruction

/-!
# Opcodes by their fields

The opcode map is not a mere table. An opcode is made of fields: its upper
two bits choose a quarter of the map, and the two groups of three bits
below them name, in most of a quarter, an operand, an operation, a
condition or a pair. `Instruction.ofFields` says how, and
`decode_eq_ofFields` that the map is made that way throughout.
-/

namespace S100.Instruction

/-! ## Names by number -/

def registerAt : Nat → Register
  | 0 => .b
  | 1 => .c
  | 2 => .d
  | 3 => .e
  | 4 => .h
  | 5 => .l
  | _ => .a

def operandAt (i : Nat) : Operand :=
  if i = 6 then .mem else .reg (registerAt i)

def operationAt : Nat → Operation
  | 0 => .add
  | 1 => .adc
  | 2 => .sub
  | 3 => .sbb
  | 4 => .ana
  | 5 => .xra
  | 6 => .ora
  | _ => .cmp

def conditionAt : Nat → Condition
  | 0 => .nz
  | 1 => .z
  | 2 => .nc
  | 3 => .c
  | 4 => .po
  | 5 => .pe
  | 6 => .p
  | _ => .m

def wordRegisterAt : Nat → WordRegister
  | 0 => .bc
  | 1 => .de
  | 2 => .hl
  | _ => .sp

def pairAt : Nat → Pair
  | 0 => .bc
  | 1 => .de
  | 2 => .hl
  | _ => .psw

/-! ## The quarters of the map -/

/-- Opcodes `00yyy111`. -/
def ofAccumulator : Nat → Instruction
  | 0 => .rlc
  | 1 => .rrc
  | 2 => .ral
  | 3 => .rar
  | 4 => .daa
  | 5 => .cma
  | 6 => .stc
  | _ => .cmc

/-- Opcodes `00ppq010`. -/
def ofTransfer (p q : Nat) : Instruction :=
  if p < 2 then
    if q = 0 then .stax (pairAt p) else .ldax (pairAt p)
  else
    match p, q with
    | 2, 0 => .shld
    | 2, _ => .lhld
    | _, 0 => .sta
    | _, _ => .lda

/-- Opcodes `00yyyzzz`. -/
def ofRow0 (y z : Nat) : Instruction :=
  let p := y / 2
  let q := y % 2
  match z with
  | 0 => if y = 0 then .nop else .undefined
  | 1 => if q = 0 then .lxi (wordRegisterAt p) else .dad (wordRegisterAt p)
  | 2 => ofTransfer p q
  | 3 => if q = 0 then .inx (wordRegisterAt p) else .dcx (wordRegisterAt p)
  | 4 => .inr (operandAt y)
  | 5 => .dcr (operandAt y)
  | 6 => .mvi (operandAt y)
  | _ => ofAccumulator y

/-- Opcodes `11yyy011`. -/
def ofOdd : Nat → Instruction
  | 0 => .jmp
  | 1 => .undefined
  | 2 => .output
  | 3 => .input
  | 4 => .xthl
  | 5 => .xchg
  | 6 => .di
  | _ => .ei

/-- Opcodes `11yyyzzz`. -/
def ofRow3 (y z : Nat) : Instruction :=
  let p := y / 2
  let q := y % 2
  match z with
  | 0 => .retIf (conditionAt y)
  | 1 =>
    if q = 0 then .pop (pairAt p)
    else
      match p with
      | 0 => .ret
      | 1 => .undefined
      | 2 => .pchl
      | _ => .sphl
  | 2 => .jumpIf (conditionAt y)
  | 3 => ofOdd y
  | 4 => .callIf (conditionAt y)
  | 5 =>
    if q = 0 then .push (pairAt p)
    else if p = 0 then .call
    else .undefined
  | 6 => .aluImmediate (operationAt y)
  | _ => .rst ⟨y % 8, Nat.mod_lt y (by decide)⟩

def ofFields (x y z : Nat) : Instruction :=
  match x with
  | 0 => ofRow0 y z
  | 1 => if y = 6 ∧ z = 6 then .hlt else .mov (operandAt y) (operandAt z)
  | 2 => .alu (operationAt y) (operandAt z)
  | _ => ofRow3 y z

theorem decode_eq_ofFields (opcode : UInt8) :
    decode opcode =
      ofFields (opcode.toNat / 64) (opcode.toNat / 8 % 8)
        (opcode.toNat % 8) := by
  refine of_decide_eq_true (all_decode (p := fun n i =>
    decide (i = ofFields (n / 64) (n / 8 % 8) (n % 8))) ?_ opcode)
  decide +kernel

end S100.Instruction
