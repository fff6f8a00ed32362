import Mathlib.Logic.Function.Basic
import S100.Proofs.Cpu.Plant

/-!
# The processor by the fields of its opcodes

A second account of the processor, which shares nothing with the first but
the names of its results. It computes with numbers instead of bytes and
words, keeps the registers in one table, and never looks an opcode up: an
opcode `xxyyyzzz` is taken apart into its fields, and where an instruction
names a register, an operation, a condition or a restart address, it does
so by a field's value. `p` is the upper two bits of `y`, and `q` its
lowest one.

Flags are arithmetic. Each is read off a sum: carry says that the sum left
eight bits, auxiliary carry that the sum of the low halves left four.
A difference is the sum with the complement, and its carry is the carry
that did not come out.

`State.step` is one instruction of a processor that is not halted.
-/

namespace S100.Reference

/-! ## Fields -/

/-- What a field of two bits can be. -/
theorem eq_of_lt_four {n : Nat} (h : n < 4) :
    n = 0 ∨ n = 1 ∨ n = 2 ∨ n = 3 := by
  omega

/-- What a field of three bits can be. -/
theorem eq_of_lt_eight {n : Nat} (h : n < 8) :
    n = 0 ∨ n = 1 ∨ n = 2 ∨ n = 3 ∨ n = 4 ∨ n = 5 ∨ n = 6 ∨ n = 7 := by
  omega

/-! ## Flags as numbers -/

/-- Sign, zero, auxiliary carry, parity and carry, in the places that they
have in the flags byte. -/
def flagBits (sign zero auxCarry parity carry : Bool) : Nat :=
  128 * sign.toNat + 64 * zero.toNat + 16 * auxCarry.toNat
    + 4 * parity.toNat + carry.toNat

/-- Whether an even number of a byte's eight bits are set. -/
def evenOnes (value : Nat) : Bool :=
  (List.range 8).countP value.testBit % 2 == 0

/-- The flags of a byte that an operation with these carries left. -/
def flagsOf (value : Nat) (auxCarry carry : Bool) : Nat :=
  flagBits (128 ≤ value) (value = 0) auxCarry (evenOnes value) carry

/-- The flags byte with nothing in its three unused bits. -/
def usedBits (flags : Nat) : Nat :=
  flagBits (flags / 128 % 2 = 1) (flags / 64 % 2 = 1) (flags / 16 % 2 = 1)
    (flags / 4 % 2 = 1) (flags % 2 = 1)

/-! ## Arithmetic

Each operation gives a byte and the flags that go with it. -/

def sum (a v c : Nat) : Nat × Nat :=
  let total := a + v + c
  (total % 256,
    flagsOf (total % 256) (15 < a % 16 + v % 16 + c) (255 < total))

def difference (a v b : Nat) : Nat × Nat :=
  let total := a + (255 - v) + (1 - b)
  (total % 256,
    flagsOf (total % 256) (15 < a % 16 + (15 - v % 16) + (1 - b))
      (total ≤ 255))

def bitwise (value : Nat) : Nat × Nat :=
  (value, flagsOf value false false)

/-- Operation `y` on the accumulator, an operand and the carry. The last
one compares: it leaves the accumulator as it is. -/
def operation (y a v c : Nat) : Nat × Nat :=
  match y with
  | 0 => sum a v 0
  | 1 => sum a v c
  | 2 => difference a v 0
  | 3 => difference a v c
  | 4 => bitwise (a &&& v)
  | 5 => bitwise (a ^^^ v)
  | 6 => bitwise (a ||| v)
  | _ => (a, (difference a v 0).2)

/-- The decimal digits that a binary sum of decimal digits stands for: 6
more for a low digit that is too large or carried, 96 more for a number
that is too large or carried. -/
def decimal (a flags : Nat) : Nat × Nat :=
  let low : Bool := 9 < a % 16 ∨ flags / 16 % 2 = 1
  let high : Bool := 0x99 < a ∨ flags % 2 = 1
  let correction := 6 * low.toNat + 96 * high.toNat
  let total := a + correction
  (total % 256,
    flagsOf (total % 256) (15 < a % 16 + correction % 16) high)

/-- Condition `y`: a flag chosen by the upper two bits of `y` is as the
lowest one says. -/
def condition (y flags : Nat) : Bool :=
  let weight :=
    match y / 2 with
    | 0 => 64
    | 1 => 1
    | 2 => 4
    | _ => 128
  flags / weight % 2 = y % 2

/-! ## State -/

structure State (π : Type) where
  /-- B, C, D, E, H and L at 0 to 5, the accumulator at 7. -/
  register : Nat → Nat
  flags : Nat
  sp : Nat
  pc : Nat
  interruptsEnabled : Bool
  halted : Bool
  memory : Nat → Nat
  /-- How many addresses, from 0 on, can be written. -/
  size : Nat
  ports : π
  sent : List (UInt8 × UInt8)

namespace State

variable {π : Type}

/-- Go past `n` bytes of the program. -/
def skip (s : State π) (n : Nat) : State π :=
  { s with pc := (s.pc + n) % 65536 }

def jump (s : State π) (address : Nat) : State π :=
  { s with pc := address }

def setRegister (s : State π) (i value : Nat) : State π :=
  { s with register := Function.update s.register i value }

def setFlags (s : State π) (flags : Nat) : State π :=
  { s with flags }

/-- Put a carry in place of the one that is there. -/
def setCarry (s : State π) (carry : Nat) : State π :=
  { s with flags := s.flags / 2 * 2 + carry }

/-- A register pair, or the stack pointer, which is the fourth one. -/
def pair (s : State π) (p : Nat) : Nat :=
  if p = 3 then s.sp
  else 256 * s.register (2 * p) + s.register (2 * p + 1)

def setPair (s : State π) (p value : Nat) : State π :=
  if p = 3 then { s with sp := value }
  else (s.setRegister (2 * p) (value / 256)).setRegister (2 * p + 1)
    (value % 256)

def store (s : State π) (address value : Nat) : State π :=
  if address < s.size then
    { s with memory := Function.update s.memory address value }
  else s

/-- The word at an address, its low byte first. -/
def word (s : State π) (address : Nat) : Nat :=
  s.memory address + 256 * s.memory ((address + 1) % 65536)

def storeWord (s : State π) (address value : Nat) : State π :=
  (s.store address (value % 256)).store ((address + 1) % 65536) (value / 256)

/-- Operand `i`: the memory byte at HL for 6, a register otherwise. -/
def operand (s : State π) (i : Nat) : Nat :=
  if i = 6 then s.memory (s.pair 2) else s.register i

def setOperand (s : State π) (i value : Nat) : State π :=
  if i = 6 then s.store (s.pair 2) value else s.setRegister i value

def push (s : State π) (value : Nat) : State π :=
  let high := (s.sp + 65535) % 65536
  let low := (s.sp + 65534) % 65536
  { (s.store high (value / 256)).store low (value % 256) with sp := low }

def drop (s : State π) : State π :=
  { s with sp := (s.sp + 2) % 65536 }

/-- Push the address of the next instruction and go elsewhere. -/
def call (s : State π) (address : Nat) : State π :=
  (s.push s.pc).jump address

def ret (s : State π) : State π :=
  s.drop.jump (s.word s.sp)

/-- Operation `y` on the accumulator and a byte. -/
def operate (s : State π) (y value : Nat) : State π :=
  let result := operation y (s.register 7) value (s.flags % 2)
  (s.setFlags result.2).setRegister 7 result.1

/-! ## Instructions

In each of these the program counter is already past the opcode. `none`
stands for an opcode that has no meaning. -/

/-- The instructions on the accumulator and the carry alone. -/
def accumulatorRow (s : State π) (y : Nat) : State π :=
  let a := s.register 7
  let c := s.flags % 2
  match y with
  | 0 => (s.setRegister 7 (2 * a % 256 + a / 128)).setCarry (a / 128)
  | 1 => (s.setRegister 7 (a / 2 + 128 * (a % 2))).setCarry (a % 2)
  | 2 => (s.setRegister 7 (2 * a % 256 + c)).setCarry (a / 128)
  | 3 => (s.setRegister 7 (a / 2 + 128 * c)).setCarry (a % 2)
  | 4 =>
    let result := decimal a s.flags
    (s.setFlags result.2).setRegister 7 result.1
  | 5 => s.setRegister 7 (255 - a)
  | 6 => s.setCarry 1
  | _ => s.setCarry (1 - c)

/-- Loads and stores through a pair or at an address that follows. -/
def transferRow (s : State π) (p q : Nat) : State π :=
  if p < 2 then
    if q = 0 then s.store (s.pair p) (s.register 7)
    else s.setRegister 7 (s.memory (s.pair p))
  else
    let address := s.word s.pc
    let s := s.skip 2
    match p, q with
    | 2, 0 => s.storeWord address (s.pair 2)
    | 2, _ => s.setPair 2 (s.word address)
    | _, 0 => s.store address (s.register 7)
    | _, _ => s.setRegister 7 (s.memory address)

/-- Opcodes `00yyyzzz`. -/
def row0 (s : State π) (y z : Nat) : Option (State π) :=
  let p := y / 2
  let q := y % 2
  match z with
  | 0 => if y = 0 then some s else none
  | 1 =>
    if q = 0 then some ((s.skip 2).setPair p (s.word s.pc))
    else
      let total := s.pair 2 + s.pair p
      some ((s.setPair 2 (total % 65536)).setCarry (total / 65536))
  | 2 => some (s.transferRow p q)
  | 3 =>
    let change := if q = 0 then 1 else 65535
    some (s.setPair p ((s.pair p + change) % 65536))
  | 4 =>
    let v := s.operand y
    let r := (v + 1) % 256
    some ((s.setFlags (flagsOf r (15 < v % 16 + 1) (s.flags % 2 = 1))).setOperand
      y r)
  | 5 =>
    let v := s.operand y
    let r := (v + 255) % 256
    some ((s.setFlags (flagsOf r (15 < v % 16 + 15) (s.flags % 2 = 1))).setOperand
      y r)
  | 6 => some ((s.skip 1).setOperand y (s.memory s.pc))
  | _ => some (s.accumulatorRow y)

/-- What is pushed of pair `p`: for the fourth one the accumulator and the
flags, with bit 1 of these set. -/
def pushed (s : State π) (p : Nat) : Nat :=
  if p = 3 then 256 * s.register 7 + (s.flags + 2) else s.pair p

def setPopped (s : State π) (p value : Nat) : State π :=
  if p = 3 then
    (s.setRegister 7 (value / 256)).setFlags (usedBits (value % 256))
  else s.setPair p value

section

variable [PortDevice π]

def input (s : State π) (port : Nat) : State π :=
  let (data, ports) := PortDevice.input s.ports (UInt8.ofNat port)
  { s.setRegister 7 data.toNat with ports }

def output (s : State π) (port : Nat) : State π :=
  let data := UInt8.ofNat (s.register 7)
  { s with
    ports := PortDevice.output s.ports (UInt8.ofNat port) data
    sent := s.sent ++ [(UInt8.ofNat port, data)] }

/-- Opcodes `11yyy011`. -/
def oddRow (s : State π) (y : Nat) : Option (State π) :=
  match y with
  | 0 => some (s.jump (s.word s.pc))
  | 1 => none
  | 2 => some ((s.skip 1).output (s.memory s.pc))
  | 3 => some ((s.skip 1).input (s.memory s.pc))
  | 4 =>
    let top := s.word s.sp
    some ((s.storeWord s.sp (s.pair 2)).setPair 2 top)
  | 5 => some ((s.setPair 1 (s.pair 2)).setPair 2 (s.pair 1))
  | 6 => some { s with interruptsEnabled := false }
  | _ => some { s with interruptsEnabled := true }

/-- Opcodes `11yyyzzz`. -/
def row3 (s : State π) (y z : Nat) : Option (State π) :=
  let p := y / 2
  let q := y % 2
  let taken := condition y s.flags
  match z with
  | 0 => some (if taken then s.ret else s)
  | 1 =>
    if q = 0 then some (s.drop.setPopped p (s.word s.sp))
    else
      match p with
      | 0 => some s.ret
      | 1 => none
      | 2 => some (s.jump (s.pair 2))
      | _ => some { s with sp := s.pair 2 }
  | 2 => some (if taken then s.jump (s.word s.pc) else s.skip 2)
  | 3 => s.oddRow y
  | 4 => some (if taken then (s.skip 2).call (s.word s.pc) else s.skip 2)
  | 5 =>
    if q = 0 then some (s.push (s.pushed p))
    else if p = 0 then some ((s.skip 2).call (s.word s.pc))
    else none
  | 6 => some ((s.skip 1).operate y (s.memory s.pc))
  | _ => some (s.call (8 * y))

/-- What is reported when an instruction leads to `next`, or when an opcode
turns out to have no meaning. -/
def report (s : State π) (opcode : Nat) :
    Option (State π) → StepResult × State π
  | some next => (.executed, next)
  | none => (.undefinedOpcode (UInt8.ofNat opcode), s)

/-- One instruction, with what is reported of it. -/
def step (s : State π) : StepResult × State π :=
  let opcode := s.memory s.pc
  let x := opcode / 64
  let y := opcode / 8 % 8
  let z := opcode % 8
  let s := s.skip 1
  match x with
  | 0 => s.report opcode (s.row0 y z)
  | 1 =>
    if y = 6 ∧ z = 6 then (.halted, { s with halted := true })
    else (.executed, s.setOperand y (s.operand z))
  | 2 => (.executed, s.operate y (s.operand z))
  | _ => s.report opcode (s.row3 y z)

end

end State

end S100.Reference
