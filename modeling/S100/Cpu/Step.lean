import S100.Bus
import S100.Cpu.Arithmetic
import S100.Cpu.Instruction

/-!
# The processor

`Cpu.step` is one instruction: fetch an opcode, look it up, do what it
says. It is a dialogue with the bus, so that it can be held with any
system.

Beside its registers the processor has the interrupt-enable latch, the
halt latch, which only a reset or the front panel releases, and three
things that are only there to be looked at: the address and data lights,
which show the last cycle, and the last opcode fetched.

`execute` does what an instruction says; `outcome` is what is reported of
it. Conditional jumps and calls fetch their address whether or not they
use it.
-/

namespace S100

/-- What the front panel shows of the bus. -/
structure Lights where
  address : UInt16 := 0
  data : UInt8 := 0
deriving DecidableEq, Repr

structure Cpu where
  regs : Registers := {}
  interruptsEnabled : Bool := false
  halted : Bool := false
  lights : Lights := {}
  /-- The last opcode fetched. -/
  opcode : UInt8 := 0
deriving DecidableEq, Repr

/-- What is reported of a step. -/
inductive StepResult where
  | executed
  | halted
  | undefinedOpcode (opcode : UInt8)
deriving DecidableEq, Repr

/-- Whether the condition holds of a flags byte. -/
def Condition.holds (condition : Condition) (flags : UInt8) : Bool :=
  match condition with
  | .nz => !Flag.zero.isSet flags
  | .z => Flag.zero.isSet flags
  | .nc => !Flag.carry.isSet flags
  | .c => Flag.carry.isSet flags
  | .po => !Flag.parity.isSet flags
  | .pe => Flag.parity.isSet flags
  | .p => !Flag.sign.isSet flags
  | .m => Flag.sign.isSet flags

/-- What an operation makes of the accumulator, another byte and the
carry. A comparison's value is the difference, which is not kept. -/
def Operation.apply (operation : Operation) (a b : UInt8) (carry : Bool) :
    Flagged :=
  match operation with
  | .add => Arithmetic.add a b false
  | .adc => Arithmetic.add a b carry
  | .sub => Arithmetic.sub a b false
  | .sbb => Arithmetic.sub a b carry
  | .ana => Arithmetic.logic (a &&& b)
  | .xra => Arithmetic.logic (a ^^^ b)
  | .ora => Arithmetic.logic (a ||| b)
  | .cmp => Arithmetic.sub a b false

namespace Cpu

/-! ## Bus cycles

Every cycle leaves its address and data on the lights. A port number
shows on both halves of the address. -/

def readAt (cpu : Cpu) (address : UInt16) : Dialogue (UInt8 × Cpu) :=
  .read address fun data => .done (data, { cpu with lights := ⟨address, data⟩ })

def writeAt (cpu : Cpu) (address : UInt16) (data : UInt8) : Dialogue Cpu :=
  .write address data (.done { cpu with lights := ⟨address, data⟩ })

def inputFrom (cpu : Cpu) (port : UInt8) : Dialogue (UInt8 × Cpu) :=
  .input port fun data =>
    .done (data, { cpu with lights := ⟨word port port, data⟩ })

def outputTo (cpu : Cpu) (port data : UInt8) : Dialogue Cpu :=
  .output port data (.done { cpu with lights := ⟨word port port, data⟩ })

/-- Low byte first. -/
def readWordAt (cpu : Cpu) (address : UInt16) : Dialogue (UInt16 × Cpu) := do
  let (low, cpu) ← cpu.readAt address
  let (high, cpu) ← cpu.readAt (address + 1)
  return (word high low, cpu)

/-- Low byte first. -/
def writeWordAt (cpu : Cpu) (address value : UInt16) : Dialogue Cpu := do
  let cpu ← cpu.writeAt address (lowByte value)
  cpu.writeAt (address + 1) (highByte value)

/-- The byte at the program counter, which moves past it. -/
def fetch (cpu : Cpu) : Dialogue (UInt8 × Cpu) := do
  let (data, cpu) ← cpu.readAt cpu.regs.pc
  return (data, { cpu with regs.pc := cpu.regs.pc + 1 })

def fetchWord (cpu : Cpu) : Dialogue (UInt16 × Cpu) := do
  let (low, cpu) ← cpu.fetch
  let (high, cpu) ← cpu.fetch
  return (word high low, cpu)

/-- High byte first, at the two addresses below the stack pointer. -/
def pushWord (cpu : Cpu) (value : UInt16) : Dialogue Cpu := do
  let sp := cpu.regs.sp
  let cpu ← cpu.writeAt (sp - 1) (highByte value)
  let cpu ← cpu.writeAt (sp - 2) (lowByte value)
  return { cpu with regs.sp := sp - 2 }

def popWord (cpu : Cpu) : Dialogue (UInt16 × Cpu) := do
  let sp := cpu.regs.sp
  let (value, cpu) ← cpu.readWordAt sp
  return (value, { cpu with regs.sp := sp + 2 })

def load (cpu : Cpu) : Operand → Dialogue (UInt8 × Cpu)
  | .reg register => .done (cpu.regs.get register, cpu)
  | .mem => cpu.readAt cpu.regs.hl

def store (cpu : Cpu) (target : Operand) (value : UInt8) : Dialogue Cpu :=
  match target with
  | .reg register => .done { cpu with regs := cpu.regs.set register value }
  | .mem => cpu.writeAt cpu.regs.hl value

/-! ## Execution -/

def jumpTo (cpu : Cpu) (address : UInt16) : Cpu :=
  { cpu with regs.pc := address }

/-- Push the address of the next instruction and jump. -/
def callTo (cpu : Cpu) (address : UInt16) : Dialogue Cpu := do
  let cpu ← cpu.pushWord cpu.regs.pc
  return cpu.jumpTo address

def ret (cpu : Cpu) : Dialogue Cpu := do
  let (address, cpu) ← cpu.popWord
  return cpu.jumpTo address

def holds (cpu : Cpu) (condition : Condition) : Bool :=
  condition.holds cpu.regs.f

def operate (cpu : Cpu) (operation : Operation) (value : UInt8) : Cpu :=
  let result := operation.apply cpu.regs.a value (cpu.regs.hasFlag .carry)
  let regs := cpu.regs.setFlags result.flags
  { cpu with
    regs := if operation = .cmp then regs else { regs with a := result.value } }

/-- Store a byte operation's result, with its flags and the present
carry. -/
def storeKeepingCarry (cpu : Cpu) (target : Operand) (result : Flagged) :
    Dialogue Cpu :=
  let flags := cpu.regs.f &&& Flag.carry.bit ||| result.flags
  { cpu with regs := cpu.regs.setFlags flags }.store target result.value

/-- Put a rotated accumulator and the bit that left it in place. -/
def setRotated (cpu : Cpu) (a : UInt8) (carry : Bool) : Cpu :=
  { cpu with regs := { cpu.regs with a }.setCarry carry }

/-- Do what an instruction says. The program counter is already past the
opcode. -/
def execute (cpu : Cpu) : Instruction → Dialogue Cpu
  | .nop | .undefined => return cpu
  | .hlt => return { cpu with halted := true }
  | .di => return { cpu with interruptsEnabled := false }
  | .ei => return { cpu with interruptsEnabled := true }
  | .mov target source => do
    let (value, cpu) ← cpu.load source
    cpu.store target value
  | .mvi target => do
    let (value, cpu) ← cpu.fetch
    cpu.store target value
  | .lxi target => do
    let (value, cpu) ← cpu.fetchWord
    return { cpu with regs := cpu.regs.setWord target value }
  | .stax pointer => cpu.writeAt (cpu.regs.getPair pointer) cpu.regs.a
  | .ldax pointer => do
    let (a, cpu) ← cpu.readAt (cpu.regs.getPair pointer)
    return { cpu with regs.a := a }
  | .sta => do
    let (address, cpu) ← cpu.fetchWord
    cpu.writeAt address cpu.regs.a
  | .lda => do
    let (address, cpu) ← cpu.fetchWord
    let (a, cpu) ← cpu.readAt address
    return { cpu with regs.a := a }
  | .shld => do
    let (address, cpu) ← cpu.fetchWord
    cpu.writeWordAt address cpu.regs.hl
  | .lhld => do
    let (address, cpu) ← cpu.fetchWord
    let (value, cpu) ← cpu.readWordAt address
    return { cpu with regs := cpu.regs.setPair .hl value }
  | .xchg =>
    let { d, e, h, l, .. } := cpu.regs
    return { cpu with regs := { cpu.regs with d := h, e := l, h := d, l := e } }
  | .alu operation source => do
    let (value, cpu) ← cpu.load source
    return cpu.operate operation value
  | .aluImmediate operation => do
    let (value, cpu) ← cpu.fetch
    return cpu.operate operation value
  | .inr target => do
    let (value, cpu) ← cpu.load target
    cpu.storeKeepingCarry target (Arithmetic.increment value)
  | .dcr target => do
    let (value, cpu) ← cpu.load target
    cpu.storeKeepingCarry target (Arithmetic.decrement value)
  | .daa =>
    let result := Arithmetic.decimalAdjust cpu.regs.a cpu.regs.f
    return { cpu with
      regs := { cpu.regs with a := result.value }.setFlags result.flags }
  | .inx target =>
    let value := cpu.regs.getWord target + 1
    return { cpu with regs := cpu.regs.setWord target value }
  | .dcx target =>
    let value := cpu.regs.getWord target - 1
    return { cpu with regs := cpu.regs.setWord target value }
  | .dad source =>
    let sum := cpu.regs.hl.toNat + (cpu.regs.getWord source).toNat
    let regs := cpu.regs.setPair .hl (UInt16.ofNat sum)
    return { cpu with regs := regs.setCarry (0x10000 ≤ sum) }
  | .rlc =>
    let a := cpu.regs.a
    return cpu.setRotated (a <<< 1 ||| a >>> 7) (0x80 ≤ a)
  | .rrc =>
    let a := cpu.regs.a
    return cpu.setRotated (a >>> 1 ||| a <<< 7) (a % 2 == 1)
  | .ral =>
    let a := cpu.regs.a
    let low : UInt8 := bif cpu.regs.hasFlag .carry then 0x01 else 0
    return cpu.setRotated (a <<< 1 ||| low) (0x80 ≤ a)
  | .rar =>
    let a := cpu.regs.a
    let high : UInt8 := bif cpu.regs.hasFlag .carry then 0x80 else 0
    return cpu.setRotated (a >>> 1 ||| high) (a % 2 == 1)
  | .cma => return { cpu with regs.a := ~~~cpu.regs.a }
  | .stc => return { cpu with regs := cpu.regs.setCarry true }
  | .cmc =>
    return { cpu with regs := cpu.regs.setCarry !cpu.regs.hasFlag .carry }
  | .jmp => do
    let (address, cpu) ← cpu.fetchWord
    return cpu.jumpTo address
  | .jumpIf condition => do
    let (address, cpu) ← cpu.fetchWord
    return if cpu.holds condition then cpu.jumpTo address else cpu
  | .call => do
    let (address, cpu) ← cpu.fetchWord
    cpu.callTo address
  | .callIf condition => do
    let (address, cpu) ← cpu.fetchWord
    if cpu.holds condition then cpu.callTo address else return cpu
  | .ret => cpu.ret
  | .retIf condition =>
    if cpu.holds condition then cpu.ret else return cpu
  | .rst vector => cpu.callTo (UInt16.ofNat (8 * vector.val))
  | .pchl => return cpu.jumpTo cpu.regs.hl
  | .push pair => cpu.pushWord (cpu.regs.pushed pair)
  | .pop pair => do
    let (value, cpu) ← cpu.popWord
    return { cpu with regs := cpu.regs.setPopped pair value }
  | .xthl => do
    let (value, cpu) ← cpu.readWordAt cpu.regs.sp
    let cpu ← cpu.writeWordAt cpu.regs.sp cpu.regs.hl
    return { cpu with regs := cpu.regs.setPair .hl value }
  | .sphl => return { cpu with regs.sp := cpu.regs.hl }
  | .input => do
    let (port, cpu) ← cpu.fetch
    let (a, cpu) ← cpu.inputFrom port
    return { cpu with regs.a := a }
  | .output => do
    let (port, cpu) ← cpu.fetch
    cpu.outputTo port cpu.regs.a

/-- What is reported of an executed opcode. -/
def outcome (opcode : UInt8) : StepResult :=
  match Instruction.decode opcode with
  | .hlt => .halted
  | .undefined => .undefinedOpcode opcode
  | _ => .executed

/-- One instruction. A halted processor makes no cycle. -/
def step (cpu : Cpu) : Dialogue (StepResult × Cpu) :=
  if cpu.halted then
    return (.halted, cpu)
  else do
    let (opcode, cpu) ← cpu.fetch
    let cpu ← { cpu with opcode }.execute (Instruction.decode opcode)
    return (outcome opcode, cpu)

end Cpu

end S100
