import S100.Altair

/-!
# The CP/M runner

Just enough of CP/M to run a program that only talks to its console. The
program is loaded at `0x0100`. Below it, page zero holds a halt at the warm
boot address, a return at the entry of the operating system, and the
address of the first byte above the program area. The stack begins there
with a return address of 0, so that a program which returns halts.

When the processor is about to execute the entry of the operating system,
the host does what register C asks for: print the byte in E (2), or print
the bytes at DE up to a dollar sign (9). The return that stands at the
entry then leads back. Anything else is ignored.
-/

namespace S100

structure Cpm where
  cpu : Cpu := {}
  bus : Backplane

namespace Cpm

def programStart : UInt16 := 0x0100

/-- Where programs call the operating system. -/
def systemEntry : UInt16 := 0x0005

/-- The first byte above the program area. -/
def programTop : UInt16 := 0xFE00

def haltOpcode : UInt8 := 0x76

def returnOpcode : UInt8 := 0xC9

/-- Hold a dialogue of the processor with the backplane. -/
def hold {α : Type} (m : Cpm) (d : Dialogue (α × Cpu)) : α × Cpm :=
  match m with
  | ⟨_, bus⟩ =>
    let ((a, cpu), bus) := d.run bus
    (a, ⟨cpu, bus⟩)

def examine (m : Cpm) (address : UInt16) : Cpm :=
  (m.hold (do return ((), ← m.cpu.examine address))).2

def installPageZero (memory : Memory) : Memory :=
  memory.write 0x0000 haltOpcode
    |>.write systemEntry returnOpcode
    |>.writeWord (systemEntry + 1) programTop

/-- Power-on state, page zero and an empty stack; the program that is
loaded starts over. -/
def reset (m : Cpm) : Cpm :=
  let disks := m.bus.ports.devices.disks.reset
  let memory := (installPageZero m.bus.memory).writeWord (programTop - 2) 0
  let bus := { m.bus with memory, ports.devices.disks := disks }
  { m with bus, cpu := { regs.sp := programTop - 2 } }.examine programStart

/-- A machine with 64K of memory. -/
def ofDevices (devices : Devices) : Cpm :=
  { bus := { memory := .ofSize addressSpace, ports := { devices } } : Cpm }.reset

/-- Load a program, refusing one that does not fit below the stack. -/
def loadProgram (m : Cpm) (program : Bytes) : Except SetupError Cpm :=
  if programTop.toNat < programStart.toNat + program.size then
    .error (.imageTooLarge "program" program.size programStart
      programTop.toNat)
  else do
    let memory ← m.bus.memory.loadImage "program" programStart program
    return { m with bus.memory := memory }

def load (m : Cpm) (address : UInt16) (image : Bytes) : Cpm :=
  { m with bus.memory := m.bus.memory.load address image }

/-! ## The operating system -/

/-- Add to `printed` the bytes from an address up to a dollar sign, at most
`count` of them. -/
def readString (memory : Memory) : Nat → UInt16 → Bytes → Bytes
  | 0, _, printed => printed
  | count + 1, address, printed =>
    let byte := memory.read address
    if byte = 0x24 then printed
    else readString memory count (address + 1) (printed.push byte)

/-- What a system call prints. A string without an end is printed once
around the address space. -/
def systemOutput (m : Cpm) : Bytes :=
  if m.cpu.regs.c = 2 then #[m.cpu.regs.e]
  else if m.cpu.regs.c = 9 then
    readString m.bus.memory addressSpace (m.cpu.regs.getPair .de) #[]
  else #[]

def print (m : Cpm) (bytes : Bytes) : Cpm :=
  { m with
    bus.ports.devices.console :=
      bytes.foldl (fun console byte => console.writeByte byte)
        m.bus.ports.devices.console }

/-- Whether the processor is about to call the operating system. -/
def atSystemEntry (m : Cpm) : Bool :=
  m.cpu.regs.pc = systemEntry && !m.cpu.halted

def step (m : Cpm) : StepResult × Cpm :=
  let m := if m.atSystemEntry then m.print m.systemOutput else m
  m.hold m.cpu.step

instance : Steppable Cpm where
  step := step
  pc m := m.cpu.regs.pc

/-! ## Setting up -/

/-- A machine with the program that the settings name. -/
def ofSettings (files : FileSource) (settings : Settings)
    (devices : Devices) : Except SetupError Cpm := do
  match settings.program with
  | none => throw (.missingProgram "cpm")
  | some path =>
    let program ← files.image path
    (ofDevices devices).loadProgram program

end Cpm

end S100
