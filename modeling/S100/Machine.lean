import S100.Altair
import S100.Cpm

/-!
# The machines

The machines that can be asked for by name, and what they have in common.
`MachineKind.find?` looks a name up, `MachineKind.build` sets a machine of
a kind up, and `Machine` is what can then be done with it, whatever its
kind.
-/

namespace S100

inductive MachineKind where
  | altair8800
  | cpm
deriving DecidableEq, Repr

namespace MachineKind

def name : MachineKind → String
  | altair8800 => "altair8800"
  | cpm => "cpm"

def description : MachineKind → String
  | altair8800 => "MITS Altair 8800 with 88-2SIO console and 88-DCDD floppy"
  | cpm => "CP/M .COM runner with host BDOS console calls (CPU exercisers)"

/-- All kinds, in the order of their names. -/
def all : List MachineKind :=
  [altair8800, cpm]

def find? (name : String) : Option MachineKind :=
  all.find? (·.name == name)

end MachineKind

inductive Machine where
  | altair (machine : Altair)
  | cpm (machine : Cpm)

namespace Machine

def kind : Machine → MachineKind
  | altair _ => .altair8800
  | cpm _ => .cpm

def cpu : Machine → Cpu
  | altair m => m.cpu
  | cpm m => m.cpu

def bus : Machine → Backplane
  | altair m => m.bus
  | cpm m => m.bus

def step : Machine → StepResult × Machine
  | altair m =>
    let (result, m) := m.step
    (result, altair m)
  | cpm m =>
    let (result, m) := m.step
    (result, cpm m)

instance : Steppable Machine where
  step := step
  pc m := m.cpu.regs.pc

def load (address : UInt16) (image : Bytes) : Machine → Machine
  | altair m => altair (m.load address image)
  | cpm m => cpm (m.load address image)

def reset : Machine → Machine
  | altair m => altair m.reset
  | cpm m => cpm m.reset

def examine (address : UInt16) : Machine → Machine
  | altair m => altair (m.examine address)
  | cpm m => cpm (m.examine address)

def mapCpu (f : Cpu → Cpu) : Machine → Machine
  | altair m => altair { m with cpu := f m.cpu }
  | cpm m => cpm { m with cpu := f m.cpu }

def mapPorts (f : Ports → Ports) : Machine → Machine
  | altair m => altair (m.mapPorts f)
  | cpm m => cpm { m with bus.ports := f m.bus.ports }

def mapDevices (f : Devices → Devices) (m : Machine) : Machine :=
  m.mapPorts fun p => { p with devices := f p.devices }

def devices (m : Machine) : Devices :=
  m.bus.ports.devices

/-- Hand over the writes to host files that have come up. -/
def takeJournal (m : Machine) : Array FileWrite × Machine :=
  (m.devices.disks.journal,
    m.mapDevices fun d => { d with disks := d.disks.takeJournal.2 })

end Machine

/-- Set up a machine of a kind. -/
def MachineKind.build (kind : MachineKind) (files : FileSource)
    (settings : Settings) (devices : Devices) : Except SetupError Machine :=
  match kind with
  | .altair8800 => (Altair.ofSettings files settings devices).map .altair
  | .cpm => (Cpm.ofSettings files settings devices).map .cpm

end S100
