import S100.Backplane
import S100.Cpu.FrontPanel
import S100.Run
import S100.Setup.Image
import S100.Setup.Settings

/-!
# The Altair 8800

A processor on a backplane, with a front panel. `Altair.ofSettings` sets
one up: the settings are checked, the images are loaded in the order they
are given, the diskettes are mounted in theirs, and the start address is
examined. The first of these that fails decides the error.
-/

namespace S100

structure Altair where
  cpu : Cpu := {}
  bus : Backplane
  startAddress : UInt16 := 0

namespace Altair

/-- A machine with the standard wiring, its memory zeroed. -/
def ofMemory (memorySize : Nat) (devices : Devices) : Altair where
  bus := { memory := .ofSize memorySize, ports := { devices } }

/-- Hold a dialogue of the processor with the backplane. -/
def hold {α : Type} (m : Altair) (d : Dialogue (α × Cpu)) : α × Altair :=
  match m with
  | ⟨_, bus, startAddress⟩ =>
    let ((a, cpu), bus) := d.run bus
    (a, ⟨cpu, bus, startAddress⟩)

def step (m : Altair) : StepResult × Altair :=
  m.hold m.cpu.step

instance : Steppable Altair where
  step := step
  pc m := m.cpu.regs.pc

/-! ## Memory and devices -/

def load (m : Altair) (address : UInt16) (image : Bytes) : Altair :=
  { m with bus.memory := m.bus.memory.load address image }

/-- Exchange what the ports and their devices are for something else. -/
def mapPorts (m : Altair) (f : Ports → Ports) : Altair :=
  { m with bus.ports := f m.bus.ports }

def disks (m : Altair) : Floppy.Controller :=
  m.bus.ports.devices.disks

def mapDisks (m : Altair) (f : Floppy.Controller → Floppy.Controller) :
    Altair :=
  { m with bus.ports.devices.disks := f m.bus.ports.devices.disks }

/-- Mount a diskette, refusing a drive that the controller does not
have. -/
def mount (m : Altair) (drive : Nat) (diskette : Diskette) :
    Except SetupError Altair :=
  match m.disks.mount drive diskette with
  | some disks => .ok (m.mapDisks fun _ => disks)
  | none => .error (.driveOutOfRange drive m.disks.driveCount)

/-- Power-on state for the processor and the controller. Memory, console
and diskettes stay. -/
def reset (m : Altair) : Altair :=
  { m with cpu := {} }.mapDisks (·.reset)

/-- Reset with other devices on the ports. -/
def resetWith (m : Altair) (devices : Devices) : Altair :=
  m.mapPorts ({ · with devices }) |>.reset

/-! ## Front panel -/

/-- Hold a dialogue of the front panel. -/
def panel (m : Altair) (d : Dialogue Cpu) : Altair :=
  (m.hold (do return ((), ← d))).2

def examine (m : Altair) (address : UInt16) : Altair :=
  m.panel (m.cpu.examine address)

def examineNext (m : Altair) : Altair :=
  m.panel m.cpu.examineNext

def deposit (m : Altair) (data : UInt8) : Altair :=
  m.panel (m.cpu.deposit data)

def depositNext (m : Altair) (data : UInt8) : Altair :=
  m.panel (m.cpu.depositNext data)

/-! ## Setting up -/

def loadRom (files : FileSource) (m : Altair) (rom : RomSetting) :
    Except SetupError Altair := do
  let image ← files.image rom.path
  let memory ← m.bus.memory.loadImage rom.path rom.address image
  return { m with bus.memory := memory }

def mountDisk (files : FileSource) (m : Altair) (disk : DiskSetting) :
    Except SetupError Altair := do
  let diskette ← files.diskette disk.path
  m.mount disk.drive diskette

/-- A machine as the settings describe it, with the given devices. -/
def ofSettings (files : FileSource) (settings : Settings)
    (devices : Devices) : Except SetupError Altair := do
  settings.check
  let m := ofMemory settings.memorySize devices
  let m ← settings.roms.foldlM (loadRom files) m
  let m ← settings.disks.foldlM (mountDisk files) m
  return { m with startAddress := settings.startAddress }.examine
    settings.startAddress

end Altair

end S100
