import S100.Backplane
import S100.Files.Path
import S100.Setup.Error

/-!
# Settings

What a machine is to be set up with: how much memory, which images go
where, which diskettes are in which drives. Nothing given describes a bare
64K machine with two empty drives.

`check` finds settings that no machine can have. `devices` are the devices
that the settings ask for.
-/

namespace S100

/-- An image to be copied into memory. -/
structure RomSetting where
  path : String
  address : UInt16
deriving DecidableEq, Repr

/-- A diskette to be put into a drive. -/
structure DiskSetting where
  drive : Nat
  path : String
deriving DecidableEq, Repr

structure Settings where
  memorySize : Nat := addressSpace
  startAddress : UInt16 := 0
  senseSwitches : UInt8 := 0
  driveCount : Nat := Floppy.Controller.defaultDrives
  roms : List RomSetting := []
  disks : List DiskSetting := []
  program : Option String := none
deriving DecidableEq, Repr

namespace Settings

/-- The first thing about the settings that cannot be: a memory size out
of range, then a diskette for a drive that is not asked for. -/
def check (s : Settings) : Except SetupError Unit :=
  if s.memorySize = 0 ∨ addressSpace < s.memorySize then
    .error (.invalidMemorySize s.memorySize)
  else match s.disks.find? (s.driveCount ≤ ·.drive) with
  | some disk => .error (.driveOutOfRange disk.drive s.driveCount)
  | none => .ok ()

/-- Take all paths as seen from a directory. -/
def resolve (s : Settings) (base : String) : Settings :=
  { s with
    roms := s.roms.map fun rom => { rom with path := Path.join base rom.path }
    disks := s.disks.map fun disk =>
      { disk with path := Path.join base disk.path }
    program := s.program.map (Path.join base) }

/-- A console, and switches and drives as the settings say. -/
def devices (s : Settings) (console : Console) : Devices where
  console
  switches := s.senseSwitches
  disks := .ofDrives s.driveCount

/-- The files that the settings speak of. -/
def files (s : Settings) : List String :=
  s.roms.map (·.path) ++ s.disks.map (·.path) ++ s.program.toList

end Settings

end S100
