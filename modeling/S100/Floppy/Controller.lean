import S100.Floppy.Diskette

/-!
# The floppy controller

Up to sixteen drives behind three ports, each with a function on input and
one on output: status and drive select, sector position and command, read
data and write data.

A transfer follows the sector query. With the head loaded, asking for the
sector under the head also arms the transfer of that sector: the next 137
reads (or, once writing is enabled, writes) move it from its first byte to
its last. A sector that was written to the end is committed. Anything else
that comes in between, selecting a drive, moving the head, unloading it or
asking for the next sector, cuts the transfer short; what was written of
it stays in the image and is not committed.

With the head unloaded the query tells the position and arms nothing. The
diskette turns by one sector at each query.

Status bits are active low: a bit is clear when its condition holds. With
no drive selected, or no diskette in it, the status is `0xFF`.
-/

namespace S100

namespace Floppy

/-! ## Status bits and commands -/

namespace Status

/-- The next write will be taken. -/
def enterWrite : UInt8 := 0x01
/-- The head may move. -/
def moveHead : UInt8 := 0x02
def headLoaded : UInt8 := 0x04
def interruptsEnabled : UInt8 := 0x20
def trackZero : UInt8 := 0x40
/-- The next read will give a byte. -/
def newRead : UInt8 := 0x80

/-- No condition holds. -/
def none : UInt8 := 0xFF

end Status

namespace Command

def stepIn : UInt8 := 0x01
def stepOut : UInt8 := 0x02
def loadHead : UInt8 := 0x04
def unloadHead : UInt8 := 0x08
def enableInterrupts : UInt8 := 0x10
def disableInterrupts : UInt8 := 0x20
def enableWriting : UInt8 := 0x80

/-- Whether a command byte holds a command. -/
def has (command bit : UInt8) : Bool :=
  command &&& bit != 0

end Command

/-- Where a head stands after the step commands of a byte: first one track
in, unless it is at the last track, then one out, unless it is at the
first. -/
def stepTrack (command : UInt8) (track : Nat) : Nat :=
  let track :=
    if Command.has command Command.stepIn && track + 1 < tracks then track + 1
    else track
  if Command.has command Command.stepOut && 0 < track then track - 1
  else track

/-- Whether the step commands of a byte move a head at all. -/
def moves (command : UInt8) (track : Nat) : Bool :=
  let canStepIn := Command.has command Command.stepIn && track + 1 < tracks
  canStepIn || (Command.has command Command.stepOut && 0 < track)

/-- The position byte: the sector number in bits 1 to 5, bit 0 low, the
rest high. -/
def sectorByte (sector : Nat) : UInt8 :=
  UInt8.ofNat (0xC0 + 2 * sector)

/-! ## Drives -/

structure Drive where
  diskette : Option Diskette := none
  track : Nat := 0
  /-- The next sector to pass under the head. -/
  sector : Nat := 0
  headLoaded : Bool := false
deriving DecidableEq, Repr

namespace Drive

/-- At the first track, before the first sector, with the head up. -/
def rewind (d : Drive) : Drive :=
  { d with track := 0, sector := 0, headLoaded := false }

def insert (d : Drive) (diskette : Diskette) : Drive :=
  { d with diskette := some diskette }.rewind

def remove (d : Drive) : Drive :=
  { d with diskette := none }.rewind

/-- Let the next sector come round. -/
def turn (d : Drive) : Drive :=
  { d with sector := (d.sector + 1) % sectorsPerTrack }

/-- Move, load and unload the head. -/
def moveHead (command : UInt8) (d : Drive) : Drive :=
  { d with
    track := stepTrack command d.track
    headLoaded :=
      (d.headLoaded || Command.has command Command.loadHead)
        && !Command.has command Command.unloadHead }

def write (offset : Nat) (value : UInt8) (d : Drive) : Drive :=
  { d with diskette := d.diskette.map (·.write offset value) }

def commit (span : Span) (d : Drive) : Drive :=
  { d with diskette := d.diskette.map (·.commit span) }

end Drive

/-- How far the controller is on the way to a transfer. -/
inductive Phase where
  /-- No drive is selected. -/
  | idle
  /-- A drive is selected, and no sector is under way. -/
  | selected
  /-- The head has moved or come down; a sector query is awaited. -/
  | seeking
  /-- A sector is under way. -/
  | ready
deriving DecidableEq, Repr

structure Controller where
  drives : Array Drive
  selected : Option Nat := none
  phase : Phase := .idle
  /-- Where the sector under way begins. -/
  sectorBase : Nat := 0
  /-- How many of its bytes have been moved. -/
  cursor : Nat := 0
  writeEnabled : Bool := false
  interruptsEnabled : Bool := false
  /-- Writes for the host to carry out, oldest first. -/
  journal : Array FileWrite := #[]
deriving DecidableEq, Repr

namespace Controller

def defaultDrives : Nat := 2

/-- A controller has at least one drive and at most sixteen. -/
def driveCountFor (count : Nat) : Nat :=
  max 1 (min count 16)

/-- A controller with empty drives. -/
def ofDrives (count : Nat) : Controller where
  drives := Array.replicate (driveCountFor count) {}

def driveCount (c : Controller) : Nat :=
  c.drives.size

def drive? (c : Controller) (drive : Nat) : Option Drive :=
  c.drives[drive]?

def diskette? (c : Controller) (drive : Nat) : Option Diskette :=
  (c.drive? drive).bind (·.diskette)

/-- The selected drive, if it holds a diskette. -/
def loaded? (c : Controller) : Option Drive :=
  match c.selected with
  | none => none
  | some i => (c.drive? i).filter (·.diskette.isSome)

/-- A sector is under way and the head is down on it. -/
def armed (c : Controller) : Bool :=
  c.phase == .ready && c.loaded?.any (·.headLoaded)

def modifySelected (c : Controller) (f : Drive → Drive) : Controller :=
  match c.selected with
  | none => c
  | some i => { c with drives := c.drives.modify i f }

/-- Forget the sector under way. -/
def abort (c : Controller) : Controller :=
  { c with cursor := 0, writeEnabled := false }

/-- Be done with the sector under way. -/
def finish (c : Controller) : Controller :=
  { c.abort with phase := .selected }

/-! ## The three ports -/

/-- Select the drive in the low four bits. Bit 7, or a drive that is not
there, selects none. -/
def select (c : Controller) (value : UInt8) : Controller :=
  let drive := value.toNat % 16
  if 0x80 ≤ value || c.driveCount ≤ drive then
    { c.abort with selected := none, phase := .idle }
  else
    { c.abort with selected := some drive, phase := .selected }

def status (c : Controller) : UInt8 :=
  if c.phase = .idle then Status.none
  else match c.loaded? with
  | none => Status.none
  | some drive =>
    let bit (condition : Bool) (bits : UInt8) : UInt8 :=
      bif condition then bits else 0
    ~~~(Status.moveHead
      ||| bit (drive.track == 0) Status.trackZero
      ||| bit drive.headLoaded (Status.headLoaded ||| Status.newRead)
      ||| bit c.writeEnabled Status.enterWrite
      ||| bit c.interruptsEnabled Status.interruptsEnabled)

/-- What a command makes of the transfer. Moving the head cuts it short;
loading it while nothing is under way awaits a sector; unloading it ends
it. -/
def afterHead (c : Controller) (command : UInt8) (moved : Bool) :
    Controller :=
  if moved then { c.abort with phase := .seeking }
  else if Command.has command Command.loadHead && c.phase == .selected then
    { c with phase := .seeking }
  else if Command.has command Command.unloadHead then c.finish
  else c

/-- Carry out the commands of a byte: head, interrupts, writing. Without a
diskette nothing is done. -/
def command (c : Controller) (command : UInt8) : Controller :=
  match c.loaded? with
  | none => c
  | some drive =>
    let moved := moves command drive.track
    let c := c.modifySelected (·.moveHead command)
    let c := { c with
      interruptsEnabled :=
        (c.interruptsEnabled || Command.has command Command.enableInterrupts)
          && !Command.has command Command.disableInterrupts }
    let c := c.afterHead command moved
    if Command.has command Command.enableWriting then
      { c with cursor := 0, writeEnabled := true }
    else c

/-- Tell the sector that comes under the head, and, with the head down,
arm its transfer. -/
def querySector (c : Controller) : UInt8 × Controller :=
  match c.loaded? with
  | none => (Status.none, c)
  | some drive =>
    let { track, sector, headLoaded, .. } := drive
    let c := c.modifySelected (·.turn)
    (sectorByte sector,
      if headLoaded then
        { c.abort with
          sectorBase := sectorOffset track sector
          phase := .ready }
      else c)

/-- The sector under way is complete: note it on the diskette, and for the
diskette's file. -/
def commitSector (c : Controller) : Controller :=
  let span : Span := ⟨c.sectorBase, c.sectorBase + sectorSize⟩
  let writes := (c.loaded?.bind (·.diskette)).bind (·.fileWrite? span)
  let c := c.modifySelected (·.commit span)
  { c with journal := c.journal ++ writes.toArray }

def writeData (c : Controller) (value : UInt8) : Controller :=
  if c.armed && c.writeEnabled then
    let offset := c.sectorBase + c.cursor
    let c := c.modifySelected (·.write offset value)
    if c.cursor + 1 = sectorSize then c.commitSector.finish
    else { c with cursor := c.cursor + 1 }
  else c

/-- Past the end of the image, and with nothing to read, the byte is 0. -/
def readData (c : Controller) : UInt8 × Controller :=
  if c.armed && !c.writeEnabled then
    let diskette := c.loaded?.bind (·.diskette)
    let value := (diskette.bind (·.read (c.sectorBase + c.cursor))).getD 0
    (value,
      if c.cursor + 1 = sectorSize then c.finish
      else { c with cursor := c.cursor + 1 })
  else (0, c)

/-! ## Handling diskettes -/

def finishIfSelected (c : Controller) (drive : Nat) : Controller :=
  if c.selected = some drive then c.finish else c

/-- Put a diskette into a drive, in place of what was there. Fails where
there is no such drive. -/
def mount (c : Controller) (drive : Nat) (diskette : Diskette) :
    Option Controller :=
  if drive < c.driveCount then
    some ({ c with drives := c.drives.modify drive (·.insert diskette) }
      |>.finishIfSelected drive)
  else none

/-- Take the diskette out of a drive. -/
def eject (c : Controller) (drive : Nat) : Option Diskette × Controller :=
  if drive < c.driveCount then
    (c.diskette? drive,
      { c with drives := c.drives.modify drive (·.remove) }
        |>.finishIfSelected drive)
  else (none, c)

/-- Deselect everything and raise all heads. Diskettes and head positions
stay. -/
def reset (c : Controller) : Controller :=
  { c.abort with
    selected := none
    phase := .idle
    interruptsEnabled := false
    drives := c.drives.map ({ · with headLoaded := false }) }

/-- Hand over the writes that the host has not carried out yet. -/
def takeJournal (c : Controller) : Array FileWrite × Controller :=
  (c.journal, { c with journal := #[] })

end Controller

end Floppy

end S100
