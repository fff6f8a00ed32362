import S100.Files.Journal

/-!
# Diskettes

A hard-sectored eight-inch diskette has 77 tracks of 32 sectors of 137
bytes, 337,568 bytes in all, laid out one after the other. A shorter image
is a diskette all the same: past its end there is nothing to read, and
nothing can be written.

An image may be held in a host file. The whole of it is then in memory,
and what the file gets to see are the spans that are *committed*: sectors
that were written from their first byte to their last. `fileWrite?` is
what the file is told of a span. Spans that do not lie inside the image,
and diskettes that are write-protected, tell it nothing.
-/

namespace S100

namespace Floppy

def tracks : Nat := 77

def sectorsPerTrack : Nat := 32

def sectorSize : Nat := 137

/-- The size of a full image. -/
def diskSize : Nat := tracks * sectorsPerTrack * sectorSize

/-- What a formatted diskette holds in every byte. -/
def formatFill : UInt8 := 0xE5

/-- Where a sector begins in the image. -/
def sectorOffset (track sector : Nat) : Nat :=
  (track * sectorsPerTrack + sector) * sectorSize

end Floppy

/-- The offsets from `start` up to but not including `stop`. -/
structure Span where
  start : Nat
  stop : Nat
deriving DecidableEq, Repr

structure Diskette where
  bytes : Bytes
  writeProtected : Bool := false
  /-- The host file that holds the image, if one does. -/
  file : Option String := none
  /-- The spans committed so far, oldest first. -/
  committed : Array Span := #[]
deriving DecidableEq, Repr

namespace Diskette

/-- A formatted, empty diskette. -/
def blank : Diskette where
  bytes := Array.replicate Floppy.diskSize Floppy.formatFill

def size (d : Diskette) : Nat :=
  d.bytes.size

/-- The byte at an offset, if the image reaches that far. -/
def read (d : Diskette) (offset : Nat) : Option UInt8 :=
  d.bytes[offset]?

/-- Whether a byte can be stored at an offset. -/
def accepts (d : Diskette) (offset : Nat) : Bool :=
  !d.writeProtected && offset < d.size

/-- Store a byte, where the diskette accepts it. -/
def write (d : Diskette) (offset : Nat) (value : UInt8) : Diskette :=
  if d.writeProtected then d
  else { d with bytes := d.bytes.setIfInBounds offset value }

/-- Note that a span is complete. -/
def commit (d : Diskette) (span : Span) : Diskette :=
  { d with committed := d.committed.push span }

/-- What the host file is told of a committed span. -/
def fileWrite? (d : Diskette) (span : Span) : Option FileWrite :=
  match d.file with
  | none => none
  | some path =>
    if !d.writeProtected && span.start ≤ span.stop && span.stop ≤ d.size then
      some { path, offset := span.start,
             bytes := d.bytes.extract span.start span.stop }
    else none

/-! ## Size and contents -/

@[simp] theorem size_write (d : Diskette) (offset : Nat) (value : UInt8) :
    (d.write offset value).size = d.size := by
  unfold write size
  split <;> simp

@[simp] theorem size_commit (d : Diskette) (span : Span) :
    (d.commit span).size = d.size := rfl

theorem read_write (d : Diskette) (offset other : Nat) (value : UInt8) :
    (d.write offset value).read other =
      if offset = other ∧ d.accepts offset then some value
      else d.read other := by
  unfold write read accepts size
  cases d.writeProtected
  · by_cases h : offset = other
    · subst h
      by_cases hs : offset < d.bytes.size <;> simp [hs]
    · simp [h]
  · simp

end Diskette

end S100
