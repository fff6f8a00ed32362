import S100.Files.Tree
import S100.Floppy.Diskette
import S100.Memory
import S100.Setup.Error

/-!
# Images

Memory images are files that are copied into memory whole or not at all.
Disk images are files that are mounted as diskettes.
-/

namespace S100

/-- The contents of an image file. -/
def FileSource.image (files : FileSource) (path : String) :
    Except SetupError Bytes :=
  (files.read path).mapError (.access path)

/-- The diskette that an image file holds. -/
def FileSource.diskette (files : FileSource) (path : String) :
    Except SetupError Diskette := do
  let disk ← (files.openDisk path).mapError (.access path)
  return { bytes := disk.bytes, writeProtected := disk.readOnly,
           file := some path }

/-- Copy an image into memory, refusing one that would run past its
end. -/
def Memory.loadImage (m : Memory) (name : String) (address : UInt16)
    (image : Bytes) : Except SetupError Memory :=
  if m.size < address.toNat + image.size then
    .error (.imageTooLarge name image.size address m.size)
  else .ok (m.load address image)

namespace Memory

variable {m : Memory} {address : UInt16} {image : Bytes}

theorem loadImage_of_fits (name : String)
    (h : address.toNat + image.size ≤ m.size) :
    m.loadImage name address image = .ok (m.load address image) :=
  if_neg (Nat.not_lt.mpr h)

theorem loadImage_of_exceeds (name : String)
    (h : m.size < address.toNat + image.size) :
    m.loadImage name address image =
      .error (.imageTooLarge name image.size address m.size) :=
  if_pos h

end Memory

end S100
