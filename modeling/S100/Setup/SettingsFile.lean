import S100.Setup.Image
import S100.Setup.Settings
import S100.Toml.Document

/-!
# Settings files

Settings are written in TOML. Every setting may be left out, none may be
given twice, and nothing else may be given. Images are listed in sections,

    [[rom]]
    path = "roms/dbl.bin"
    address = 0xFF00

    [[disk]]
    drive = 0
    path = "disks/cpm22.dsk"

or in an array, each as a table or as an array of its fields in the order
of their names in the types. An array may go on after the last field.

Paths in a file are taken as seen from the directory that holds the file.
-/

namespace S100

namespace Settings

open Toml (Value Entry Document)

/-- A whole number below a bound. -/
def natBelow? (bound : Nat) : Value → Option Nat
  | .integer n => if 0 ≤ n ∧ n < bound then some n.toNat else none
  | _ => none

/-- A size, count or drive number. -/
def size? : Value → Option Nat :=
  natBelow? 0x8000000000000000

def address? (value : Value) : Option UInt16 :=
  (natBelow? 0x10000 value).map UInt16.ofNat

def byte? (value : Value) : Option UInt8 :=
  (natBelow? 0x100 value).map UInt8.ofNat

def path? : Value → Option String
  | .string path => some path
  | _ => none

/-- The values of two fields that a table has, and no others. -/
def pairOf? (first second : String) : List Entry → Option (Value × Value)
  | [([a], x), ([b], y)] =>
    if a = first ∧ b = second then some (x, y)
    else if a = second ∧ b = first then some (y, x)
    else none
  | _ => none

/-- The two fields of an image, by name or by place. -/
def fields? (first second : String) : Value → Option (Value × Value)
  | .table entries => pairOf? first second entries
  | .array (x :: y :: _) => some (x, y)
  | _ => none

def rom? : Value × Value → Option RomSetting
  | (path, address) => do
    return { path := ← path? path, address := ← address? address }

def disk? : Value × Value → Option DiskSetting
  | (drive, path) => do
    return { drive := ← size? drive, path := ← path? path }

/-- The images that an array lists. -/
def images? {α : Type} (first second : String)
    (image? : Value × Value → Option α) : Value → Option (List α)
  | .array items => items.mapM fun item => fields? first second item >>= image?
  | _ => none

/-- Settings with what an entry says. -/
def withEntry (s : Settings) : Entry → Option Settings
  | (["memory_size"], v) => (size? v).map ({ s with memorySize := · })
  | (["start_address"], v) => (address? v).map ({ s with startAddress := · })
  | (["sense_switches"], v) => (byte? v).map ({ s with senseSwitches := · })
  | (["drive_count"], v) => (size? v).map ({ s with driveCount := · })
  | (["program"], v) => (path? v).map ({ s with program := some · })
  | (["rom"], v) => (images? "path" "address" rom? v).map ({ s with roms := · })
  | (["disk"], v) => (images? "drive" "path" disk? v).map ({ s with disks := · })
  | _ => none

/-- Settings with the image that a section describes. -/
def withSection (s : Settings) (section_ : Toml.Section) : Option Settings :=
  match section_ with
  | ⟨["rom"], true, entries⟩ => do
    let rom ← pairOf? "path" "address" entries >>= rom?
    return { s with roms := s.roms ++ [rom] }
  | ⟨["disk"], true, entries⟩ => do
    let disk ← pairOf? "drive" "path" entries >>= disk?
    return { s with disks := s.disks ++ [disk] }
  | _ => none

/-- A list of images is given in one array or in sections, not both. -/
def listedOnce (document : Document) : Bool :=
  document.root.all fun (key, _) => document.sections.all (·.name != key)

def ofDocument? (document : Document) : Option Settings := do
  guard (listedOnce document)
  let s ← document.root.foldlM withEntry {}
  document.sections.foldlM withSection s

def ofText (text : String) : Except SetupError Settings :=
  match Document.read? text >>= ofDocument? with
  | some settings => .ok settings
  | none => .error .malformedSettings

/-- Read a settings file. -/
def ofFile (files : FileSource) (path : String) :
    Except SetupError Settings := do
  let bytes ← files.image path
  match String.fromUTF8? ⟨bytes⟩ with
  | none => throw (.access path .invalidData)
  | some text =>
    let settings ← ofText text
    match Path.parent path with
    | none => return settings
    | some base => return settings.resolve base

end Settings

end S100
