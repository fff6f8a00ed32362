import S100.Files.Journal
import S100.Files.Path
import S100.Setup.Error

/-!
# File trees

A file system as a value: files with their contents and permissions, in
directories below a working directory. Paths are walked name by name. What
lies outside the working directory is known to exist as directories and to
hold nothing that could be named.

`FileSource` is all that setting up a machine needs of a file system: what
is got by reading a file, and by opening a file as a disk, and whether
there is a file at all.
-/

namespace S100

/-- A disk file as it was opened: its contents, and whether it can only be
read. -/
structure OpenedDisk where
  bytes : Bytes
  readOnly : Bool
deriving DecidableEq, Repr

structure FileSource where
  read : String → Except Fault Bytes
  openDisk : String → Except Fault OpenedDisk
  isFile : String → Bool

structure HostFile where
  bytes : Bytes
  readable : Bool := true
  writable : Bool := true
deriving DecidableEq, Repr

inductive TreeEntry where
  | file (file : HostFile)
  | directory
deriving DecidableEq, Repr

/-- Entries with the names on the way to them. An entry that lies deeper
makes directories of all on its way. -/
structure FileTree where
  entries : List (List String × TreeEntry) := []
deriving DecidableEq, Repr

namespace FileTree

/-- A place that a walk can come to. -/
inductive Place where
  /-- The names from the working directory, the last one first, and the
  file there, if it is not a directory. -/
  | inside (reversed : List String) (file : Option HostFile)
  | outside
deriving DecidableEq, Repr

def entry? (tree : FileTree) (names : List String) : Option TreeEntry :=
  match tree.entries.find? (·.1 == names) with
  | some (_, entry) => some entry
  | none =>
    if names.isEmpty || tree.entries.any (names.isPrefixOf ·.1) then
      some .directory
    else none

/-- Add an entry, in place of what was there. -/
def add (tree : FileTree) (path : String) (entry : TreeEntry) : FileTree :=
  let names := (Path.names path).filter (!Path.isIdle ·)
  { tree with
    entries := (names, entry) :: tree.entries.filter (·.1 != names) }

/-! ## Walking -/

def maxName : Nat := 255

def maxPath : Nat := 4096

def walkName (tree : FileTree) (place : Place) (name : String) :
    Except Fault Place :=
  match place with
  | .inside _ (some _) => .error .notADirectory
  | .inside reversed none =>
    if Path.isIdle name then .ok place
    else if name == ".." then
      match reversed with
      | [] => .ok .outside
      | _ :: above => .ok (.inside above none)
    else if maxName < name.utf8ByteSize then .error .invalidFilename
    else match tree.entry? (name :: reversed).reverse with
    | none => .error .notFound
    | some (.file file) => .ok (.inside (name :: reversed) (some file))
    | some .directory => .ok (.inside (name :: reversed) none)
  | .outside =>
    if Path.isIdle name || name == ".." then .ok .outside
    else if maxName < name.utf8ByteSize then .error .invalidFilename
    else .error .notFound

def walk (tree : FileTree) (path : String) : Except Fault Place :=
  if path.contains '\x00' then .error .invalidInput
  else if path.isEmpty then .error .notFound
  else if maxPath ≤ path.utf8ByteSize then .error .invalidFilename
  else
    let start := if Path.isAbsolute path then .outside else .inside [] none
    (Path.names path).foldlM tree.walkName start

/-- The file at the end of a path, with the names that lead to it. -/
def file? (tree : FileTree) (path : String) :
    Except Fault (List String × HostFile) :=
  match tree.walk path with
  | .error fault => .error fault
  | .ok (.inside reversed (some file)) => .ok (reversed.reverse, file)
  | .ok _ => .error .isADirectory

/-! ## Using files -/

def read (tree : FileTree) (path : String) : Except Fault Bytes :=
  match tree.file? path with
  | .error fault => .error fault
  | .ok (_, file) =>
    if file.readable then .ok file.bytes else .error .permissionDenied

/-- A file that may be read but not written makes a disk that can only be
read. -/
def openDisk (tree : FileTree) (path : String) : Except Fault OpenedDisk :=
  match tree.file? path with
  | .error fault => .error fault
  | .ok (_, file) =>
    if file.readable then .ok ⟨file.bytes, !file.writable⟩
    else .error .permissionDenied

def isFile (tree : FileTree) (path : String) : Bool :=
  (tree.file? path).toOption.isSome

def source (tree : FileTree) : FileSource where
  read := tree.read
  openDisk := tree.openDisk
  isFile := tree.isFile

/-- Carry out a write. A path that does not lead to a file is left
alone. -/
def write (tree : FileTree) (w : FileWrite) : FileTree :=
  match tree.file? w.path with
  | .error _ => tree
  | .ok (names, file) =>
    { tree with entries := tree.entries.map fun (other, entry) =>
        if other == names then
          (other, .file { file with bytes := w.apply file.bytes })
        else (other, entry) }

end FileTree

end S100
