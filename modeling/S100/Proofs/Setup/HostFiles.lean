import S100.Proofs.CommandLine.Overrides
import S100.Proofs.Floppy.TornSectors

/-!
# Setting up from the files of the host

What is known of setting up a machine is known for any source of files. Here
the source is a tree of files, and what it gives is the file at the end of a
path, if it may be read (`read_source_eq_ok`, `diskette_source_eq_ok`).

So `ofSettings_hostFiles` says which settings are followed by the files that
their paths lead to, and what is in the drives by the contents and permissions
of these files. `apply_hostFiles` says the latter of settings under a command
line. As each drive has the diskette that opening its file gives, what is known
of such diskettes over the time of a run is known of it.
-/

namespace S100

/-! ## Files that may be read -/

/-- A path leads to a file, and the file may be read. -/
structure FileTree.Reaches (tree : FileTree) (path : String)
    (file : HostFile) : Prop where
  found : ∃ names, tree.file? path = .ok (names, file)
  readable : file.readable = true

/-- The diskette that a file makes: all of its bytes, and write-protected if
the file may not be written. -/
def HostFile.diskette (file : HostFile) (path : String) : Diskette where
  bytes := file.bytes
  writeProtected := !file.writable
  file := some path

/-- A diskette is made of a file exactly if the file can be opened. -/
theorem diskette_eq_ok {files : FileSource} {path : String} {x : Diskette} :
    files.diskette path = .ok x ↔
      ∃ opened, files.openDisk path = .ok opened
        ∧ x = opened.diskette path := by
  unfold FileSource.diskette OpenedDisk.diskette
  cases files.openDisk path with
  | error fault => exact ⟨nofun, nofun⟩
  | ok opened =>
      constructor
      · intro h
        exact ⟨opened, rfl, (Except.ok.inj h).symm⟩
      · rintro ⟨opened', hopened, rfl⟩
        obtain rfl := Except.ok.inj hopened
        rfl

namespace FileTree

variable {tree : FileTree} {path : String}

theorem read_source_eq_ok {image : Bytes} :
    tree.source.read path = .ok image ↔
      ∃ file, tree.Reaches path file ∧ image = file.bytes := by
  constructor
  · intro h
    simp only [source, read] at h
    split at h
    · cases h
    · rename_i names file hfound
      split at h
      · rename_i hreadable
        cases h
        exact ⟨file, ⟨⟨names, hfound⟩, hreadable⟩, rfl⟩
      · cases h
  · rintro ⟨file, ⟨⟨names, hfound⟩, hreadable⟩, rfl⟩
    simp only [source, read, hfound, hreadable, if_true]

theorem diskette_source_eq_ok {x : Diskette} :
    tree.source.diskette path = .ok x ↔
      ∃ file, tree.Reaches path file ∧ x = file.diskette path := by
  constructor
  · intro h
    obtain ⟨names, file, hfound, hreadable, hx⟩ := Floppy.image_of_open h
    exact ⟨file, ⟨⟨names, hfound⟩, hreadable⟩, hx⟩
  · rintro ⟨file, ⟨⟨names, hfound⟩, hreadable⟩, rfl⟩
    simp only [FileSource.diskette, source, openDisk, hfound, hreadable,
      if_true]
    rfl

theorem exists_openDisk :
    (∃ opened, tree.source.openDisk path = .ok opened) ↔
      ∃ file, tree.Reaches path file := by
  constructor
  · rintro ⟨opened, hopened⟩
    obtain ⟨file, hreaches, -⟩ := diskette_source_eq_ok.mp
      (diskette_eq_ok.mpr ⟨opened, hopened, rfl⟩)
    exact ⟨file, hreaches⟩
  · rintro ⟨file, hreaches⟩
    obtain ⟨opened, hopened, -⟩ := diskette_eq_ok.mp
      (diskette_source_eq_ok.mpr ⟨file, hreaches, rfl⟩)
    exact ⟨opened, hopened⟩

end FileTree

/-! ## Settings -/

section

variable {tree : FileTree} {s : Settings} {devices : Devices} {m : Altair}

/-- A drive has the diskette of a setting, made of the file that its path leads
to. If there is no setting for it, it is as it was brought along. -/
def Altair.HoldsFile (m : Altair) (tree : FileTree) (devices : Devices)
    (drive : Nat) : Option DiskSetting → Prop
  | some disk => ∃ file, tree.Reaches disk.path file
      ∧ m.disks.drive? drive =
        some { diskette := some (file.diskette disk.path) }
  | none => m.disks.drive? drive = devices.disks.drive? drive

theorem holdsFile_of_asSet (h : m.AsSet tree.source s devices) (drive : Nat) :
    m.HoldsFile tree devices drive
      (CommandLine.lastFor drive s.disks) := by
  have hdrive := CommandLine.drive?_of_asSet h drive
  cases hlast : CommandLine.lastFor drive s.disks with
  | none =>
      rw [hlast] at hdrive
      exact hdrive
  | some disk =>
      rw [hlast] at hdrive
      obtain ⟨opened, hopened, hholds⟩ := hdrive
      obtain ⟨file, hreaches, hmade⟩ := FileTree.diskette_source_eq_ok.mp
        (diskette_eq_ok.mpr ⟨opened, hopened, rfl⟩)
      refine ⟨file, hreaches, ?_⟩
      rw [hholds, hmade]

/-- Settings can be followed with the files of a tree: the size of the memory
is possible, every diskette is for a drive that there is, every image is in a
file that may be read, and fits, and every diskette is in such a file. -/
structure Settings.Supplied (s : Settings) (tree : FileTree)
    (driveCount : Nat) : Prop where
  memorySize : 1 ≤ s.memorySize ∧ s.memorySize ≤ 65536
  drives : ∀ disk ∈ s.disks,
    disk.drive < s.driveCount ∧ disk.drive < driveCount
  roms : ∀ rom ∈ s.roms, ∃ file, tree.Reaches rom.path file
    ∧ rom.address.toNat + file.bytes.size ≤ s.memorySize
  disks : ∀ disk ∈ s.disks, ∃ file, tree.Reaches disk.path file

theorem sound_iff_supplied {driveCount : Nat} :
    s.Sound tree.source driveCount ↔ s.Supplied tree driveCount := by
  constructor
  · rintro ⟨hsize, hdrives, hroms, hdisks⟩
    refine ⟨hsize, hdrives, fun rom hrom => ?_, fun disk hdisk => ?_⟩
    · obtain ⟨image, hread, hfits⟩ := hroms rom hrom
      obtain ⟨file, hreaches, rfl⟩ := FileTree.read_source_eq_ok.mp hread
      exact ⟨file, hreaches, hfits⟩
    · exact FileTree.exists_openDisk.mp (hdisks disk hdisk)
  · rintro ⟨hsize, hdrives, hroms, hdisks⟩
    refine ⟨hsize, hdrives, fun rom hrom => ?_, fun disk hdisk => ?_⟩
    · obtain ⟨file, hreaches, hfits⟩ := hroms rom hrom
      have hread := FileTree.read_source_eq_ok.mpr ⟨file, hreaches, rfl⟩
      exact ⟨file.bytes, hread, hfits⟩
    · exact FileTree.exists_openDisk.mpr (hdisks disk hdisk)

/-- Settings are followed exactly if they can be followed with the files that
their paths lead to. Then a drive holds all the bytes of the file that the last
diskette for it names, write-protected if the file may not be written. -/
theorem ofSettings_hostFiles (tree : FileTree) (s : Settings)
    (devices : Devices) :
    let result := Altair.ofSettings tree.source s devices
    ((∃ m, result = .ok m) ↔ s.Supplied tree devices.disks.driveCount)
    ∧ ∀ m, result = .ok m →
      ∀ drive, m.HoldsFile tree devices drive
        (CommandLine.lastFor drive s.disks) := by
  intro result
  refine ⟨?_, fun m hm => holdsFile_of_asSet (Altair.asSet_of_ofSettings hm)⟩
  rw [← sound_iff_supplied, ← faults_eq_nil, ← List.head?_eq_none_iff]
  constructor
  · rintro ⟨m, hm⟩
    exact (unlessFault_eq_ok.mp (Altair.ofSettings_eq.symm.trans hm)).1
  · intro hnone
    exact ⟨_, Altair.ofSettings_eq.trans
      (unlessFault_eq_ok.mpr ⟨hnone, rfl⟩)⟩

/-- Under a command line a drive holds the file of the last diskette that the
command line has for it, or else of the last one that the settings have. -/
theorem apply_hostFiles (a : CommandLine.Arguments)
    (h : Altair.ofSettings tree.source (a.apply s) devices = .ok m)
    (drive : Nat) :
    m.HoldsFile tree devices drive
      ((CommandLine.lastFor drive a.disks).or
        (CommandLine.lastFor drive s.disks)) := by
  rw [← CommandLine.lastFor_replaceDisks, ← CommandLine.disks_apply]
  exact holdsFile_of_asSet (Altair.asSet_of_ofSettings h) drive

end

end S100
