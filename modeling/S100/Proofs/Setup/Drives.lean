import S100.Proofs.Floppy.WellFormed
import S100.Proofs.Setup.Building

/-!
# Drives asked for and drives there are

Settings may ask for any number of drives. A controller has at least one and
at most sixteen, whatever it is asked for. The settings are checked against
the number that they ask for (`refusesDrive_iff`), and diskettes are mounted
in the drives that there are (`missesDrive_iff`), so that the two can come to
different answers about a diskette: a check that is too strict refuses one
for a drive that is there, and a check that is too lax passes one for a drive
that is not.

`agree_iff` says when the answers are the same, and
`check_against_drives` puts it together with what becomes of settings that
pass the check.
-/

namespace S100

namespace Settings

/-- The check refuses the settings over a drive. -/
def RefusesDrive (s : Settings) : Prop :=
  ∃ drive count, s.check = .error (.driveOutOfRange drive count)

/-- There is a diskette for a drive that a controller does not have. -/
def MissesDrive (s : Settings) (c : Floppy.Controller) : Prop :=
  ∃ disk ∈ s.disks, c.drive? disk.drive = none

/-- No drives are asked for, and a diskette is refused for the one drive that
there is then. -/
structure TooStrict (s : Settings) : Prop where
  none : s.driveCount = 0
  asked : s.disks ≠ []
  first : ∀ disk ∈ s.disks, disk.drive = 0

/-- More drives are asked for than there can be, and a diskette passes for
one of those that there are not. -/
structure TooLax (s : Settings) : Prop where
  asked : ∀ disk ∈ s.disks, disk.drive < s.driveCount
  missing : ∃ disk ∈ s.disks, 16 ≤ disk.drive

end Settings

namespace Floppy.Controller

/-- A controller has the drives that it is asked for, up to sixteen, and the
first one in any case. -/
theorem drive?_ofDrives_eq_none {count i : Nat} :
    (ofDrives count).drive? i = none ↔ max 1 (min count 16) ≤ i := by
  rw [drive?_eq_none_iff, driveCount_ofDrives]
  rfl

end Floppy.Controller

section

variable {s : Settings} {files : FileSource} {console : Console}

theorem drive?_devices_eq_none {drive : Nat} :
    (s.devices console).disks.drive? drive = none ↔
      max 1 (min s.driveCount 16) ≤ drive :=
  Floppy.Controller.drive?_ofDrives_eq_none

theorem driveCount_devices :
    (s.devices console).disks.driveCount = max 1 (min s.driveCount 16) :=
  Floppy.Controller.driveCount_ofDrives s.driveCount

/-- The only fault of a diskette in this respect names its drive. -/
theorem driveFault_eq_some {count : Nat} {disk : DiskSetting} {e : SetupError} :
    driveFault count disk = some e ↔
      count ≤ disk.drive ∧ e = .driveOutOfRange disk.drive count := by
  unfold driveFault
  split
  · rename_i h
    constructor
    · nofun
    · rintro ⟨hle, -⟩
      omega
  · rename_i h
    rw [Option.some.injEq]
    constructor
    · rintro rfl
      exact ⟨Nat.le_of_not_lt h, rfl⟩
    · rintro ⟨-, rfl⟩
      rfl

/-- Where the size of the memory is possible, the check is about the drives
that are asked for, and nothing else. -/
theorem refusesDrive_iff (h : 1 ≤ s.memorySize ∧ s.memorySize ≤ 65536) :
    s.RefusesDrive ↔ ∃ disk ∈ s.disks, s.driveCount ≤ disk.drive := by
  have hcheck : s.check =
      unlessFault (s.disks.findSome? (driveFault s.driveCount)) () := by
    rw [check_eq, sizeFault_eq_none.mpr h, Option.none_or]
  constructor
  · rintro ⟨drive, count, hrefused⟩
    rw [hcheck, unlessFault_eq_error] at hrefused
    obtain ⟨disk, hmem, hfault⟩ := List.exists_of_findSome?_eq_some hrefused
    exact ⟨disk, hmem, (driveFault_eq_some.mp hfault).1⟩
  · rintro ⟨disk, hmem, hdrive⟩
    cases hfound : s.disks.findSome? (driveFault s.driveCount) with
    | none =>
        have hnone := List.findSome?_eq_none_iff.mp hfound disk hmem
        have hlt := driveFault_eq_none.mp hnone
        omega
    | some e =>
        obtain ⟨other, -, hfault⟩ := List.exists_of_findSome?_eq_some hfound
        obtain ⟨-, rfl⟩ := driveFault_eq_some.mp hfault
        refine ⟨other.drive, s.driveCount, ?_⟩
        rw [hcheck, hfound]
        rfl

theorem missesDrive_iff :
    s.MissesDrive (s.devices console).disks ↔
      ∃ disk ∈ s.disks, max 1 (min s.driveCount 16) ≤ disk.drive := by
  unfold Settings.MissesDrive
  simp only [drive?_devices_eq_none]

/-- A check that is too strict is one that finds fault where there is
none. -/
theorem tooStrict_iff :
    s.TooStrict ↔ (∃ disk ∈ s.disks, s.driveCount ≤ disk.drive)
      ∧ ¬ ∃ disk ∈ s.disks, max 1 (min s.driveCount 16) ≤ disk.drive := by
  constructor
  · rintro ⟨hnone, hasked, hfirst⟩
    obtain ⟨disk, hmem⟩ := List.exists_mem_of_ne_nil s.disks hasked
    refine ⟨⟨disk, hmem, by omega⟩, ?_⟩
    rintro ⟨other, hother, hle⟩
    have hzero := hfirst other hother
    omega
  · rintro ⟨⟨disk, hmem, hle⟩, hthere⟩
    have hlt : ∀ other ∈ s.disks,
        other.drive < max 1 (min s.driveCount 16) := fun other hother =>
      Nat.lt_of_not_le fun hle => hthere ⟨other, hother, hle⟩
    have hnone : s.driveCount = 0 := by
      have hdisk := hlt disk hmem
      omega
    refine ⟨hnone, List.ne_nil_of_mem hmem, fun other hother => ?_⟩
    have hother := hlt other hother
    omega

/-- A check that is too lax is one that misses a fault. -/
theorem tooLax_iff :
    s.TooLax ↔ (∃ disk ∈ s.disks, max 1 (min s.driveCount 16) ≤ disk.drive)
      ∧ ¬ ∃ disk ∈ s.disks, s.driveCount ≤ disk.drive := by
  constructor
  · rintro ⟨hasked, disk, hmem, hmissing⟩
    refine ⟨⟨disk, hmem, by omega⟩, ?_⟩
    rintro ⟨other, hother, hle⟩
    have hlt := hasked other hother
    omega
  · rintro ⟨⟨disk, hmem, hle⟩, hpassed⟩
    have hasked : ∀ other ∈ s.disks, other.drive < s.driveCount :=
      fun other hother =>
        Nat.lt_of_not_le fun hle => hpassed ⟨other, hother, hle⟩
    have hdisk := hasked disk hmem
    exact ⟨hasked, disk, hmem, by omega⟩

/-- The check and the controller agree, unless the check is too strict or too
lax. -/
theorem agree_iff (h : 1 ≤ s.memorySize ∧ s.memorySize ≤ 65536) :
    (s.RefusesDrive ↔ s.MissesDrive (s.devices console).disks) ↔
      ¬ s.TooStrict ∧ ¬ s.TooLax := by
  rw [refusesDrive_iff h, missesDrive_iff, tooStrict_iff, tooLax_iff]
  constructor
  · intro hagree
    constructor
    · rintro ⟨hrefused, hthere⟩
      exact hthere (hagree.mp hrefused)
    · rintro ⟨hmissing, hpassed⟩
      exact hpassed (hagree.mpr hmissing)
  · rintro ⟨hstrict, hlax⟩
    constructor
    · intro hrefused
      exact Decidable.byContradiction fun hthere => hstrict ⟨hrefused, hthere⟩
    · intro hmissing
      exact Decidable.byContradiction fun hpassed => hlax ⟨hmissing, hpassed⟩

/-- Up to sixteen drives, one of them at least, are all there. -/
theorem agree_of_driveCount (h : 1 ≤ s.driveCount ∧ s.driveCount ≤ 16) :
    ¬ s.TooStrict ∧ ¬ s.TooLax := by
  constructor
  · rintro ⟨hnone, -, -⟩
    omega
  · rintro ⟨hasked, disk, hmem, hmissing⟩
    have hlt := hasked disk hmem
    omega

/-- An image is never at fault over a drive. -/
theorem romFault_ne_drive {memorySize drive count : Nat} {rom : RomSetting} :
    files.romFault memorySize rom ≠ some (.driveOutOfRange drive count) := by
  intro h
  unfold FileSource.romFault at h
  split at h
  · cases h
  · split at h
    · cases h
    · cases h

/-- A diskette that is at fault over a drive is for a drive that is not
there. -/
theorem drive_of_diskFault {driveCount drive count : Nat} {disk : DiskSetting}
    (h : files.diskFault driveCount disk =
      some (.driveOutOfRange drive count)) :
    driveCount ≤ drive ∧ count = driveCount ∧ disk.drive = drive := by
  unfold FileSource.diskFault at h
  split at h
  · cases h
  · obtain ⟨hle, he⟩ := driveFault_eq_some.mp h
    cases he
    exact ⟨hle, rfl, rfl⟩

/-- Of settings that pass the check, setting up refuses a drive only above
the sixteen that there can be. -/
theorem drive_of_ofSettings (hcheck : s.check = .ok ()) {drive count : Nat}
    (h : Altair.ofSettings files s (s.devices console) =
      .error (.driveOutOfRange drive count)) :
    count = 16 ∧ 16 ≤ drive ∧ drive < s.driveCount := by
  rw [check_eq, unlessFault_eq_ok] at hcheck
  obtain ⟨-, hasked⟩ := Option.or_eq_none_iff.mp hcheck.1
  rw [Altair.ofSettings_eq, unlessFault_eq_error, driveCount_devices,
    head?_faults, hcheck.1, Option.none_or, Option.or_eq_some_iff] at h
  obtain hrom | ⟨-, hdisk⟩ := h
  · obtain ⟨rom, -, hfault⟩ := List.exists_of_findSome?_eq_some hrom
    exact absurd hfault romFault_ne_drive
  · obtain ⟨disk, hmem, hfault⟩ := List.exists_of_findSome?_eq_some hdisk
    obtain ⟨hle, rfl, rfl⟩ := drive_of_diskFault hfault
    have hlt := driveFault_eq_none.mp
      (List.findSome?_eq_none_iff.mp hasked disk hmem)
    omega

end

/-- Settings with a possible size of memory are refused over a drive if a
diskette is for a drive beyond the number that they ask for. The controller
that they ask for lacks the drives beyond that number, brought between one
and sixteen. So the check and the controller agree unless the check is too
strict or too lax, and always on one to sixteen drives. Where settings that
pass the check are refused over a drive in setting up, it is one from the
seventeenth on that they ask for. -/
theorem check_against_drives {s : Settings}
    (h : 1 ≤ s.memorySize ∧ s.memorySize ≤ 65536) (console : Console)
    (files : FileSource) :
    let devices := s.devices console
    (s.RefusesDrive ↔ ∃ disk ∈ s.disks, s.driveCount ≤ disk.drive)
    ∧ (∀ drive, devices.disks.drive? drive = none ↔
        max 1 (min s.driveCount 16) ≤ drive)
    ∧ ((s.RefusesDrive ↔ s.MissesDrive devices.disks) ↔
        ¬ s.TooStrict ∧ ¬ s.TooLax)
    ∧ (1 ≤ s.driveCount ∧ s.driveCount ≤ 16 →
        (s.RefusesDrive ↔ s.MissesDrive devices.disks))
    ∧ (s.check = .ok () → ∀ drive count,
        Altair.ofSettings files s devices =
          .error (.driveOutOfRange drive count) →
        count = 16 ∧ 16 ≤ drive ∧ drive < s.driveCount) := by
  intro devices
  refine ⟨refusesDrive_iff h, fun drive => drive?_devices_eq_none, agree_iff h,
    fun hcount => ?_, fun hcheck drive count => drive_of_ofSettings hcheck⟩
  exact (agree_iff h).mpr (agree_of_driveCount hcount)

/-- Of seventeen drives, the last one is asked for and is not there. -/
theorem check_against_drives_seventeen :
    let s : Settings := { driveCount := 17, disks := [⟨16, "a.dsk"⟩] }
    (1 ≤ s.memorySize ∧ s.memorySize ≤ 65536)
    ∧ ¬ s.RefusesDrive
    ∧ s.MissesDrive (s.devices (.buffered {})).disks := by
  intro s
  have hsize : 1 ≤ s.memorySize ∧ s.memorySize ≤ 65536 := by decide
  obtain ⟨hrefuses, hmisses, -⟩ :=
    check_against_drives hsize (.buffered {}) (FileTree.source {})
  refine ⟨hsize, ?_, ⟨16, "a.dsk"⟩, List.mem_singleton_self _, ?_⟩
  · rw [hrefuses]
    decide
  · exact (hmisses 16).mpr (by decide)

/-- A diskette is refused for the one drive of a controller that is asked for
none; and one for the last of seventeen drives passes the check, and setting
up fails on it. -/
theorem check_disagrees_with_drives :
    let files : FileSource :=
      { read := fun _ => .error .notFound
        openDisk := fun _ => .ok ⟨#[0xE5], false⟩
        isFile := fun _ => true }
    let console : Console := .buffered {}
    let few : Settings := { driveCount := 0, disks := [⟨0, "a.dsk"⟩] }
    let many : Settings := { driveCount := 17, disks := [⟨16, "a.dsk"⟩] }
    few.check = .error (.driveOutOfRange 0 0)
    ∧ (few.devices console).disks.drive? 0 = some {}
    ∧ many.check = .ok ()
    ∧ (many.devices console).disks.drive? 16 = none
    ∧ Altair.ofSettings files many (many.devices console) =
        .error (.driveOutOfRange 16 16) := by
  intro files console few many
  refine ⟨rfl, rfl, rfl, rfl, ?_⟩
  rw [Altair.ofSettings_eq]
  rfl

end S100
