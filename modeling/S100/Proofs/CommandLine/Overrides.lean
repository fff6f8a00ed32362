import Mathlib.Data.List.Induction
import S100.CommandLine.Arguments
import S100.Proofs.Floppy.WellFormed
import S100.Proofs.Setup.Building

/-!
# The command line has the last word

What a command line says is laid over settings that come from elsewhere.
Images are loaded after those that were there before, so that they are the
ones that are read where they lie over others. A diskette takes the place of
all that there are for its drive; a later one on the command line takes its
place in turn (`filter_replaceDisks`). The diskettes for other drives are not
touched (`filter_replaceDisks_of_rest`), and to give the same diskettes again
changes nothing (`replaceDisks_replaceDisks`).

`lastFor` is the diskette that ends up in a drive. `apply_overrides` says what
becomes of settings under a command line, and of a machine that is set up
with them.
-/

namespace S100.CommandLine

/-! ## The last diskette for a drive -/

/-- The last diskette for a drive in a list. -/
def lastFor (drive : Nat) (disks : List DiskSetting) : Option DiskSetting :=
  (disks.filter (·.drive = drive)).getLast?

section

variable {drive : Nat} {disks kept : List DiskSetting} {disk : DiskSetting}

theorem lastFor_concat (drive : Nat) (disks : List DiskSetting)
    (disk : DiskSetting) :
    lastFor drive (disks ++ [disk]) =
      if disk.drive = drive then some disk else lastFor drive disks := by
  rw [lastFor, List.filter_append]
  by_cases h : disk.drive = drive
  · rw [if_pos h, List.filter_cons_of_pos (by simpa using h)]
    exact List.getLast?_concat
  · rw [if_neg h, List.filter_cons_of_neg (by simpa using h), List.filter_nil,
      List.append_nil]
    rfl

theorem lastFor_eq_none :
    lastFor drive disks = none ↔ ∀ disk ∈ disks, disk.drive ≠ drive := by
  rw [lastFor, List.getLast?_eq_none_iff, List.filter_eq_nil_iff]
  simp only [decide_eq_true_eq, ne_eq]

/-- Behind the last diskette for a drive there are only those for others. -/
theorem exists_of_lastFor (h : lastFor drive disks = some disk) :
    disk.drive = drive ∧ ∃ before after, disks = before ++ disk :: after
      ∧ ∀ later ∈ after, later.drive ≠ disk.drive := by
  induction disks using List.reverseRecOn with
  | nil => cases h
  | append_singleton disks last ih =>
      rw [lastFor_concat] at h
      split at h
      · rename_i hdrive
        obtain rfl := Option.some.inj h
        exact ⟨hdrive, disks, [], rfl, fun later hlater => by cases hlater⟩
      · rename_i hother
        obtain ⟨hdrive, before, after, rfl, hlast⟩ := ih h
        refine ⟨hdrive, before, after ++ [last], ?_, fun later hlater => ?_⟩
        · rw [List.append_assoc, List.cons_append]
        · rcases List.mem_append.mp hlater with hlater | hlater
          · exact hlast later hlater
          · obtain rfl := List.mem_singleton.mp hlater
            rwa [hdrive]

/-! ## Diskettes in place of others -/

/-- The diskettes of a list, with others in place of those for the same
drives. -/
def replaceDisks (kept disks : List DiskSetting) : List DiskSetting :=
  disks.foldl Arguments.replaceDisk kept

theorem replaceDisks_concat (kept disks : List DiskSetting)
    (disk : DiskSetting) :
    replaceDisks kept (disks ++ [disk]) =
      (replaceDisks kept disks).filter (·.drive != disk.drive) ++ [disk] := by
  rw [replaceDisks, List.foldl_append]
  rfl

/-- For a drive that is given a diskette, there is the last one that it is
given, and no other. For another drive there is what there was. -/
theorem filter_replaceDisks (drive : Nat) (kept disks : List DiskSetting) :
    (replaceDisks kept disks).filter (·.drive = drive) =
      match lastFor drive disks with
      | some disk => [disk]
      | none => kept.filter (·.drive = drive) := by
  induction disks using List.reverseRecOn with
  | nil => rfl
  | append_singleton disks disk ih =>
      rw [replaceDisks_concat, lastFor_concat, List.filter_append,
        List.filter_filter]
      by_cases h : disk.drive = drive
      · have hothers : (replaceDisks kept disks).filter (fun other =>
            decide (other.drive = drive) && other.drive != disk.drive) = [] := by
          simp [List.filter_eq_nil_iff, h]
        rw [if_pos h, hothers, List.filter_cons_of_pos (by simpa using h)]
        rfl
      · have hothers : (replaceDisks kept disks).filter (fun other =>
            decide (other.drive = drive) && other.drive != disk.drive) =
            (replaceDisks kept disks).filter (·.drive = drive) := by
          refine List.filter_congr fun other _ => ?_
          by_cases hdrive : other.drive = drive
          · simp [hdrive, Ne.symm h]
          · simp [hdrive]
        rw [if_neg h, hothers, ih, List.filter_cons_of_neg (by simpa using h)]
        exact List.append_nil _

/-- The diskettes for drives that are given none are kept in their order. -/
theorem filter_replaceDisks_of_rest (kept disks : List DiskSetting) :
    (replaceDisks kept disks).filter (·.drive ∉ disks.map (·.drive)) =
      kept.filter (·.drive ∉ disks.map (·.drive)) := by
  suffices hrest : ∀ p : DiskSetting → Bool,
      (∀ disk ∈ disks, ∀ other, other.drive = disk.drive → p other = false) →
      (replaceDisks kept disks).filter p = kept.filter p by
    refine hrest _ fun disk hdisk other hother => ?_
    simp only [hother, List.mem_map_of_mem hdisk, not_true, decide_false]
  intro p hp
  induction disks generalizing kept with
  | nil => rfl
  | cons disk disks ih =>
      have hout := hp disk List.mem_cons_self
      refine (ih _ fun later hlater =>
        hp later (List.mem_cons_of_mem disk hlater)).trans ?_
      rw [Arguments.replaceDisk, List.filter_append, List.filter_filter,
        List.filter_cons_of_neg (by simp [hout disk rfl]), List.filter_nil,
        List.append_nil]
      refine List.filter_congr fun other _ => ?_
      by_cases hdrive : other.drive = disk.drive
      · simp [hout other hdrive]
      · simp [hdrive]

/-- The diskettes that are given come behind those that are kept, and which
they are does not depend on what is kept. -/
theorem replaceDisks_eq (kept disks : List DiskSetting) :
    replaceDisks kept disks =
      kept.filter (·.drive ∉ disks.map (·.drive)) ++ replaceDisks [] disks := by
  induction disks using List.reverseRecOn with
  | nil =>
      have hall : kept.filter (·.drive ∉ ([] : List DiskSetting).map (·.drive)) =
          kept := List.filter_eq_self.mpr fun _ _ => by simp
      rw [hall]
      exact (List.append_nil kept).symm
  | append_singleton disks disk ih =>
      rw [replaceDisks_concat, replaceDisks_concat, ih, List.filter_append,
        List.filter_filter, List.append_assoc]
      congr 1
      refine List.filter_congr fun other _ => ?_
      rw [Bool.eq_iff_iff]
      simp [and_comm]

/-- To give the same diskettes again changes nothing. -/
theorem replaceDisks_replaceDisks (kept disks : List DiskSetting) :
    replaceDisks (replaceDisks kept disks) disks = replaceDisks kept disks := by
  rw [replaceDisks_eq (replaceDisks kept disks), filter_replaceDisks_of_rest,
    ← replaceDisks_eq]

/-- The command line's last diskette for a drive comes before any other. -/
theorem lastFor_replaceDisks (drive : Nat) (kept disks : List DiskSetting) :
    lastFor drive (replaceDisks kept disks) =
      (lastFor drive disks).or (lastFor drive kept) := by
  rw [lastFor, filter_replaceDisks]
  cases lastFor drive disks with
  | some disk => rfl
  | none => rfl

/-! ## Settings and machines -/

theorem disks_apply (a : Arguments) (s : Settings) :
    (a.apply s).disks = replaceDisks s.disks a.disks := rfl

theorem diskette?_devices (s : Settings) (console : Console) (drive : Nat) :
    (s.devices console).disks.diskette? drive = none := by
  refine Option.eq_none_iff_forall_ne_some.mpr fun diskette hdiskette => ?_
  obtain ⟨d, hd, hholds⟩ := Floppy.Controller.diskette?_eq_some.mp hdiskette
  rw [Floppy.Controller.drive?_ofDrives hd] at hholds
  cases hholds

/-- A drive holds the last diskette that settings have for it, and is as it
was if they have none. -/
theorem drive?_of_asSet {files : FileSource} {s : Settings}
    {devices : Devices} {m : Altair} (h : m.AsSet files s devices)
    (drive : Nat) :
    match lastFor drive s.disks with
    | some disk => ∃ opened, files.openDisk disk.path = .ok opened
      ∧ m.disks.drive? drive =
        some { diskette := some (opened.diskette disk.path) }
    | none => m.disks.drive? drive = devices.disks.drive? drive := by
  cases hlast : lastFor drive s.disks with
  | some disk =>
      obtain ⟨rfl, before, after, hsplit, hafter⟩ := exists_of_lastFor hlast
      exact h.drive before disk after hsplit hafter
  | none => exact h.otherDrive drive (lastFor_eq_none.mp hlast)

end

/-- A command line is laid over settings: its images come behind those that
there were, and program, start address and switches are replaced if they are
given; nothing else changes but the diskettes. Of these there is, for each
drive that the command line names, the last one that it has, and no other;
those for other drives are kept, all of them and in their order. The same
command line once more changes no diskette.

A machine that is set up with these settings reads, at each address, the
last image of the command line that covers it, or else the last one of the
settings, or else 0. A drive holds the last diskette that the command line
has for it, or else the last one of the settings, and is as it was brought
along if there is neither; the drives that settings ask for are brought along
empty. -/
theorem apply_overrides (a : Arguments) (s : Settings) :
    let named := a.disks.map (·.drive)
    let t := a.apply s
    t = { s with
      roms := s.roms ++ a.roms
      disks := t.disks
      program := match a.program with
        | some program => some program
        | none => s.program
      startAddress := match a.start with
        | some address => address
        | none => s.startAddress
      senseSwitches := match a.switches with
        | some switches => switches
        | none => s.senseSwitches }
    ∧ (∀ drive ∈ named, ∃ disk, lastFor drive a.disks = some disk
      ∧ t.disks.filter (·.drive = drive) = [disk])
    ∧ t.disks.filter (·.drive ∉ named) = s.disks.filter (·.drive ∉ named)
    ∧ (a.apply t).disks = t.disks
    ∧ (∀ files devices m, Altair.ofSettings files t devices = .ok m →
      (∀ address, m.bus.memory.read address =
        ((a.roms.reverse.findSome? (files.romByte? address)).or
          (s.roms.reverse.findSome? (files.romByte? address))).getD 0)
      ∧ (∀ drive,
        match (lastFor drive a.disks).or (lastFor drive s.disks) with
        | some disk => ∃ opened, files.openDisk disk.path = .ok opened
          ∧ m.disks.drive? drive =
            some { diskette := some (opened.diskette disk.path) }
        | none => m.disks.drive? drive = devices.disks.drive? drive)
      ∧ m.cpu.regs.pc = t.startAddress)
    ∧ ∀ console drive, (t.devices console).disks.diskette? drive = none := by
  intro named t
  refine ⟨?_, fun drive hdrive => ?_, filter_replaceDisks_of_rest _ _,
    replaceDisks_replaceDisks _ _, fun files devices m hm => ?_,
    diskette?_devices t⟩
  · obtain ⟨machine, configFile, roms, disks, program, start, switches⟩ := a
    cases program <;> cases start <;> cases switches <;> rfl
  · cases hlast : lastFor drive a.disks with
    | none =>
        obtain ⟨disk, hdisk, rfl⟩ := List.mem_map.mp hdrive
        exact absurd rfl (lastFor_eq_none.mp hlast disk hdisk)
    | some disk =>
        refine ⟨disk, rfl, ?_⟩
        rw [disks_apply, filter_replaceDisks, hlast]
  · have hset := Altair.asSet_of_ofSettings hm
    refine ⟨fun address => ?_, fun drive => ?_, ?_⟩
    · rw [hset.read]
      show (((s.roms ++ a.roms).reverse).findSome? _).getD 0 = _
      rw [List.reverse_append, List.findSome?_append]
    · have hdrive := drive?_of_asSet hset drive
      rwa [disks_apply, lastFor_replaceDisks] at hdrive
    · rw [hset.cpu]

/-- The settings have an image of three bytes at 0, and diskettes for two
drives. The command line has an image of one byte at 1, and two diskettes for
the first of the drives. -/
theorem apply_overrides_both :
    let files : FileSource :=
      { read := fun path => .ok (if path = "over.bin" then #[9] else #[1, 2, 3])
        openDisk := fun path => .ok ⟨path.toUTF8.data, false⟩
        isFile := fun _ => true }
    let s : Settings :=
      { roms := [⟨"under.bin", 0⟩], disks := [⟨0, "old.dsk"⟩, ⟨1, "kept.dsk"⟩] }
    let a : Arguments :=
      { roms := [⟨"over.bin", 1⟩], disks := [⟨0, "new.dsk"⟩, ⟨0, "last.dsk"⟩] }
    let t := a.apply s
    t.disks = [⟨1, "kept.dsk"⟩, ⟨0, "last.dsk"⟩]
    ∧ ∃ m, Altair.ofSettings files t (t.devices (.buffered {})) = .ok m
      ∧ [0, 1, 2, 3].map m.bus.memory.read = [1, 9, 3, 0]
      ∧ (m.disks.diskette? 0).bind (·.file) = some "last.dsk"
      ∧ (m.disks.diskette? 1).bind (·.file) = some "kept.dsk" := by
  intro files s a t
  obtain ⟨-, -, -, -, hbuilt, -⟩ := apply_overrides a s
  have hdisks : t.disks = [⟨1, "kept.dsk"⟩, ⟨0, "last.dsk"⟩] := rfl
  have hsound : t.Sound files (t.devices (.buffered {})).disks.driveCount := by
    refine ⟨by decide, ?_, ?_, fun disk _ => ⟨_, rfl⟩⟩
    · rw [hdisks]
      decide
    · intro rom hrom
      refine ⟨_, rfl, ?_⟩
      obtain rfl | rfl : rom = ⟨"under.bin", 0⟩ ∨ rom = ⟨"over.bin", 1⟩ := by
        simpa [t, s, a, Arguments.apply] using hrom
      · decide
      · decide
  obtain ⟨m, hm⟩ : ∃ m, Altair.ofSettings files t (t.devices (.buffered {})) =
      .ok m := by
    rw [Altair.ofSettings_eq, faults_eq_nil.mpr hsound]
    exact ⟨_, rfl⟩
  obtain ⟨hread, hdrive, -⟩ := hbuilt files _ m hm
  refine ⟨hdisks, m, hm, ?_, ?_, ?_⟩
  · simp only [List.map_cons, List.map_nil, hread]
    rfl
  · obtain ⟨opened, -, hopened⟩ := hdrive 0
    rw [Floppy.Controller.diskette?, hopened]
    rfl
  · obtain ⟨opened, -, hopened⟩ := hdrive 1
    rw [Floppy.Controller.diskette?, hopened]
    rfl

end S100.CommandLine
