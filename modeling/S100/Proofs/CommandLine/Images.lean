import Mathlib.Data.List.TakeDrop
import S100.Proofs.CommandLine.Numbers

/-!
# Images on the command line

A memory image is given with its address behind the last at sign of the text,
a disk image with its drive before the first equals sign. So the path may hold
either sign, but the address and the drive may not hold their own: this makes
the division of a text unique. `NamesRom` and `NamesDisk` say which texts name
which image; these are read, and all others are refused (`images_iff_named`).
-/

namespace S100.CommandLine

open Text

/-- A text names a memory image, by its path and its address. -/
def NamesRom (text : String) (rom : RomSetting) : Prop :=
  rom.path ≠ "" ∧ ∃ address, text = rom.path ++ "@" ++ address
    ∧ '@' ∉ address.toList ∧ readAddress address = .ok rom.address

/-- A text names a disk image, by its drive and its path. -/
def NamesDisk (text : String) (disk : DiskSetting) : Prop :=
  disk.path ≠ "" ∧ ∃ drive, text = drive ++ "=" ++ disk.path
    ∧ '=' ∉ drive.toList ∧ disk.drive < 2 ^ 64
    ∧ ∃ numeral, Padded numeral drive.toList ∧ Numeral 10 numeral disk.drive

section

variable {c : Char} {text mark front back : String}
variable {whole before after : List Char}
variable {rom : RomSetting} {disk : DiskSetting}

/-! ## Division of a text -/

theorem differs_of_not_mem (h : c ∉ whole) :
    ∀ d ∈ whole, (d != c) = true := by
  intro d hd
  rw [bne_iff_ne]
  rintro rfl
  exact h hd

theorem splitFirst_append (hbefore : c ∉ before) :
    splitFirst c (before ++ c :: after) = some (before, after) := by
  rw [splitFirst, List.span_eq_takeWhile_dropWhile,
    List.takeWhile_append_of_pos (differs_of_not_mem hbefore),
    List.dropWhile_append_of_pos (differs_of_not_mem hbefore)]
  simp

theorem splitFirst_of_not_mem (h : c ∉ whole) : splitFirst c whole = none := by
  rw [splitFirst, List.span_eq_takeWhile_dropWhile,
    List.dropWhile_eq_nil_iff.mpr (differs_of_not_mem h)]

theorem splitFirst_eq_some_iff :
    splitFirst c whole = some (before, after) ↔
      whole = before ++ c :: after ∧ c ∉ before := by
  constructor
  · intro h
    by_cases hc : c ∈ whole
    · obtain ⟨before', after', rfl, hbefore⟩ := List.eq_append_cons_of_mem hc
      rw [splitFirst_append hbefore] at h
      cases h
      exact ⟨rfl, hbefore⟩
    · rw [splitFirst_of_not_mem hc] at h
      cases h
  · rintro ⟨rfl, hbefore⟩
    exact splitFirst_append hbefore

theorem splitLast_eq_some_iff :
    splitLast c whole = some (before, after) ↔
      whole = before ++ c :: after ∧ c ∉ after := by
  have hturn : whole.reverse = after.reverse ++ c :: before.reverse ↔
      whole = before ++ c :: after := by
    rw [← List.reverse_inj]
    simp
  have hafter : c ∈ after.reverse ↔ c ∈ after := List.mem_reverse
  rw [splitLast, Option.map_eq_some_iff, ← hturn, ← hafter,
    ← splitFirst_eq_some_iff]
  constructor
  · rintro ⟨⟨last, first⟩, h, hparts⟩
    cases hparts
    simpa using h
  · intro h
    exact ⟨_, h, by simp⟩

theorem exists_toList (whole : List Char) :
    ∃ text : String, text.toList = whole :=
  ⟨String.ofList whole, String.toList_ofList⟩

theorem toList_eq_iff (hmark : mark.toList = [c]) :
    text.toList = front.toList ++ c :: back.toList ↔
      text = front ++ mark ++ back := by
  rw [← String.toList_inj, String.toList_append, String.toList_append, hmark,
    List.append_assoc, List.singleton_append]

/-- The same for a text that is put together of two with a mark between. -/
theorem splitLast_toList (hmark : mark.toList = [c]) :
    splitLast c text.toList = some (front.toList, back.toList) ↔
      text = front ++ mark ++ back ∧ c ∉ back.toList := by
  rw [splitLast_eq_some_iff, toList_eq_iff hmark]

theorem splitFirst_toList (hmark : mark.toList = [c]) :
    splitFirst c text.toList = some (front.toList, back.toList) ↔
      text = front ++ mark ++ back ∧ c ∉ front.toList := by
  rw [splitFirst_eq_some_iff, toList_eq_iff hmark]

/-- What finds exactly the divisions of some kind finds only one, so that there
is no other. -/
theorem division_unique {split : String → Option (List Char × List Char)}
    {parts : String → String → Prop} {front' back' : String}
    (hsplit : ∀ {text front back}, split text = some (front.toList, back.toList) ↔
      text = front ++ mark ++ back ∧ parts front back)
    (htext : front ++ mark ++ back = front' ++ mark ++ back')
    (h : parts front back) (h' : parts front' back') :
    front = front' ∧ back = back' := by
  have hfound := hsplit.mpr ⟨rfl, h⟩
  rw [hsplit.mpr ⟨htext, h'⟩, Option.some.injEq, Prod.mk.injEq,
    String.toList_inj, String.toList_inj] at hfound
  exact ⟨hfound.1.symm, hfound.2.symm⟩

/-! ## Reading -/

theorem readRom_eq_ok_iff : readRom text = .ok rom ↔ NamesRom text rom := by
  have hmark : "@".toList = ['@'] := rfl
  constructor
  · intro h
    rw [readRom] at h
    split at h
    · cases h
    · cases h
    · rename_i path address hpath hsplit
      obtain ⟨path, rfl⟩ := exists_toList path
      obtain ⟨address, rfl⟩ := exists_toList address
      obtain ⟨rfl, haddress⟩ := (splitLast_toList hmark).mp hsplit
      rw [String.ofList_toList, String.ofList_toList] at h
      cases hread : readAddress address with
      | error _ =>
          rw [hread] at h
          cases h
      | ok value =>
          rw [hread] at h
          cases h
          refine ⟨?_, address, rfl, haddress, hread⟩
          rintro rfl
          exact hpath rfl
  · rintro ⟨hpath, address, htext, haddress, hread⟩
    rw [readRom, (splitLast_toList hmark).mpr ⟨htext, haddress⟩]
    split
    · rename_i h
      cases h
    · rename_i h
      have hempty : rom.path.toList = [] :=
        congrArg Prod.fst (Option.some.inj h)
      exact absurd (String.toList_eq_nil_iff.mp hempty) hpath
    · rename_i h
      cases h
      rw [String.ofList_toList, String.ofList_toList, hread]
      rfl

theorem readDisk_eq_ok_iff : readDisk text = .ok disk ↔ NamesDisk text disk := by
  have hmark : "=".toList = ['='] := rfl
  have hlimit : ∀ n, n < 2 ^ 64 ↔ n ≤ maxCount := fun n =>
    Nat.lt_succ_iff (n := maxCount)
  constructor
  · intro h
    rw [readDisk] at h
    split at h
    · cases h
    · rename_i drive path hsplit
      obtain ⟨path, rfl⟩ := exists_toList path
      obtain ⟨drive, rfl⟩ := exists_toList drive
      obtain ⟨rfl, hdrive⟩ := (splitFirst_toList hmark).mp hsplit
      split at h
      · cases h
      · rename_i number hread
        obtain ⟨hnumeral, hle⟩ :=
          (readNumeral_trim_eq_ok_iff (by decide)).mp hread
        rw [String.ofList_toList] at h
        split at h
        · cases h
        · rename_i hpath
          cases h
          refine ⟨?_, drive, rfl, hdrive, (hlimit number).mpr hle, hnumeral⟩
          rintro rfl
          exact hpath rfl
  · rintro ⟨hpath, drive, htext, hdrive, hle, hnumeral⟩
    have hread := (readNumeral_trim_eq_ok_iff (by decide)).mpr
      ⟨hnumeral, (hlimit disk.drive).mp hle⟩
    have hnonempty : disk.path.toList.isEmpty ≠ true := by
      rwa [ne_eq, List.isEmpty_iff, String.toList_eq_nil_iff]
    rw [readDisk, (splitFirst_toList hmark).mpr ⟨htext, hdrive⟩]
    dsimp only
    rw [hread]
    dsimp only
    rw [if_neg hnonempty, String.ofList_toList]

/-! ## Writing -/

theorem namesRom_of_denotes {address : String} (hpath : rom.path ≠ "")
    (h : Denotes address rom.address.toNat) :
    NamesRom (rom.path ++ "@" ++ address) rom :=
  ⟨hpath, address, rfl, h.not_mem (by decide) (by decide),
    readAddress_eq_ok_iff.mpr h⟩

theorem namesDisk_of_padded {zeros : Nat} {drive : String}
    (hpath : disk.path ≠ "") (hlimit : disk.drive < 2 ^ 64)
    (h : Padded (List.replicate zeros '0' ++ Nat.toDigits 10 disk.drive)
      drive.toList) : NamesDisk (drive ++ "=" ++ disk.path) disk := by
  have hdigits := (digits_toDigits (by decide : 1 < 10) disk.drive).1
  have hnumeral := Numeral.unsigned (hdigits.zeros (by decide) zeros)
  refine ⟨hpath, drive, rfl, fun hmem => ?_, hlimit, _, h, hnumeral⟩
  rcases h.mem hmem with hmem | hblank
  · exact absurd (hnumeral.mem (by decide) hmem) (by decide)
  · exact absurd hblank (by decide)

/-- An image is read from a text exactly if the text names it, and a text that
names none is refused. There is only one way to divide a text. Every image is
named by its path with its address or its drive, however these are written,
unless the path is empty or the drive too large. -/
theorem images_iff_named :
    (∀ text rom, readRom text = .ok rom ↔ NamesRom text rom)
    ∧ (∀ text disk, readDisk text = .ok disk ↔ NamesDisk text disk)
    ∧ (∀ text, (∃ error, readRom text = .error error) ↔
        ∀ rom, ¬ NamesRom text rom)
    ∧ (∀ text, (∃ error, readDisk text = .error error) ↔
        ∀ disk, ¬ NamesDisk text disk)
    ∧ (∀ path address path' address' : String,
        path ++ "@" ++ address = path' ++ "@" ++ address' →
        '@' ∉ address.toList → '@' ∉ address'.toList →
        path = path' ∧ address = address')
    ∧ (∀ drive path drive' path' : String,
        drive ++ "=" ++ path = drive' ++ "=" ++ path' →
        '=' ∉ drive.toList → '=' ∉ drive'.toList →
        drive = drive' ∧ path = path')
    ∧ (∀ zeros rom address, rom.path ≠ "" →
        ∀ word ∈ spellings zeros rom.address.toNat,
          Padded word address.toList →
          readRom (rom.path ++ "@" ++ address) = .ok rom)
    ∧ ∀ zeros disk drive, disk.path ≠ "" → disk.drive < 2 ^ 64 →
        Padded (List.replicate zeros '0' ++ Nat.toDigits 10 disk.drive)
          drive.toList →
        readDisk (drive ++ "=" ++ disk.path) = .ok disk := by
  refine ⟨fun _ _ => readRom_eq_ok_iff, fun _ _ => readDisk_eq_ok_iff,
    fun text => ?_, fun text => ?_, ?_, ?_, ?_, ?_⟩
  · rw [exists_error_iff]
    exact forall_congr' fun _ => not_congr readRom_eq_ok_iff
  · rw [exists_error_iff]
    exact forall_congr' fun _ => not_congr readDisk_eq_ok_iff
  · intro path address path' address'
    exact division_unique (splitLast_toList (c := '@') rfl)
  · intro drive path drive' path'
    exact division_unique (splitFirst_toList (c := '=') rfl)
  · intro zeros rom address hpath word hword haddress
    exact readRom_eq_ok_iff.mpr
      (namesRom_of_denotes hpath (denotes_of_mem_spellings hword haddress))
  · intro zeros disk drive hpath hlimit hdrive
    exact readDisk_eq_ok_iff.mpr (namesDisk_of_padded hpath hlimit hdrive)

/-- Paths that hold the mark, too. -/
theorem images_iff_named_marks :
    readRom "a@b@0FFh" = .ok ⟨"a@b", 0xFF⟩
      ∧ readDisk " 01 =a=b" = .ok ⟨1, "a=b"⟩
      ∧ NamesDisk "+1==" ⟨1, "="⟩ :=
  ⟨images_iff_named.2.2.2.2.2.2.1 1 ⟨"a@b", 0xFF⟩ "0FFh" (by decide)
      "0FFh".toList (by decide) ⟨[], [], rfl, List.all_eq_true.mp rfl⟩,
    images_iff_named.2.2.2.2.2.2.2 1 ⟨1, "a=b"⟩ " 01 " (by decide) (by decide)
      ⟨[' '], [' '], rfl, List.all_eq_true.mp rfl⟩,
    (images_iff_named.2.1 _ _).mp (by decide)⟩

/-- What stands behind the last mark has to be the address. -/
example : readRom "a@0xFF@b" = .error (.invalidNumber "b" .invalidDigit) := by
  decide

end

end S100.CommandLine
