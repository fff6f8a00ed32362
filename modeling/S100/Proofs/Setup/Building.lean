import S100.Altair
import S100.Proofs.Floppy.Operations

/-!
# Setting up an Altair

A machine is set up by going through the settings once, and what is wrong
is found on the way. Here finding and doing are taken apart.
`Settings.faults` lists what is wrong, in the order in which it is looked
for, and says of each fault on its own what it is: no check depends on what
another has led to. `Altair.built` is the machine that comes of the
settings if all is well. `ofSettings_eq` puts the two together again.

The images lie over one another in memory, so that the last one to cover
an address is the one that is read there (`read_withRoms`), and the last
diskette for a drive is the one that is in it (`drive?_withDisks`).
`ofSettings_builds` says all of this of setting up.
-/

namespace S100

/-! ## Faults -/

section

variable {σ α β ε : Type}

/-- A result, unless there is a fault. -/
def unlessFault (fault : Option ε) (a : α) : Except ε α :=
  match fault with
  | some e => .error e
  | none => .ok a

theorem unlessFault_bind (fault : Option ε) (a : α) (f : α → Except ε β) :
    unlessFault fault a >>= f =
      match fault with
      | some e => .error e
      | none => f a := by
  cases fault <;> rfl

theorem unlessFault_eq_ok {fault : Option ε} {a b : α} :
    unlessFault fault a = .ok b ↔ fault = none ∧ a = b := by
  cases fault <;> simp [unlessFault]

theorem unlessFault_eq_error {fault : Option ε} {a : α} {e : ε} :
    unlessFault fault a = .error e ↔ fault = some e := by
  cases fault <;> simp [unlessFault]

/-- Steps that have a result unless there is a fault of their item: the
error of all of them is the first fault. `P` is what a step needs of the
state that it is taken from. -/
theorem foldlM_eq_unlessFault (step : σ → α → Except ε σ)
    (fault : α → Option ε) (next : σ → α → σ) {P : σ → Prop}
    (hstep : ∀ s a, P s → step s a = unlessFault (fault a) (next s a))
    (hkeep : ∀ s a, P s → P (next s a)) (items : List α) {s : σ} (h : P s) :
    items.foldlM step s =
      unlessFault (items.findSome? fault) (items.foldl next s) := by
  induction items generalizing s with
  | nil => rfl
  | cons a rest ih =>
      rw [List.foldlM_cons, hstep s a h, unlessFault_bind,
        List.findSome?_cons]
      cases fault a with
      | some e => rfl
      | none => exact ih (hkeep s a h)

end

/-! ## What can be wrong -/

/-- What is wrong with the size of the memory. -/
def Settings.sizeFault (s : Settings) : Option SetupError :=
  if 1 ≤ s.memorySize ∧ s.memorySize ≤ addressSpace then none
  else some (.invalidMemorySize s.memorySize)

/-- What is wrong with a diskette where there are so many drives. -/
def driveFault (driveCount : Nat) (disk : DiskSetting) : Option SetupError :=
  if disk.drive < driveCount then none
  else some (.driveOutOfRange disk.drive driveCount)

/-- What is wrong with an image for a memory of some size: first of all
that it cannot be read. -/
def FileSource.romFault (files : FileSource) (memorySize : Nat)
    (rom : RomSetting) : Option SetupError :=
  match files.read rom.path with
  | .error fault => some (.access rom.path fault)
  | .ok image =>
    if rom.address.toNat + image.size ≤ memorySize then none
    else some (.imageTooLarge rom.path image.size rom.address memorySize)

/-- What is wrong with a diskette for a controller with some drives: first
of all that it cannot be opened. -/
def FileSource.diskFault (files : FileSource) (driveCount : Nat)
    (disk : DiskSetting) : Option SetupError :=
  match files.openDisk disk.path with
  | .error fault => some (.access disk.path fault)
  | .ok _ => driveFault driveCount disk

/-- All that is wrong with settings for a controller with some drives, in
the order in which it is looked for. -/
def Settings.faults (s : Settings) (files : FileSource) (driveCount : Nat) :
    List SetupError :=
  s.sizeFault.toList
    ++ s.disks.filterMap (driveFault s.driveCount)
    ++ s.roms.filterMap (files.romFault s.memorySize)
    ++ s.disks.filterMap (files.diskFault driveCount)

/-- The settings can be followed: nothing is wrong with them. -/
structure Settings.Sound (s : Settings) (files : FileSource)
    (driveCount : Nat) : Prop where
  memorySize : 1 ≤ s.memorySize ∧ s.memorySize ≤ 65536
  drives : ∀ disk ∈ s.disks,
    disk.drive < s.driveCount ∧ disk.drive < driveCount
  roms : ∀ rom ∈ s.roms, ∃ image, files.read rom.path = .ok image
    ∧ rom.address.toNat + image.size ≤ s.memorySize
  disks : ∀ disk ∈ s.disks, ∃ opened, files.openDisk disk.path = .ok opened

section

variable {s : Settings} {files : FileSource} {memorySize driveCount : Nat}
variable {rom : RomSetting} {disk : DiskSetting}

theorem sizeFault_eq_none :
    s.sizeFault = none ↔ 1 ≤ s.memorySize ∧ s.memorySize ≤ 65536 := by
  unfold Settings.sizeFault addressSpace
  split <;> simp_all

theorem driveFault_eq_none :
    driveFault driveCount disk = none ↔ disk.drive < driveCount := by
  unfold driveFault
  split <;> simp_all

theorem romFault_eq_none :
    files.romFault memorySize rom = none ↔
      ∃ image, files.read rom.path = .ok image
        ∧ rom.address.toNat + image.size ≤ memorySize := by
  unfold FileSource.romFault
  cases files.read rom.path with
  | error fault => simp
  | ok image => simp

theorem diskFault_eq_none :
    files.diskFault driveCount disk = none ↔
      (∃ opened, files.openDisk disk.path = .ok opened)
        ∧ disk.drive < driveCount := by
  unfold FileSource.diskFault
  cases files.openDisk disk.path with
  | error fault => simp
  | ok opened => simp [driveFault_eq_none]

/-- The first fault of all is the first one of the first kind there is. -/
theorem head?_faults : (s.faults files driveCount).head? =
    ((s.sizeFault.or (s.disks.findSome? (driveFault s.driveCount))).or
      (s.roms.findSome? (files.romFault s.memorySize))).or
      (s.disks.findSome? (files.diskFault driveCount)) := by
  simp only [Settings.faults, List.head?_append, List.head?_filterMap,
    Option.head?_toList]

theorem faults_eq_nil : s.faults files driveCount = [] ↔
    s.Sound files driveCount := by
  simp only [Settings.faults, List.append_eq_nil_iff, List.filterMap_eq_nil_iff,
    Option.toList_eq_nil_iff, sizeFault_eq_none, driveFault_eq_none,
    romFault_eq_none, diskFault_eq_none]
  constructor
  · rintro ⟨⟨⟨hsize, hasked⟩, hroms⟩, hdisks⟩
    exact ⟨hsize, fun disk h => ⟨hasked disk h, (hdisks disk h).2⟩, hroms,
      fun disk h => (hdisks disk h).1⟩
  · rintro ⟨hsize, hdrives, hroms, hdisks⟩
    exact ⟨⟨⟨hsize, fun disk h => (hdrives disk h).1⟩, hroms⟩,
      fun disk h => ⟨hdisks disk h, (hdrives disk h).2⟩⟩

end

/-! ## What is done -/

/-- Memory with an image over it. An image that cannot be read is left
out. -/
def Memory.withRom (files : FileSource) (memory : Memory) (rom : RomSetting) :
    Memory :=
  match files.read rom.path with
  | .ok image => memory.load rom.address image
  | .error _ => memory

/-- A controller with a diskette in one of its drives. One that cannot be
opened is left out. -/
def Floppy.Controller.withDisk (files : FileSource) (c : Controller)
    (disk : DiskSetting) : Controller :=
  match files.diskette disk.path with
  | .ok diskette => c.act (.mount disk.drive diskette)
  | .error _ => c

/-- The machine that settings describe, with the given devices. -/
def Altair.built (files : FileSource) (s : Settings) (devices : Devices) :
    Altair :=
  let memory := s.roms.foldl (·.withRom files) (.ofSize s.memorySize)
  let disks := s.disks.foldl (·.withDisk files) devices.disks
  { cpu :=
      { regs.pc := s.startAddress
        lights := ⟨s.startAddress, memory.read s.startAddress⟩ }
    bus := { memory, ports.devices := { devices with disks } }
    startAddress := s.startAddress }

section

variable {s : Settings} {files : FileSource} {devices : Devices}

@[simp] theorem size_withRom (memory : Memory) (rom : RomSetting) :
    (memory.withRom files rom).size = memory.size := by
  unfold Memory.withRom
  split
  · exact Memory.size_load _ _ _
  · rfl

@[simp] theorem driveCount_withDisk (c : Floppy.Controller)
    (disk : DiskSetting) :
    (c.withDisk files disk).driveCount = c.driveCount := by
  unfold Floppy.Controller.withDisk
  split
  · exact Floppy.Controller.driveCount_act c _
  · rfl

theorem mount_of_lt {c : Floppy.Controller} {drive : Nat}
    (h : drive < c.driveCount) (diskette : Diskette) :
    c.mount drive diskette = some (c.act (.mount drive diskette)) := by
  simp only [Floppy.Controller.act, Floppy.Controller.mount, if_pos h,
    Option.getD_some]

/-- Looking for the first drive that is too high is looking for the first
fault. -/
theorem firstDrive_eq (driveCount : Nat) (disks : List DiskSetting) :
    (match disks.find? (driveCount ≤ ·.drive) with
      | some disk => .error (.driveOutOfRange disk.drive driveCount)
      | none => .ok ()) =
      unlessFault (disks.findSome? (driveFault driveCount)) () := by
  induction disks with
  | nil => rfl
  | cons disk rest ih =>
      rw [List.find?_cons, List.findSome?_cons, driveFault]
      by_cases h : disk.drive < driveCount
      · rw [if_pos h, decide_eq_false (Nat.not_le.mpr h)]
        exact ih
      · rw [if_neg h, decide_eq_true (Nat.not_lt.mp h)]
        rfl

theorem check_eq : s.check =
    unlessFault (s.sizeFault.or (s.disks.findSome? (driveFault s.driveCount)))
      () := by
  unfold Settings.check Settings.sizeFault
  by_cases h : 1 ≤ s.memorySize ∧ s.memorySize ≤ addressSpace
  · rw [if_pos h, if_neg (by omega), Option.none_or]
    exact firstDrive_eq s.driveCount s.disks
  · rw [if_neg h, if_pos (by omega)]
    rfl

namespace Altair

theorem loadRom_eq (m : Altair) (rom : RomSetting) :
    loadRom files m rom =
      unlessFault (files.romFault m.bus.memory.size rom)
        { m with bus.memory := m.bus.memory.withRom files rom } := by
  unfold loadRom FileSource.image FileSource.romFault Memory.withRom
  cases files.read rom.path with
  | error fault => rfl
  | ok image =>
      show (m.bus.memory.loadImage rom.path rom.address image >>= _) = _
      dsimp only
      by_cases h : rom.address.toNat + image.size ≤ m.bus.memory.size
      · rw [if_pos h, Memory.loadImage_of_fits _ h]
        rfl
      · rw [if_neg h, Memory.loadImage_of_exceeds _ (Nat.lt_of_not_le h)]
        rfl

theorem mountDisk_eq (m : Altair) (disk : DiskSetting) :
    mountDisk files m disk =
      unlessFault (files.diskFault m.disks.driveCount disk)
        (m.mapDisks (·.withDisk files disk)) := by
  unfold mountDisk FileSource.diskFault Floppy.Controller.withDisk
    FileSource.diskette
  cases files.openDisk disk.path with
  | error fault => rfl
  | ok opened =>
      show m.mount disk.drive _ = _
      dsimp only
      rw [mount, driveFault]
      by_cases h : disk.drive < m.disks.driveCount
      · rw [if_pos h, mount_of_lt h]
        rfl
      · rw [if_neg h, Floppy.Controller.mount, if_neg h]
        rfl

theorem foldl_withRom (roms : List RomSetting) (m : Altair) :
    roms.foldl
        (fun m rom => { m with bus.memory := m.bus.memory.withRom files rom })
        m =
      { m with bus.memory := roms.foldl (·.withRom files) m.bus.memory } := by
  induction roms generalizing m with
  | nil => rfl
  | cons rom rest ih => exact ih _

theorem foldl_withDisk (disks : List DiskSetting) (m : Altair) :
    disks.foldl (fun m disk => m.mapDisks (·.withDisk files disk)) m =
      m.mapDisks fun c => disks.foldl (·.withDisk files) c := by
  induction disks generalizing m with
  | nil => rfl
  | cons disk rest ih => exact ih _

/-- Setting up fails with the first fault, and without a fault it comes to
the machine that the settings describe. -/
theorem ofSettings_eq :
    ofSettings files s devices =
      unlessFault (s.faults files devices.disks.driveCount).head?
        (built files s devices) := by
  rw [ofSettings, check_eq, unlessFault_bind, head?_faults]
  cases hchecked : s.sizeFault.or
      (s.disks.findSome? (driveFault s.driveCount)) with
  | some e => rfl
  | none =>
      have hsize := sizeFault_eq_none.mp (Option.or_eq_none_iff.mp hchecked).1
      have hroms := foldlM_eq_unlessFault (loadRom files)
        (files.romFault s.memorySize)
        (fun m rom =>
          { m with bus.memory := m.bus.memory.withRom files rom })
        (P := fun m => m.bus.memory.size = s.memorySize)
        (fun m rom h => by rw [loadRom_eq, h])
        (fun m rom h => (size_withRom m.bus.memory rom).trans h)
        s.roms (s := ofMemory s.memorySize devices)
        (by
          show (Memory.ofSize s.memorySize).size = s.memorySize
          rw [Memory.size_ofSize, addressSpace]
          omega)
      rw [foldl_withRom] at hroms
      dsimp only
      rw [hroms, unlessFault_bind]
      cases s.roms.findSome? (files.romFault s.memorySize) with
      | some e => rfl
      | none =>
          have hdisks := foldlM_eq_unlessFault (mountDisk files)
            (files.diskFault devices.disks.driveCount)
            (fun m disk => m.mapDisks (·.withDisk files disk))
            (P := fun m => m.disks.driveCount = devices.disks.driveCount)
            (fun m disk h => by rw [mountDisk_eq, h])
            (fun m disk h => (driveCount_withDisk m.disks disk).trans h)
            s.disks
            (s := { ofMemory s.memorySize devices with
              bus.memory := s.roms.foldl (·.withRom files)
                (ofMemory s.memorySize devices).bus.memory })
            rfl
          rw [foldl_withDisk] at hdisks
          dsimp only
          rw [hdisks, unlessFault_bind]
          cases s.disks.findSome? (files.diskFault devices.disks.driveCount)
            <;> rfl

end Altair

/-! ## What it comes to -/

/-- The byte that an image puts at an address, if it covers it. -/
def FileSource.romByte? (files : FileSource) (address : UInt16)
    (rom : RomSetting) : Option UInt8 :=
  match files.read rom.path with
  | .ok image =>
    if rom.address ≤ address then
      image[address.toNat - rom.address.toNat]?
    else none
  | .error _ => none

theorem read_withRom {memory : Memory} {rom : RomSetting}
    (h : files.romFault memory.size rom = none) (address : UInt16) :
    (memory.withRom files rom).read address =
      (files.romByte? address rom).getD (memory.read address) := by
  obtain ⟨image, himage, hfits⟩ := romFault_eq_none.mp h
  simp only [Memory.withRom, FileSource.romByte?, himage, Memory.read_load,
    UInt16.le_iff_toNat_le]
  by_cases hbegun : rom.address.toNat ≤ address.toNat
  · rw [if_pos hbegun]
    by_cases hcovered : address.toNat - rom.address.toNat < image.size
    · rw [if_pos (by omega), byteAt_of_lt hcovered,
        Array.getElem?_eq_getElem hcovered, Option.getD_some]
    · rw [if_neg (by omega), Array.getElem?_eq_none (Nat.le_of_not_lt hcovered),
        Option.getD_none]
  · rw [if_neg hbegun, if_neg (by omega), Option.getD_none]

/-- Where images lie over one another, the last one is read. -/
theorem read_withRoms {roms : List RomSetting} {memory : Memory}
    (h : ∀ rom ∈ roms, files.romFault memory.size rom = none)
    (address : UInt16) :
    (roms.foldl (·.withRom files) memory).read address =
      (roms.reverse.findSome? (files.romByte? address)).getD
        (memory.read address) := by
  induction roms generalizing memory with
  | nil => rfl
  | cons rom rest ih =>
      have hrest : ∀ later ∈ rest,
          files.romFault (memory.withRom files rom).size later = none := by
        intro later hlater
        rw [size_withRom]
        exact h later (List.mem_cons_of_mem rom hlater)
      rw [List.foldl_cons, ih hrest, List.reverse_cons, List.findSome?_append,
        Option.getD_or, read_withRom (h rom List.mem_cons_self)]
      simp only [List.findSome?_cons, List.findSome?_nil]
      cases files.romByte? address rom <;> rfl

theorem size_withRoms (roms : List RomSetting) (memory : Memory) :
    (roms.foldl (·.withRom files) memory).size = memory.size := by
  induction roms generalizing memory with
  | nil => rfl
  | cons rom rest ih => exact (ih _).trans (size_withRom memory rom)

/-- The diskette that an opened file makes. -/
def OpenedDisk.diskette (opened : OpenedDisk) (path : String) : Diskette where
  bytes := opened.bytes
  writeProtected := opened.readOnly
  file := some path

theorem drive?_withDisk {c : Floppy.Controller} {disk : DiskSetting}
    {opened : OpenedDisk} (h : files.openDisk disk.path = .ok opened)
    (i : Nat) :
    (c.withDisk files disk).drive? i =
      if disk.drive = i then
        (c.drive? i).map fun _ =>
          { diskette := some (opened.diskette disk.path) }
      else c.drive? i := by
  unfold Floppy.Controller.withDisk FileSource.diskette
  rw [h]
  exact Floppy.Controller.drive?_mount disk.drive _ i

/-- A drive that no diskette is for stays as it is. -/
theorem drive?_withDisks_of_rest {disks : List DiskSetting}
    {c : Floppy.Controller} {i : Nat} (h : ∀ disk ∈ disks, disk.drive ≠ i)
    (hopen : ∀ disk ∈ disks, ∃ opened, files.openDisk disk.path = .ok opened) :
    (disks.foldl (·.withDisk files) c).drive? i = c.drive? i := by
  induction disks generalizing c with
  | nil => rfl
  | cons disk rest ih =>
      obtain ⟨opened, hopened⟩ := hopen disk List.mem_cons_self
      rw [List.foldl_cons,
        ih (fun later hlater => h later (List.mem_cons_of_mem disk hlater))
          (fun later hlater => hopen later (List.mem_cons_of_mem disk hlater)),
        drive?_withDisk hopened, if_neg (h disk List.mem_cons_self)]

theorem driveCount_withDisks (disks : List DiskSetting)
    (c : Floppy.Controller) :
    (disks.foldl (·.withDisk files) c).driveCount = c.driveCount := by
  induction disks generalizing c with
  | nil => rfl
  | cons disk rest ih => exact (ih _).trans (driveCount_withDisk c disk)

/-- Of several diskettes for a drive, the last one is in it. -/
theorem drive?_withDisks {before after : List DiskSetting}
    {disk : DiskSetting} {c : Floppy.Controller}
    (hlast : ∀ later ∈ after, later.drive ≠ disk.drive)
    (hopen : ∀ later ∈ before ++ disk :: after,
      ∃ opened, files.openDisk later.path = .ok opened)
    (hdrive : disk.drive < c.driveCount) :
    ∃ opened, files.openDisk disk.path = .ok opened
      ∧ ((before ++ disk :: after).foldl (·.withDisk files) c).drive? disk.drive
        = some { diskette := some (opened.diskette disk.path) } := by
  have hmem : disk ∈ before ++ disk :: after :=
    List.mem_append_right before List.mem_cons_self
  obtain ⟨opened, hopened⟩ := hopen disk hmem
  refine ⟨opened, hopened, ?_⟩
  have hafter : ∀ later ∈ after,
      ∃ opened, files.openDisk later.path = .ok opened := fun later hlater =>
    hopen later
      (List.mem_append_right before (List.mem_cons_of_mem disk hlater))
  rw [List.foldl_append, List.foldl_cons,
    drive?_withDisks_of_rest hlast hafter, drive?_withDisk hopened, if_pos rfl]
  have hthere : disk.drive <
      (before.foldl (·.withDisk files) c).driveCount := by
    rw [driveCount_withDisks]
    exact hdrive
  obtain ⟨d, hd⟩ := Floppy.Controller.exists_drive? hthere
  rw [hd]
  rfl

/-- A machine is as settings describe it: the last image to cover an
address is read there, the last diskette for a drive is in it, and the
start address has been examined. -/
structure Altair.AsSet (m : Altair) (files : FileSource) (s : Settings)
    (devices : Devices) : Prop where
  size : m.bus.memory.size = s.memorySize
  read : ∀ address, m.bus.memory.read address =
    (s.roms.reverse.findSome? (files.romByte? address)).getD 0
  drive : ∀ before disk after, s.disks = before ++ disk :: after →
    (∀ later ∈ after, later.drive ≠ disk.drive) →
    ∃ opened, files.openDisk disk.path = .ok opened
      ∧ m.disks.drive? disk.drive =
        some { diskette := some (opened.diskette disk.path) }
  otherDrive : ∀ i, (∀ disk ∈ s.disks, disk.drive ≠ i) →
    m.disks.drive? i = devices.disks.drive? i
  cpu : m.cpu =
    { regs := { pc := s.startAddress }
      lights := ⟨s.startAddress, m.bus.memory.read s.startAddress⟩ }
  startAddress : m.startAddress = s.startAddress
  wiring : m.bus.ports.wiring = .standard
  console : m.bus.ports.devices.console = devices.console
  switches : m.bus.ports.devices.switches = devices.switches

theorem Altair.asSet_built (h : s.Sound files devices.disks.driveCount) :
    (Altair.built files s devices).AsSet files s devices where
  size := by
    refine (size_withRoms s.roms _).trans ?_
    have hsize := h.memorySize
    rw [Memory.size_ofSize, addressSpace]
    omega
  read address := by
    refine (read_withRoms ?_ address).trans ?_
    · intro rom hrom
      have hsize := h.memorySize
      have hofSize : (Memory.ofSize s.memorySize).size = s.memorySize := by
        rw [Memory.size_ofSize, addressSpace]
        omega
      rw [hofSize]
      exact romFault_eq_none.mpr (h.roms rom hrom)
    · rw [Memory.read_ofSize]
  drive before disk after hsplit hlast := by
    have hmem : disk ∈ s.disks := by
      rw [hsplit]
      exact List.mem_append_right before List.mem_cons_self
    have hopen := h.disks
    rw [hsplit] at hopen
    obtain ⟨opened, hopened, hdrive⟩ :=
      drive?_withDisks hlast hopen (h.drives disk hmem).2
    rw [← hsplit] at hdrive
    exact ⟨opened, hopened, hdrive⟩
  otherDrive i hother := drive?_withDisks_of_rest hother h.disks
  cpu := rfl
  startAddress := rfl
  wiring := rfl
  console := rfl
  switches := rfl

/-- A machine that is set up is as the settings describe it. -/
theorem Altair.asSet_of_ofSettings {m : Altair}
    (h : Altair.ofSettings files s devices = .ok m) :
    m.AsSet files s devices := by
  rw [Altair.ofSettings_eq, unlessFault_eq_ok, List.head?_eq_none_iff,
    faults_eq_nil] at h
  obtain ⟨hsound, rfl⟩ := h
  exact Altair.asSet_built hsound

/-- Settings are followed exactly if they are sound: if the size of the
memory is possible, every diskette is for a drive that is asked for and
that the controller has, every image can be read and fits, and every
diskette can be opened. Otherwise the error is the first of the faults in
order. The machine that is set up is as the settings describe it. -/
theorem ofSettings_builds (files : FileSource) (s : Settings)
    (devices : Devices) :
    let result := Altair.ofSettings files s devices
    ((∃ m, result = .ok m) ↔ s.Sound files devices.disks.driveCount)
    ∧ (∀ e, result = .error e ↔
      (s.faults files devices.disks.driveCount).head? = some e)
    ∧ ∀ m, result = .ok m → m.AsSet files s devices := by
  intro result
  have hresult : result =
      unlessFault (s.faults files devices.disks.driveCount).head?
        (Altair.built files s devices) := Altair.ofSettings_eq
  have hsound : (s.faults files devices.disks.driveCount).head? = none ↔
      s.Sound files devices.disks.driveCount := by
    rw [List.head?_eq_none_iff, faults_eq_nil]
  refine ⟨?_, fun e => ?_, fun m hm => ?_⟩
  · constructor
    · rintro ⟨m, hm⟩
      rw [hresult, unlessFault_eq_ok] at hm
      exact hsound.mp hm.1
    · intro h
      exact ⟨_, hresult.trans (unlessFault_eq_ok.mpr ⟨hsound.mpr h, rfl⟩)⟩
  · rw [hresult, unlessFault_eq_error]
  · rw [hresult, unlessFault_eq_ok] at hm
    obtain ⟨hnone, rfl⟩ := hm
    exact Altair.asSet_built (hsound.mp hnone)

end

end S100
