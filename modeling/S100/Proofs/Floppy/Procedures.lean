import Mathlib.Logic.Function.Iterate
import S100.Proofs.Floppy.Filling
import S100.Proofs.Floppy.WellFormed

/-!
# Programs for the ports

What a program does at the ports to move a sector: select a drive, bring
its head down and to a track, wait for a sector to come by, and move its
bytes. Each of these steps is followed here on a drive that holds a
diskette.

All the while one drive is *faced*: it is the selected one, and the others
are as they were at the start (`Facing`). What a step makes of the
controller is then said by what it makes of that drive, and of the
transfer that is under way (`UnderWay`).
-/

namespace S100

namespace Floppy

namespace Controller

/-! ## The steps -/

/-- Select a drive, bring its head down, and step it out as far as it may
have to go, and in again to a track. -/
def seekTrack (drive track : Nat) (c : Controller) : Controller :=
  let c := (c.select (UInt8.ofNat drive)).command Command.loadHead
  let c := (·.command Command.stepOut)^[tracks - 1] c
  (·.command Command.stepIn)^[track] c

/-- Query until a sector comes by, at most `limit` times. -/
def await (sector : Nat) : Nat → Controller → Option Controller
  | 0, _ => none
  | limit + 1, c =>
    let (told, c) := c.querySector
    if told = sectorByte sector then some c else await sector limit c

def writeAll (data : List UInt8) (c : Controller) : Controller :=
  data.foldl writeData c

def readAll : Nat → Controller → List UInt8 × Controller
  | 0, c => ([], c)
  | count + 1, c =>
    let (byte, c) := c.readData
    let (bytes, c) := readAll count c
    (byte :: bytes, c)

/-! ## Facing a drive -/

/-- Drive `i` is selected, and is `d`. The other drives are those of
`start`. -/
structure Facing (start : Controller) (i : Nat) (d : Drive)
    (c : Controller) : Prop where
  selected : c.selected = some i
  drive : c.drive? i = some d
  others : ∀ j, j ≠ i → c.drive? j = start.drive? j

variable {start c : Controller} {i : Nat} {d : Drive}

theorem Facing.loaded (h : Facing start i d c)
    (hdisk : d.diskette.isSome = true) : c.loaded? = some d :=
  loaded_of_drive h.selected h.drive hdisk

/-- What only concerns the drives does not change whether one is faced. -/
theorem Facing.congr {c' : Controller} (h : Facing start i d c)
    (hselected : c'.selected = c.selected) (hdrives : c'.drives = c.drives) :
    Facing start i d c' where
  selected := hselected.trans h.selected
  drive := by
    rw [drive?, hdrives]
    exact h.drive
  others j hj := by
    rw [drive?, hdrives]
    exact h.others j hj

theorem Facing.modifySelected (h : Facing start i d c) (f : Drive → Drive) :
    Facing start i (f d) (c.modifySelected f) where
  selected := (selected_modifySelected c f).trans h.selected
  drive := by
    rw [drive?_modifySelected, if_pos h.selected, h.drive]
    rfl
  others j hj := by
    rw [drive?_modifySelected, if_neg]
    · exact h.others j hj
    · rw [h.selected, Option.some.injEq]
      exact Ne.symm hj

/-- Selecting a drive that is there cuts short what is under way. -/
theorem select_of_lt (hi : i < 16) (hthere : i < c.driveCount) :
    c.select (UInt8.ofNat i) =
      { c.abort with selected := some i, phase := .selected } := by
  have hvalue : (UInt8.ofNat i).toNat = i := by
    rw [UInt8.toNat_ofNat']
    omega
  have hlow : ¬ (0x80 : UInt8) ≤ UInt8.ofNat i := by
    rw [UInt8.le_iff_toNat_le, hvalue]
    show ¬ 128 ≤ i
    omega
  have hmod : i % 16 = i := Nat.mod_eq_of_lt hi
  unfold Controller.select
  simp only [hvalue, hmod, hlow, decide_false, Bool.false_or,
    decide_eq_true_eq, if_neg (Nat.not_le_of_lt hthere)]

theorem Facing.select (hi : i < 16) (hd : c.drive? i = some d) :
    Facing c i d (c.select (UInt8.ofNat i)) := by
  rw [select_of_lt hi (lt_of_drive? hd)]
  exact ⟨rfl, hd, fun _ _ => rfl⟩

theorem Facing.command (h : Facing start i d c)
    (hdisk : d.diskette.isSome = true) (value : UInt8) :
    Facing start i (d.moveHead value) (c.command value) :=
  (h.modifySelected (·.moveHead value)).congr (by simp)
    (drives_command (h.loaded hdisk) value)

theorem Facing.iterate_command (h : Facing start i d c)
    (hdisk : d.diskette.isSome = true) (value : UInt8) (n : Nat) :
    Facing start i ((Drive.moveHead value)^[n] d)
      ((·.command value)^[n] c) := by
  induction n generalizing c d with
  | zero => exact h
  | succ n ih => exact ih (h.command hdisk value) hdisk

/-! ## Moving the head -/

theorem moveHead_loadHead (d : Drive) :
    d.moveHead Command.loadHead = { d with headLoaded := true } := by
  have hbits : Command.has Command.loadHead Command.stepIn = false
      ∧ Command.has Command.loadHead Command.stepOut = false
      ∧ Command.has Command.loadHead Command.loadHead = true
      ∧ Command.has Command.loadHead Command.unloadHead = false := by decide
  simp [Drive.moveHead, stepTrack, hbits]

theorem moveHead_enableWriting (d : Drive) :
    d.moveHead Command.enableWriting = d := by
  have hbits : Command.has Command.enableWriting Command.stepIn = false
      ∧ Command.has Command.enableWriting Command.stepOut = false
      ∧ Command.has Command.enableWriting Command.loadHead = false
      ∧ Command.has Command.enableWriting Command.unloadHead = false := by
    decide
  simp [Drive.moveHead, stepTrack, hbits]

/-- Stepping out goes no further than the first track. -/
theorem iterate_stepOut (d : Drive) (n : Nat) :
    (Drive.moveHead Command.stepOut)^[n] d =
      { d with track := d.track - n } := by
  have hbits : Command.has Command.stepOut Command.stepIn = false
      ∧ Command.has Command.stepOut Command.stepOut = true
      ∧ Command.has Command.stepOut Command.loadHead = false
      ∧ Command.has Command.stepOut Command.unloadHead = false := by decide
  have hstep (d : Drive) :
      d.moveHead Command.stepOut = { d with track := d.track - 1 } := by
    simp only [Drive.moveHead, stepTrack, hbits, Bool.false_and,
      Bool.true_and, Bool.or_false, Bool.not_false, Bool.and_true,
      Bool.false_eq_true, if_false, decide_eq_true_eq]
    congr 1
    split <;> omega
  induction n generalizing d with
  | zero => rfl
  | succ n ih =>
      rw [Function.iterate_succ_apply, ih, hstep]
      simp only [Nat.sub_sub, Nat.add_comm 1]

theorem iterate_stepIn (d : Drive) (n : Nat) (h : d.track + n < tracks) :
    (Drive.moveHead Command.stepIn)^[n] d =
      { d with track := d.track + n } := by
  have hbits : Command.has Command.stepIn Command.stepIn = true
      ∧ Command.has Command.stepIn Command.stepOut = false
      ∧ Command.has Command.stepIn Command.loadHead = false
      ∧ Command.has Command.stepIn Command.unloadHead = false := by decide
  have hstep (d : Drive) (h : d.track + 1 < tracks) :
      d.moveHead Command.stepIn = { d with track := d.track + 1 } := by
    simp [Drive.moveHead, stepTrack, hbits, h]
  induction n generalizing d with
  | zero => rfl
  | succ n ih =>
      rw [Function.iterate_succ_apply, hstep d (by omega)]
      refine (ih _ (show d.track + 1 + n < tracks by omega)).trans ?_
      simp only [Nat.add_assoc, Nat.add_comm 1]

/-- Wherever the head was, it is brought to the track, down. -/
theorem facing_seekTrack {track : Nat} (hi : i < 16)
    (hd : c.drive? i = some d) (hdisk : d.diskette.isSome = true)
    (hwf : d.WellFormed) (ht : track < tracks) :
    Facing c i { d with track, headLoaded := true }
      (c.seekTrack i track) := by
  have hdown := (Facing.select hi hd).command hdisk Command.loadHead
  rw [moveHead_loadHead] at hdown
  have hout := hdown.iterate_command hdisk Command.stepOut (tracks - 1)
  rw [iterate_stepOut] at hout
  have hfirst : d.track - (tracks - 1) = 0 := by
    have := hwf.track_lt
    omega
  have hin := hout.iterate_command hdisk Command.stepIn track
  rw [iterate_stepIn _ _ (by simpa only [hfirst, Nat.zero_add] using ht)]
    at hin
  simp only [hfirst, Nat.zero_add] at hin
  exact hin

/-! ## Waiting for a sector -/

/-- The sector that begins at `base` is under way, up to a byte. -/
structure UnderWay (base cursor : Nat) (writing : Bool) (c : Controller) :
    Prop where
  phase : c.phase = .ready
  sectorBase : c.sectorBase = base
  cursor : c.cursor = cursor
  writeEnabled : c.writeEnabled = writing

variable {base n : Nat}

theorem UnderWay.armed {writing : Bool} (h : UnderWay base n writing c)
    (hd : c.loaded? = some d) (hhead : d.headLoaded = true) :
    c.armed = true :=
  armed_iff.mpr ⟨h.phase, d, hd, hhead⟩

theorem Facing.querySector (h : Facing start i d c)
    (hdisk : d.diskette.isSome = true) (hhead : d.headLoaded = true) :
    c.querySector.1 = sectorByte d.sector
      ∧ Facing start i d.turn c.querySector.2
      ∧ UnderWay (sectorOffset d.track d.sector) 0 false c.querySector.2 := by
  have hd := h.loaded hdisk
  refine ⟨?_, (h.modifySelected (·.turn)).congr (by simp)
    (drives_querySector hd), ?_⟩
  · simp only [Controller.querySector, hd]
  · simp only [Controller.querySector, hd, hhead, if_true]
    exact ⟨rfl, rfl, rfl, rfl⟩

/-- Sectors are told apart by what is answered. -/
theorem sectorByte_inj {s t : Nat} (hs : s < sectorsPerTrack)
    (ht : t < sectorsPerTrack) (h : sectorByte s = sectorByte t) : s = t := by
  have htoNat := congrArg UInt8.toNat h
  simp only [sectorByte, UInt8.toNat_ofNat', sectorsPerTrack] at *
  omega

/-- A sector comes by within a turn. -/
theorem Facing.await {sector limit : Nat} (h : Facing start i d c)
    (hdisk : d.diskette.isSome = true) (hhead : d.headLoaded = true)
    (hd : d.sector < sectorsPerTrack) (hs : sector < sectorsPerTrack)
    (hlimit : (sector + sectorsPerTrack - d.sector) % sectorsPerTrack
      < limit) :
    ∃ c', c.await sector limit = some c'
      ∧ Facing start i
          { d with sector := (sector + 1) % sectorsPerTrack } c'
      ∧ UnderWay (sectorOffset d.track sector) 0 false c' := by
  induction limit generalizing c d with
  | zero => exact absurd hlimit (Nat.not_lt_zero _)
  | succ limit ih =>
      obtain ⟨htold, hface, hunder⟩ := h.querySector hdisk hhead
      by_cases hsector : d.sector = sector
      · refine ⟨c.querySector.2, ?_, hsector ▸ hface, hsector ▸ hunder⟩
        simp only [Controller.await, htold, hsector, if_true]
      · have hne : sectorByte d.sector ≠ sectorByte sector :=
          fun heq => hsector (sectorByte_inj hd hs heq)
        obtain ⟨c', hawait, hface', hunder'⟩ := ih hface hdisk hhead
          (Nat.mod_lt _ (by decide)) (by
            simp only [Drive.turn, sectorsPerTrack] at *
            omega)
        refine ⟨c', ?_, hface', hunder'⟩
        simp only [Controller.await, htold, if_neg hne]
        exact hawait

/-- A whole turn is enough, wherever the diskette is in it. -/
theorem Facing.await_turn {sector : Nat} (h : Facing start i d c)
    (hdisk : d.diskette.isSome = true) (hhead : d.headLoaded = true)
    (hd : d.sector < sectorsPerTrack) (hs : sector < sectorsPerTrack) :
    ∃ c', c.await sector sectorsPerTrack = some c'
      ∧ Facing start i
          { d with sector := (sector + 1) % sectorsPerTrack } c'
      ∧ UnderWay (sectorOffset d.track sector) 0 false c' :=
  h.await hdisk hhead hd hs (Nat.mod_lt _ (by decide))

/-! ## Moving the bytes -/

/-- Enabling writing begins the sector anew, and leaves the drive alone. -/
theorem Facing.enableWriting {writing : Bool} (h : Facing start i d c)
    (hdisk : d.diskette.isSome = true) (hunder : UnderWay base n writing c) :
    Facing start i d (c.command Command.enableWriting)
      ∧ UnderWay base 0 true (c.command Command.enableWriting) := by
  have hface := h.command hdisk Command.enableWriting
  rw [moveHead_enableWriting] at hface
  have hbits : Command.has Command.enableWriting Command.stepIn = false
      ∧ Command.has Command.enableWriting Command.stepOut = false
      ∧ Command.has Command.enableWriting Command.loadHead = false
      ∧ Command.has Command.enableWriting Command.unloadHead = false
      ∧ Command.has Command.enableWriting Command.enableWriting = true := by
    decide
  refine ⟨hface, ?_⟩
  rw [command_of_loaded (h.loaded hdisk)]
  simp only [moves, Controller.afterHead, hbits, Bool.false_and, Bool.or_self,
    Bool.false_eq_true, if_false, if_true]
  exact ⟨(phase_modifySelected c _).trans hunder.phase,
    (sectorBase_modifySelected c _).trans hunder.sectorBase, rfl, rfl⟩

/-- One byte written. -/
theorem Facing.writeData (h : Facing start i d c)
    (hdisk : d.diskette.isSome = true) (hhead : d.headLoaded = true)
    (hunder : UnderWay base n true c) (value : UInt8) :
    Facing start i (c.store value d) (c.writeData value)
      ∧ if n + 1 = sectorSize then (c.writeData value).phase = .selected
        else UnderWay base (n + 1) true (c.writeData value) := by
  have hwrites : (c.armed && c.writeEnabled) = true := by
    rw [hunder.armed (h.loaded hdisk) hhead, hunder.writeEnabled]
    rfl
  have hmodify := h.modifySelected (c.store value)
  refine ⟨⟨by simpa using h.selected, ?_, fun j hj => ?_⟩, ?_⟩
  · rw [drive?_writeData hwrites]
    exact hmodify.drive
  · rw [drive?_writeData hwrites]
    exact hmodify.others j hj
  · simp only [Controller.writeData, hwrites, if_true, cursor_modifySelected,
      hunder.cursor]
    by_cases hlast : n + 1 = sectorSize
    · rw [if_pos hlast, if_pos hlast]
      rfl
    · rw [if_neg hlast, if_neg hlast]
      exact ⟨by simpa using hunder.phase, by simpa using hunder.sectorBase,
        rfl, by simpa using hunder.writeEnabled⟩

/-- One byte read. -/
theorem Facing.readData {x : Diskette} (h : Facing start i d c)
    (hdisk : d.diskette = some x) (hhead : d.headLoaded = true)
    (hunder : UnderWay base n false c) :
    c.readData.1 = (x.read (base + n)).getD 0
      ∧ Facing start i d c.readData.2
      ∧ if n + 1 = sectorSize then c.readData.2.phase = .selected
        else UnderWay base (n + 1) false c.readData.2 := by
  have hloaded := h.loaded (by rw [hdisk]; rfl)
  have hreads : (c.armed && !c.writeEnabled) = true := by
    rw [hunder.armed hloaded hhead, hunder.writeEnabled]
    rfl
  refine ⟨?_, h.congr (by simp) drives_readData, ?_⟩
  · simp only [Controller.readData, hreads, if_true, hloaded,
      Option.bind_some, hdisk, hunder.sectorBase, hunder.cursor]
  · simp only [Controller.readData, hreads, if_true, hunder.cursor]
    by_cases hlast : n + 1 = sectorSize
    · rw [if_pos hlast, if_pos hlast]
      rfl
    · rw [if_neg hlast, if_neg hlast]
      exact ⟨hunder.phase, hunder.sectorBase, rfl, hunder.writeEnabled⟩

/-- The rest of a sector read. -/
theorem Facing.readAll {x : Diskette} {count : Nat} (h : Facing start i d c)
    (hdisk : d.diskette = some x) (hhead : d.headLoaded = true)
    (hunder : UnderWay base n false c) (hpos : 0 < count)
    (hcount : n + count = sectorSize) :
    (c.readAll count).1 =
        (List.range count).map (fun k => (x.read (base + n + k)).getD 0)
      ∧ Facing start i d (c.readAll count).2
      ∧ (c.readAll count).2.phase = .selected := by
  induction count generalizing c n with
  | zero => exact absurd hpos (Nat.lt_irrefl 0)
  | succ count ih =>
      obtain ⟨hbyte, hface, hnext⟩ := h.readData hdisk hhead hunder
      by_cases hlast : n + 1 = sectorSize
      · rw [if_pos hlast] at hnext
        have hzero : count = 0 := by omega
        subst hzero
        refine ⟨?_, hface, hnext⟩
        simp only [Controller.readAll, hbyte]
        rfl
      · rw [if_neg hlast] at hnext
        obtain ⟨hbytes, hface', hphase⟩ :=
          ih hface hnext (by omega) (by omega)
        refine ⟨?_, hface', hphase⟩
        simp only [Controller.readAll, hbyte, hbytes,
          List.range_succ_eq_map, List.map_cons, List.map_map]
        congr 1
        refine List.map_congr_left fun k _ => ?_
        simp only [Function.comp_apply, Nat.succ_eq_add_one,
          Nat.add_assoc, Nat.add_comm 1]

/-- What a byte of the sector under way makes of the faced drive. -/
theorem store_of_underWay {x : Diskette} (hdisk : d.diskette = some x)
    (hunder : UnderWay base n true c) (value : UInt8) :
    c.store value d =
      { d with
        diskette := some
          (let written := x.write (base + n) value
          if n + 1 = sectorSize then written.commit ⟨base, base + sectorSize⟩
          else written) } := by
  unfold store
  rw [hunder.cursor, hunder.sectorBase]
  split <;> simp only [Drive.write, Drive.commit, hdisk, Option.map_some]

/-- The rest of a sector written. -/
theorem Facing.writeAll {x : Diskette} {data : List UInt8}
    (h : Facing start i d c) (hdisk : d.diskette = some x)
    (hhead : d.headLoaded = true) (hunder : UnderWay base n true c)
    (hne : data ≠ []) (hlength : n + data.length = sectorSize) :
    Facing start i
        { d with
          diskette := some
            ((x.fill (base + n) data).commit ⟨base, base + sectorSize⟩) }
        (c.writeAll data)
      ∧ (c.writeAll data).phase = .selected := by
  induction data generalizing c d x n with
  | nil => exact absurd rfl hne
  | cons value rest ih =>
      obtain ⟨hface, hnext⟩ :=
        h.writeData (by rw [hdisk]; rfl) hhead hunder value
      rw [store_of_underWay hdisk hunder] at hface
      rw [List.length_cons] at hlength
      by_cases hlast : n + 1 = sectorSize
      · rw [if_pos hlast] at hnext hface
        have hrest : rest = [] := List.length_eq_zero_iff.mp (by omega)
        subst hrest
        exact ⟨hface, hnext⟩
      · rw [if_neg hlast] at hnext hface
        have hrest : rest ≠ [] := by
          rintro rfl
          exact hlast (by simpa using hlength)
        exact ih hface rfl hhead hnext hrest (by omega)

end Controller

end Floppy

end S100
