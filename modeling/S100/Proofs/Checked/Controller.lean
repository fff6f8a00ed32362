import S100.Proofs.Checked.Numbers
import S100.Proofs.Floppy.WellFormed

/-!
# The floppy controller does not trap

On a host the controller moves its heads, turns its diskettes and goes through
a sector with sums and products of sizes, which have to fit into their width,
and it moves a head out with a difference, which must not be below the first
track. Nothing in these operations sees to that. They are only safe in a
controller in order: its heads are on the diskette, its next sectors are
sectors, and a sector under way lies inside a full image with the place in it
inside the sector. Every controller is in order that was made empty, whatever
was done to it since (`Controller.wellFormed_run`), so it never traps.

The length of an image plays no part. A byte is looked for at its offset and
need not be there.
-/

namespace S100.Checked

open Floppy

variable {c : Controller} {d : Drive}

/-! ## Heads and sectors -/

/-- Where a head stands after the step commands of a byte. -/
def stepTrack (command : UInt8) (track : Nat) : Checked Nat := do
  let last ← sub tracks 1
  let track ←
    if Command.has command Command.stepIn && track < last then
      add sizeBits track 1
    else pure track
  if Command.has command Command.stepOut && 0 < track then sub track 1
  else pure track

/-- Where a sector begins in the image. -/
def sectorOffset (track sector : Nat) : Checked Nat := do
  let before ← mul sizeBits track (sectorsPerTrack * sectorSize)
  let within ← mul sizeBits sector sectorSize
  add sizeBits before within

/-- The position byte. -/
def sectorByte (sector : Nat) : Checked UInt8 := do
  let shifted ← shiftLeft 8 (sector % 256) 1
  return UInt8.ofNat (0xC0 ||| shifted)

theorem stepTrack_eq {track : Nat} (h : track < tracks) (command : UInt8) :
    stepTrack command track = .ok (Floppy.stepTrack command track) := by
  have hlast : track < tracks - 1 ↔ track + 1 < tracks := by omega
  have hin : add sizeBits track 1 = .ok (track + 1) := add_eq (by
    simp only [tracks, sizeBits] at *
    omega)
  have hout (track : Nat) : (if Command.has command Command.stepOut
        && decide (0 < track) then sub track 1 else pure track) =
      Except.ok (if Command.has command Command.stepOut && decide (0 < track)
        then track - 1 else track) := by
    split
    · rename_i hpos
      exact sub_eq (of_decide_eq_true (Bool.and_eq_true_iff.mp hpos).2)
    · rfl
  rw [stepTrack, sub_eq (by decide), ok_bind, Floppy.stepTrack]
  simp only [hlast]
  split
  · rw [hin, ok_bind, hout]
  · exact hout track

theorem sectorOffset_eq {track sector : Nat} (ht : track < tracks)
    (hs : sector < sectorsPerTrack) :
    sectorOffset track sector = .ok (Floppy.sectorOffset track sector) := by
  simp only [tracks, sectorsPerTrack] at ht hs
  rw [sectorOffset, mul_eq, ok_bind, mul_eq, ok_bind, add_eq,
    Floppy.sectorOffset]
  · congr 1
    simp only [sectorsPerTrack, sectorSize]
    omega
  all_goals
    simp only [sectorsPerTrack, sectorSize, sizeBits]
    omega

theorem sectorByte_eq {sector : Nat} (hs : sector < sectorsPerTrack) :
    sectorByte sector = .ok (Floppy.sectorByte sector) := by
  have hbyte : ∀ sector < sectorsPerTrack,
      UInt8.ofNat (0xC0 ||| sector % 256 * 2 ^ 1 % 2 ^ 8) =
        Floppy.sectorByte sector := by decide
  rw [sectorByte, shiftLeft_eq (by decide), ok_bind, hbyte sector hs]
  rfl

/-- What is done to the selected drive is a matter of that drive alone. -/
theorem modifySelected_congr (hd : c.loaded? = some d) {f g : Drive → Drive}
    (h : f d = g d) : c.modifySelected f = c.modifySelected g := by
  obtain ⟨i, hi, hdrive, -⟩ := Controller.loaded?_eq_some.mp hd
  have hdrives : c.drives.modify i f = c.drives.modify i g := by
    refine Array.ext_getElem? fun j => ?_
    rw [c.drive?_modify, c.drive?_modify]
    split
    · rename_i hij
      rw [← hij, hdrive, Option.map_some, Option.map_some, h]
    · rfl
  simp only [Controller.modifySelected, hi, hdrives]

/-! ## The ports -/

def command (c : Controller) (value : UInt8) : Checked Controller :=
  match c.loaded? with
  | none => .ok c
  | some drive => do
    let track ← stepTrack value drive.track
    let c := c.modifySelected fun d => { d.moveHead value with track }
    let c := { c with
      interruptsEnabled :=
        (c.interruptsEnabled || Command.has value Command.enableInterrupts)
          && !Command.has value Command.disableInterrupts }
    let c := c.afterHead value (moves value drive.track)
    return if Command.has value Command.enableWriting then
      { c with cursor := 0, writeEnabled := true }
    else c

def querySector (c : Controller) : Checked (UInt8 × Controller) :=
  match c.loaded? with
  | none => .ok (Status.none, c)
  | some drive => do
    let next ← add sizeBits drive.sector 1
    let c := c.modifySelected ({ · with sector := next % sectorsPerTrack })
    let told ← sectorByte drive.sector
    if drive.headLoaded then
      let sectorBase ← sectorOffset drive.track drive.sector
      return (told, { c.abort with sectorBase, phase := .ready })
    else return (told, c)

/-- Note a span on the selected diskette, and for its file. -/
def commit (c : Controller) (span : Span) : Controller :=
  let writes := (c.loaded?.bind (·.diskette)).bind (·.fileWrite? span)
  let c := c.modifySelected (·.commit span)
  { c with journal := c.journal ++ writes.toArray }

def writeData (c : Controller) (value : UInt8) : Checked Controller :=
  if c.armed && c.writeEnabled then do
    let offset ← add sizeBits c.sectorBase c.cursor
    let written := c.modifySelected (·.write offset value)
    let cursor ← add sizeBits c.cursor 1
    if cursor = sectorSize then
      let stop ← add sizeBits c.sectorBase sectorSize
      return (commit written ⟨c.sectorBase, stop⟩).finish
    else return { written with cursor }
  else .ok c

def readData (c : Controller) : Checked (UInt8 × Controller) :=
  if c.armed && !c.writeEnabled then do
    let offset ← add sizeBits c.sectorBase c.cursor
    let diskette := c.loaded?.bind (·.diskette)
    let value := (diskette.bind (·.read offset)).getD 0
    let cursor ← add sizeBits c.cursor 1
    return (value, if cursor = sectorSize then c.finish else { c with cursor })
  else .ok (0, c)

theorem command_eq (hc : c.WellFormed) (value : UInt8) :
    command c value = .ok (c.command value) := by
  cases hd : c.loaded? with
  | none => simp only [command, Controller.command, hd]
  | some d =>
      obtain ⟨i, -, hdrive, -⟩ := Controller.loaded?_eq_some.mp hd
      have htrack := (hc.drives i d hdrive).track_lt
      have hmove : (c.modifySelected fun drive =>
            { drive.moveHead value with
              track := Floppy.stepTrack value d.track }) =
          c.modifySelected (·.moveHead value) :=
        modifySelected_congr hd rfl
      simp only [command, Controller.command, hd, stepTrack_eq htrack, ok_bind,
        hmove]
      rfl

theorem querySector_eq (hc : c.WellFormed) :
    querySector c = .ok c.querySector := by
  cases hd : c.loaded? with
  | none => simp only [querySector, Controller.querySector, hd]
  | some d =>
      obtain ⟨i, -, hdrive, -⟩ := Controller.loaded?_eq_some.mp hd
      obtain ⟨htrack, hsector, -⟩ := hc.drives i d hdrive
      have hnext : add sizeBits d.sector 1 = .ok (d.sector + 1) := add_eq (by
        simp only [sectorsPerTrack, sizeBits] at *
        omega)
      have hturn : (c.modifySelected
            ({ · with sector := (d.sector + 1) % sectorsPerTrack })) =
          c.modifySelected (·.turn) :=
        modifySelected_congr hd rfl
      simp only [querySector, Controller.querySector, hd, hnext, ok_bind,
        hturn, sectorByte_eq hsector, sectorOffset_eq htrack hsector]
      split <;> rfl

/-- A sector under way lies in a full image. -/
theorem sectorBase_fits (hc : c.WellFormed) (harmed : c.armed = true) :
    c.sectorBase + sectorSize ≤ diskSize := by
  obtain ⟨d, -, hon⟩ := hc.on_of_ready (Controller.armed_iff.mp harmed).1
  exact hon.fits

/-- The sums that a byte of the sector under way takes. -/
theorem transfer_sums (hc : c.WellFormed) (harmed : c.armed = true) :
    add sizeBits c.sectorBase c.cursor = .ok (c.sectorBase + c.cursor)
      ∧ add sizeBits c.cursor 1 = .ok (c.cursor + 1)
      ∧ add sizeBits c.sectorBase sectorSize =
        .ok (c.sectorBase + sectorSize) := by
  have hfits := sectorBase_fits hc harmed
  have hcursor := hc.cursor_lt
  simp only [diskSize, tracks, sectorsPerTrack, sectorSize] at hfits hcursor
  refine ⟨add_eq ?_, add_eq ?_, add_eq ?_⟩
  all_goals
    simp only [sizeBits, sectorSize]
    omega

theorem writeData_eq (hc : c.WellFormed) (value : UInt8) :
    writeData c value = .ok (c.writeData value) := by
  by_cases hwrites : (c.armed && c.writeEnabled) = true
  · obtain ⟨hoffset, hcursor, hstop⟩ :=
      transfer_sums hc (Bool.and_eq_true_iff.mp hwrites).1
    have hcommit (written : Controller)
        (hbase : written.sectorBase = c.sectorBase) : written.commitSector =
          commit written ⟨c.sectorBase, c.sectorBase + sectorSize⟩ := by
      rw [← hbase]
      rfl
    simp only [writeData, Controller.writeData, hwrites, if_true, hoffset,
      hcursor, hstop, ok_bind, Controller.cursor_modifySelected]
    split
    · rw [hcommit _ (Controller.sectorBase_modifySelected c _)]
      rfl
    · rfl
  · rw [writeData, Controller.writeData, if_neg hwrites, if_neg hwrites]

theorem readData_eq (hc : c.WellFormed) : readData c = .ok c.readData := by
  by_cases hreads : (c.armed && !c.writeEnabled) = true
  · obtain ⟨hoffset, hcursor, -⟩ :=
      transfer_sums hc (Bool.and_eq_true_iff.mp hreads).1
    simp only [readData, Controller.readData, hreads, if_true, hoffset,
      hcursor, ok_bind]
    rfl
  · rw [readData, Controller.readData, if_neg hreads, if_neg hreads]

/-- A controller that is not in order may trap: here a sector lies at the end
of all sizes. -/
example :
    readData {
      drives := #[{ diskette := some { bytes := #[] }, headLoaded := true }]
      selected := some 0
      phase := .ready
      sectorBase := 2 ^ 64 - 1
      cursor := 1 } = .error .overflow := by
  rfl

/-! ## Whatever is done to it -/

/-- Selecting, telling the status, handling diskettes and resetting have
nothing to compute. -/
def act (c : Controller) : Action → Checked Controller
  | .command value => command c value
  | .querySector => return (← querySector c).2
  | .readData => return (← readData c).2
  | .writeData value => writeData c value
  | a => .ok (c.act a)

theorem act_eq (hc : c.WellFormed) (a : Action) :
    act c a = .ok (c.act a) := by
  cases a with
  | command value => exact command_eq hc value
  | querySector =>
      show (querySector c >>= fun answer => .ok answer.2) = _
      rw [querySector_eq hc, ok_bind]
      rfl
  | readData =>
      show (readData c >>= fun answer => .ok answer.2) = _
      rw [readData_eq hc, ok_bind]
      rfl
  | writeData value => exact writeData_eq hc value
  | select | status | mount | eject | reset => rfl

end S100.Checked
