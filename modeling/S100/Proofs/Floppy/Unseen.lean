import S100.Proofs.Floppy.WellFormed

/-!
# What a floppy controller does not show

Two things in a controller cannot be found out. Where the sector under way
begins is only looked at while one is under way, and from one sector to the
next it is set anew. The writes noted for the host are added to and never
looked at.

`SameBut` is what two controllers have in common that may be different in
these two. Every operation keeps it (`SameBut.act`) and gives the same in
both; in the notes the same is added to what was there before.
-/

namespace S100

namespace Floppy

namespace Controller

/-- The two controllers are the same, but for the beginning of a sector that
is not under way, and that one has noted the writes `first` and the other
`second` before they both noted the same. -/
structure SameBut (first second : Array FileWrite) (c c' : Controller) :
    Prop where
  drives : c'.drives = c.drives
  selected : c'.selected = c.selected
  phase : c'.phase = c.phase
  sectorBase : c.phase = .ready → c'.sectorBase = c.sectorBase
  cursor : c'.cursor = c.cursor
  writeEnabled : c'.writeEnabled = c.writeEnabled
  interruptsEnabled : c'.interruptsEnabled = c.interruptsEnabled
  journal : ∃ noted, c.journal = first ++ noted ∧ c'.journal = second ++ noted

namespace SameBut

variable {first second : Array FileWrite} {c c' : Controller}

/-! ## What is looked at -/

theorem driveCount (h : SameBut first second c c') :
    c'.driveCount = c.driveCount :=
  congrArg Array.size h.drives

theorem drive? (h : SameBut first second c c') (i : Nat) :
    c'.drive? i = c.drive? i :=
  congrArg (·[i]?) h.drives

theorem diskette? (h : SameBut first second c c') (i : Nat) :
    c'.diskette? i = c.diskette? i :=
  congrArg (·.bind (·.diskette)) (h.drive? i)

theorem loaded? (h : SameBut first second c c') : c'.loaded? = c.loaded? :=
  loaded?_congr h.selected fun i _ => h.drive? i

theorem armed (h : SameBut first second c c') : c'.armed = c.armed := by
  rw [Controller.armed, h.phase, h.loaded?]
  rfl

theorem status (h : SameBut first second c c') : c'.status = c.status := by
  rw [Controller.status, h.phase, h.loaded?, h.writeEnabled,
    h.interruptsEnabled]
  rfl

/-! ## Parts of operations -/

theorem modifySelected (h : SameBut first second c c') (f : Drive → Drive) :
    SameBut first second (c.modifySelected f) (c'.modifySelected f) := by
  unfold Controller.modifySelected
  rw [h.selected]
  split
  · exact h
  · rename_i i _
    exact ⟨congrArg (·.modify i f) h.drives, rfl, h.phase, h.sectorBase,
      h.cursor, h.writeEnabled, h.interruptsEnabled, h.journal⟩

/-- With nothing under way the beginning of a sector does not count. -/
theorem cutShort (h : SameBut first second c c') {phase : Phase}
    (hphase : phase ≠ .ready) :
    SameBut first second { c.abort with phase } { c'.abort with phase } where
  drives := h.drives
  selected := h.selected
  phase := rfl
  sectorBase hready := absurd hready hphase
  cursor := rfl
  writeEnabled := rfl
  interruptsEnabled := h.interruptsEnabled
  journal := h.journal

theorem finish (h : SameBut first second c c') :
    SameBut first second c.finish c'.finish :=
  h.cutShort nofun

theorem withCursor (h : SameBut first second c c') (cursor : Nat) :
    SameBut first second { c with cursor } { c' with cursor } where
  drives := h.drives
  selected := h.selected
  phase := h.phase
  sectorBase := h.sectorBase
  cursor := rfl
  writeEnabled := h.writeEnabled
  interruptsEnabled := h.interruptsEnabled
  journal := h.journal

theorem moveHead (h : SameBut first second c c') (value : UInt8) :
    SameBut first second (c.moveHead value) (c'.moveHead value) := by
  have hmoved := h.modifySelected (·.moveHead value)
  have hinterrupts := congrArg
    (fun enabled => (enabled || Command.has value Command.enableInterrupts)
      && !Command.has value Command.disableInterrupts)
    hmoved.interruptsEnabled
  exact ⟨hmoved.drives, hmoved.selected, hmoved.phase, hmoved.sectorBase,
    hmoved.cursor, hmoved.writeEnabled, hinterrupts, hmoved.journal⟩

theorem afterHead (h : SameBut first second c c') (value : UInt8)
    (moved : Bool) :
    SameBut first second (c.afterHead value moved)
      (c'.afterHead value moved) := by
  unfold Controller.afterHead
  rw [h.phase]
  split
  · exact h.cutShort nofun
  · split
    · exact ⟨h.drives, h.selected, rfl, nofun, h.cursor, h.writeEnabled,
        h.interruptsEnabled, h.journal⟩
    · split
      · exact h.finish
      · exact h

/-- The sector under way begins at the same place in both when it is
committed, so that the host is told the same. -/
theorem commitSector (h : SameBut first second c c')
    (hready : c.phase = .ready) :
    SameBut first second c.commitSector c'.commitSector := by
  obtain ⟨noted, hfirst, hsecond⟩ := h.journal
  unfold Controller.commitSector
  rw [h.sectorBase hready, h.loaded?]
  have hcommitted := h.modifySelected
    (·.commit ⟨c.sectorBase, c.sectorBase + sectorSize⟩)
  refine ⟨hcommitted.drives, hcommitted.selected, hcommitted.phase,
    hcommitted.sectorBase, hcommitted.cursor, hcommitted.writeEnabled,
    hcommitted.interruptsEnabled, ?_⟩
  simp only [journal_modifySelected, hfirst, hsecond, Array.append_assoc]
  exact ⟨_, rfl, rfl⟩

theorem finishIfSelected (h : SameBut first second c c') (drive : Nat) :
    SameBut first second (c.finishIfSelected drive)
      (c'.finishIfSelected drive) := by
  unfold Controller.finishIfSelected
  rw [h.selected]
  split
  · exact h.finish
  · exact h

/-- Another diskette, or none, in one of the drives. -/
theorem exchange (h : SameBut first second c c') (i : Nat)
    (f : Drive → Drive) :
    SameBut first second
      ({ c with drives := c.drives.modify i f }.finishIfSelected i)
      ({ c' with drives := c'.drives.modify i f }.finishIfSelected i) := by
  refine SameBut.finishIfSelected ?_ i
  exact ⟨congrArg (·.modify i f) h.drives, h.selected, h.phase, h.sectorBase,
    h.cursor, h.writeEnabled, h.interruptsEnabled, h.journal⟩

/-! ## Operations -/

theorem select (h : SameBut first second c c') (value : UInt8) :
    SameBut first second (c.select value) (c'.select value) := by
  unfold Controller.select
  rw [h.driveCount]
  dsimp only
  split
  · exact ⟨h.drives, rfl, rfl, nofun, rfl, rfl, h.interruptsEnabled, h.journal⟩
  · exact ⟨h.drives, rfl, rfl, nofun, rfl, rfl, h.interruptsEnabled, h.journal⟩

theorem command (h : SameBut first second c c') (value : UInt8) :
    SameBut first second (c.command value) (c'.command value) := by
  cases hd : c.loaded? with
  | none =>
      simp only [Controller.command, h.loaded?, hd]
      exact h
  | some d =>
      have hafter := (h.moveHead value).afterHead value (moves value d.track)
      rw [command_of_loaded hd, command_of_loaded (h.loaded?.trans hd)]
      dsimp only
      split
      · exact ⟨hafter.drives, hafter.selected, hafter.phase, hafter.sectorBase,
          rfl, rfl, hafter.interruptsEnabled, hafter.journal⟩
      · exact hafter

theorem querySector (h : SameBut first second c c') :
    c'.querySector.1 = c.querySector.1
      ∧ SameBut first second c.querySector.2 c'.querySector.2 := by
  unfold Controller.querySector
  rw [h.loaded?]
  cases c.loaded? with
  | none => exact ⟨rfl, h⟩
  | some d =>
      have hturned := h.modifySelected (·.turn)
      refine ⟨rfl, ?_⟩
      dsimp only
      split
      · exact ⟨hturned.drives, hturned.selected, rfl, fun _ => rfl, rfl, rfl,
          hturned.interruptsEnabled, hturned.journal⟩
      · exact hturned

theorem readData (h : SameBut first second c c') :
    c'.readData.1 = c.readData.1
      ∧ SameBut first second c.readData.2 c'.readData.2 := by
  unfold Controller.readData
  rw [h.armed, h.writeEnabled, h.loaded?, h.cursor]
  split
  · rename_i hreading
    obtain ⟨hready, -⟩ := armed_iff.mp (Bool.and_eq_true_iff.mp hreading).1
    refine ⟨by rw [h.sectorBase hready], ?_⟩
    dsimp only
    split
    · exact h.finish
    · have hnext := h.withCursor (c.cursor + 1)
      rwa [h.writeEnabled] at hnext
  · exact ⟨rfl, h⟩

theorem writeData (h : SameBut first second c c') (value : UInt8) :
    SameBut first second (c.writeData value) (c'.writeData value) := by
  unfold Controller.writeData
  rw [h.armed, h.writeEnabled]
  split
  · rename_i hwriting
    obtain ⟨hready, -⟩ := armed_iff.mp (Bool.and_eq_true_iff.mp hwriting).1
    have hwritten := h.modifySelected (·.write (c.sectorBase + c.cursor) value)
    dsimp only
    rw [cursor_modifySelected, cursor_modifySelected, h.sectorBase hready,
      h.cursor]
    split
    · refine (hwritten.commitSector ?_).finish
      rw [phase_modifySelected]
      exact hready
    · exact hwritten.withCursor (c.cursor + 1)
  · exact h

theorem mount (h : SameBut first second c c') (drive : Nat)
    (diskette : Diskette) :
    SameBut first second (c.act (.mount drive diskette))
      (c'.act (.mount drive diskette)) := by
  simp only [act, Controller.mount, h.driveCount]
  split
  · exact h.exchange drive (·.insert diskette)
  · exact h

theorem eject (h : SameBut first second c c') (drive : Nat) :
    (c'.eject drive).1 = (c.eject drive).1
      ∧ SameBut first second (c.eject drive).2 (c'.eject drive).2 := by
  unfold Controller.eject
  rw [h.driveCount, h.diskette?]
  split
  · exact ⟨rfl, h.exchange drive (·.remove)⟩
  · exact ⟨rfl, h⟩

theorem reset (h : SameBut first second c c') :
    SameBut first second c.reset c'.reset where
  drives := congrArg (·.map ({ · with headLoaded := false })) h.drives
  selected := rfl
  phase := rfl
  sectorBase := nofun
  cursor := rfl
  writeEnabled := rfl
  interruptsEnabled := rfl
  journal := h.journal

theorem act (h : SameBut first second c c') (a : Action) :
    SameBut first second (c.act a) (c'.act a) := by
  cases a with
  | select value => exact h.select value
  | status => exact h
  | command value => exact h.command value
  | querySector => exact h.querySector.2
  | readData => exact h.readData.2
  | writeData value => exact h.writeData value
  | mount drive diskette => exact h.mount drive diskette
  | eject drive => exact (h.eject drive).2
  | reset => exact h.reset

end SameBut

end Controller

end Floppy

end S100
