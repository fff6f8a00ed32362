import S100.Proofs.Floppy.Operations

/-!
# Controllers in order

The fields of a controller depend on one another: the phase says whether a
drive is selected, a transfer that is under way needs a diskette, a head
that is down, and the sector that has just come by, and a byte count means
something during a transfer only. `WellFormed` puts all of this down, and
`wellFormed_run` says that no run ever leaves it.

It comes in two halves. The drives are in order each for itself, and what
an action can make of a drive is known (`Controller.Change`). The
transfer is in order if it is *settled*, that is, nothing is under way,
and stays in order where an action leaves the drive under it in place
(`Sequenced.frame`). Every action does one or the other, or starts a
transfer, or takes one on by a byte.
-/

namespace S100

namespace Floppy

/-! ## Drives -/

/-- The head is over the diskette, and without a diskette at rest. -/
structure Drive.WellFormed (d : Drive) : Prop where
  track_lt : d.track < tracks
  sector_lt : d.sector < sectorsPerTrack
  rest_of_empty : d.diskette = none →
    d.track = 0 ∧ d.sector = 0 ∧ d.headLoaded = false

theorem Drive.WellFormed.rewind {d : Drive} : d.rewind.WellFormed where
  track_lt := show 0 < tracks by decide
  sector_lt := show 0 < sectorsPerTrack by decide
  rest_of_empty _ := ⟨rfl, rfl, rfl⟩

theorem stepTrack_lt {track : Nat} (h : track < tracks) (command : UInt8) :
    stepTrack command track < tracks := by
  simp only [stepTrack, Bool.and_eq_true, decide_eq_true_eq]
  repeat' split
  all_goals omega

/-- A command that does not move the head leaves it where it is. -/
theorem stepTrack_of_not_moves {command : UInt8} {track : Nat}
    (h : moves command track = false) : stepTrack command track = track := by
  rw [moves, Bool.or_eq_false_iff] at h
  simp only [stepTrack, h.1, h.2, Bool.false_eq_true, if_false]

theorem Drive.WellFormed.change {c : Controller} {a : Action} {d d' : Drive}
    (h : d.WellFormed) (hchange : c.Change a d d') : d'.WellFormed := by
  cases hchange with
  | rest => exact h
  | turn hdisk =>
      refine ⟨h.track_lt, Nat.mod_lt _ (by decide), fun hnone => ?_⟩
      rw [show d.diskette = none from hnone] at hdisk
      cases hdisk
  | moveHead hdisk =>
      refine ⟨stepTrack_lt h.track_lt _, h.sector_lt, fun hnone => ?_⟩
      rw [show d.diskette = none from hnone] at hdisk
      cases hdisk
  | @store value =>
      refine ⟨by simpa using h.track_lt, by simpa using h.sector_lt,
        fun hnone => ?_⟩
      rw [Controller.diskette_store, Option.map_eq_none_iff] at hnone
      simpa using h.rest_of_empty hnone
  | insert => exact .rewind
  | remove => exact .rewind
  | raise =>
      refine ⟨h.track_lt, h.sector_lt, fun hnone => ?_⟩
      obtain ⟨htrack, hsector, -⟩ := h.rest_of_empty hnone
      exact ⟨htrack, hsector, rfl⟩

/-- The head is down on the sector that begins at `base`, the one before
the next to come. -/
structure Drive.On (d : Drive) (base : Nat) : Prop where
  headLoaded : d.headLoaded = true
  base_eq : base = sectorOffset d.track
    ((d.sector + (sectorsPerTrack - 1)) % sectorsPerTrack)
  fits : base + sectorSize ≤ diskSize

theorem sectorOffset_fits {track sector : Nat} (ht : track < tracks)
    (hs : sector < sectorsPerTrack) :
    sectorOffset track sector + sectorSize ≤ diskSize := by
  simp only [sectorOffset, diskSize, tracks, sectorsPerTrack,
    sectorSize] at *
  omega

/-- When a sector has come by under a loaded head, the head is on it. -/
theorem Drive.WellFormed.on_turn {d : Drive} (h : d.WellFormed)
    (hhead : d.headLoaded = true) :
    d.turn.On (sectorOffset d.track d.sector) where
  headLoaded := hhead
  base_eq := by
    have hs := h.sector_lt
    simp only [turn, sectorsPerTrack] at *
    congr 1
    omega
  fits := sectorOffset_fits h.track_lt h.sector_lt

/-! ## Transfers -/

namespace Controller

/-- The fields that follow a transfer are in order. -/
structure Sequenced (c : Controller) : Prop where
  idle_iff : c.phase = .idle ↔ c.selected = none
  cursor_lt : c.cursor < sectorSize
  ready_of_cursor : c.cursor ≠ 0 → c.phase = .ready
  loaded_of_writing : c.writeEnabled = true → c.loaded?.isSome = true
  on_of_ready : c.phase = .ready →
    ∃ d, c.loaded? = some d ∧ d.On c.sectorBase

/-- Nothing is under way. -/
theorem Sequenced.settled {c : Controller}
    (hidle : c.phase = .idle ↔ c.selected = none)
    (hphase : c.phase ≠ .ready) (hcursor : c.cursor = 0)
    (hwriting : c.writeEnabled = true → c.loaded?.isSome = true) :
    c.Sequenced where
  idle_iff := hidle
  cursor_lt := hcursor ▸ (by decide)
  ready_of_cursor h := absurd hcursor h
  loaded_of_writing := hwriting
  on_of_ready h := absurd h hphase

variable {c : Controller} {d : Drive}

theorem Sequenced.cursor_eq_zero (h : c.Sequenced) (hphase : c.phase ≠ .ready) :
    c.cursor = 0 :=
  Decidable.byContradiction fun hne => hphase (h.ready_of_cursor hne)

/-- Finishing a selected drive's transfer settles it. -/
theorem Sequenced.finish (h : c.selected ≠ none) : c.finish.Sequenced :=
  .settled ⟨nofun, fun hnone => absurd hnone h⟩ nofun rfl nofun

/-- An action that leaves the transfer alone and the drive under it in
place. -/
theorem Sequenced.frame {c' : Controller} (h : c.Sequenced)
    (hphase : c'.phase = c.phase) (hselected : c'.selected = c.selected)
    (hbase : c'.sectorBase = c.sectorBase)
    (hcursor : c'.cursor = c.cursor)
    (hwriting : c'.writeEnabled = c.writeEnabled)
    (hloaded : ∀ d, c.loaded? = some d → ∃ d', c'.loaded? = some d'
      ∧ (c.phase = .ready → d.On c.sectorBase → d'.On c.sectorBase)) :
    c'.Sequenced where
  idle_iff := by rw [hphase, hselected]; exact h.idle_iff
  cursor_lt := hcursor ▸ h.cursor_lt
  ready_of_cursor hne := by
    rw [hphase]
    exact h.ready_of_cursor (hcursor ▸ hne)
  loaded_of_writing hw := by
    have hsome := h.loaded_of_writing (hwriting ▸ hw)
    obtain ⟨d, hd⟩ := Option.isSome_iff_exists.mp hsome
    obtain ⟨d', hd', -⟩ := hloaded d hd
    rw [hd']
    rfl
  on_of_ready hready := by
    rw [hphase] at hready
    obtain ⟨d, hd, hon⟩ := h.on_of_ready hready
    obtain ⟨d', hd', hkeep⟩ := hloaded d hd
    exact ⟨d', hd', hbase ▸ hkeep hready hon⟩

theorem selected_of_loaded (h : c.loaded? = some d) : c.selected ≠ none := by
  obtain ⟨i, hi, -⟩ := loaded?_eq_some.mp h
  rw [hi]
  nofun

/-- A sector has come by under a loaded head. -/
theorem Sequenced.started (hphase : c.phase = .ready) (hcursor : c.cursor = 0)
    (hwriting : c.writeEnabled = false) (hd : c.loaded? = some d)
    (hon : d.On c.sectorBase) : c.Sequenced where
  idle_iff := by
    refine ⟨fun hidle => ?_, fun hnone => absurd hnone (selected_of_loaded hd)⟩
    cases hidle.symm.trans hphase
  cursor_lt := hcursor ▸ (by decide)
  ready_of_cursor _ := hphase
  loaded_of_writing hw := by
    cases hw.symm.trans hwriting
  on_of_ready _ := ⟨d, hd, hon⟩

theorem Sequenced.select (value : UInt8) : (c.select value).Sequenced := by
  unfold Controller.select
  dsimp only
  split
  · exact .settled ⟨fun _ => rfl, fun _ => rfl⟩ nofun rfl nofun
  · exact .settled ⟨nofun, nofun⟩ nofun rfl nofun

theorem Sequenced.reset : c.reset.Sequenced :=
  .settled ⟨fun _ => rfl, fun _ => rfl⟩ nofun rfl nofun

/-- Without moving the head, a command keeps it on its sector, unless it
unloads it. -/
theorem on_moveHead {base : Nat} {value : UInt8} (h : d.On base)
    (hmoves : moves value d.track = false)
    (hunload : Command.has value Command.unloadHead = false) :
    (d.moveHead value).On base where
  headLoaded := by simp [Drive.moveHead, h.headLoaded, hunload]
  base_eq := by
    simp only [Drive.moveHead, stepTrack_of_not_moves hmoves]
    exact h.base_eq
  fits := h.fits

/-- The head and the interrupts of a command, before anything is made of
the transfer. -/
def moveHead (c : Controller) (value : UInt8) : Controller :=
  let c := c.modifySelected (·.moveHead value)
  { c with
    interruptsEnabled :=
      (c.interruptsEnabled || Command.has value Command.enableInterrupts)
        && !Command.has value Command.disableInterrupts }

theorem command_of_loaded (h : c.loaded? = some d) (value : UInt8) :
    c.command value =
      let moved := (c.moveHead value).afterHead value (moves value d.track)
      if Command.has value Command.enableWriting then
        { moved with cursor := 0, writeEnabled := true }
      else moved := by
  simp only [command, h]
  rfl

theorem loaded?_moveHead (value : UInt8) :
    (c.moveHead value).loaded? = c.loaded?.map (·.moveHead value) :=
  loaded?_modifySelected _ fun _ => rfl

theorem loaded?_afterHead (value : UInt8) (moved : Bool) :
    (c.afterHead value moved).loaded? = c.loaded? := by
  unfold afterHead
  repeat' split
  all_goals rfl

theorem Sequenced.afterHead (h : c.Sequenced) (hd : c.loaded? = some d)
    (value : UInt8) :
    ((c.moveHead value).afterHead value (moves value d.track)).Sequenced := by
  have hselected : (c.moveHead value).selected ≠ none := by
    simpa [moveHead] using selected_of_loaded hd
  have hloaded := loaded?_moveHead (c := c) value
  rw [hd, Option.map_some] at hloaded
  unfold Controller.afterHead
  split
  · exact .settled ⟨nofun, fun hnone => absurd hnone hselected⟩ nofun rfl nofun
  · rename_i hmoves
    split
    · rename_i hseek
      have hphase : c.phase = .selected := by
        simpa [moveHead] using (Bool.and_eq_true_iff.mp hseek).2
      have hcursor := h.cursor_eq_zero (by rw [hphase]; nofun)
      refine .settled ⟨nofun, fun hnone => absurd hnone hselected⟩ nofun ?_ ?_
      · simpa [moveHead] using hcursor
      · intro _
        show (c.moveHead value).loaded?.isSome = true
        rw [hloaded]
        rfl
    · split
      · exact .finish hselected
      · rename_i hunload
        refine h.frame (by simp [moveHead]) (by simp [moveHead])
          (by simp [moveHead]) (by simp [moveHead]) (by simp [moveHead]) ?_
        intro d' hd'
        rw [hd, Option.some.injEq] at hd'
        refine ⟨_, hloaded, fun _ hon => ?_⟩
        exact on_moveHead (hd' ▸ hon) (Bool.eq_false_iff.mpr hmoves)
          (Bool.eq_false_iff.mpr hunload)

/-- Enabling writing begins the sector anew. -/
theorem Sequenced.beginWriting (h : c.Sequenced)
    (hloaded : c.loaded?.isSome = true) :
    { c with cursor := 0, writeEnabled := true : Controller }.Sequenced where
  idle_iff := h.idle_iff
  cursor_lt := show 0 < sectorSize by decide
  ready_of_cursor hne := absurd rfl hne
  loaded_of_writing _ := hloaded
  on_of_ready := h.on_of_ready

theorem Sequenced.command (h : c.Sequenced) (value : UInt8) :
    (c.command value).Sequenced := by
  cases hd : c.loaded? with
  | none =>
      simp only [Controller.command, hd]
      exact h
  | some d =>
      have hafter := h.afterHead hd value
      rw [command_of_loaded hd]
      dsimp only
      split
      · refine hafter.beginWriting ?_
        rw [loaded?_afterHead, loaded?_moveHead, hd]
        rfl
      · exact hafter

theorem Sequenced.querySector (h : c.Sequenced)
    (hdrives : ∀ i d, c.drive? i = some d → d.WellFormed) :
    c.querySector.2.Sequenced := by
  cases hd : c.loaded? with
  | none =>
      simp only [Controller.querySector, hd]
      exact h
  | some d =>
      obtain ⟨i, hi, hdrive, -⟩ := loaded?_eq_some.mp hd
      have hloaded : (c.modifySelected (·.turn)).loaded? = some d.turn := by
        rw [loaded?_modifySelected Drive.turn fun _ => rfl, hd]
        rfl
      simp only [Controller.querySector, hd]
      split
      · rename_i hhead
        exact .started rfl rfl rfl hloaded ((hdrives i d hdrive).on_turn hhead)
      · rename_i hhead
        refine h.frame (by simp) (by simp) (by simp) (by simp) (by simp) ?_
        intro d' hd'
        rw [hd, Option.some.injEq] at hd'
        exact ⟨_, hloaded, fun _ hon => absurd (hd' ▸ hon.headLoaded) hhead⟩

/-- One byte of a transfer that is not over with it. -/
theorem Sequenced.advance (h : c.Sequenced) (hphase : c.phase = .ready)
    (hnext : c.cursor + 1 ≠ sectorSize) :
    { c with cursor := c.cursor + 1 : Controller }.Sequenced where
  idle_iff := h.idle_iff
  cursor_lt := by
    have hlt := h.cursor_lt
    show c.cursor + 1 < sectorSize
    omega
  ready_of_cursor _ := hphase
  loaded_of_writing := h.loaded_of_writing
  on_of_ready := h.on_of_ready

theorem Sequenced.readData (h : c.Sequenced) : c.readData.2.Sequenced := by
  unfold Controller.readData
  split
  · rename_i harmed
    obtain ⟨hphase, d, hd, -⟩ :=
      armed_iff.mp (Bool.and_eq_true_iff.mp harmed).1
    dsimp only
    split
    · exact .finish (selected_of_loaded hd)
    · rename_i hnext
      exact h.advance hphase hnext
  · exact h

theorem Sequenced.writeData (h : c.Sequenced) (value : UInt8) :
    (c.writeData value).Sequenced := by
  unfold Controller.writeData
  split
  · rename_i harmed
    obtain ⟨hphase, d, hd, -⟩ :=
      armed_iff.mp (Bool.and_eq_true_iff.mp harmed).1
    dsimp only
    split
    · refine .finish ?_
      simpa [commitSector] using selected_of_loaded hd
    · rename_i hnext
      refine Sequenced.advance ?_ (by simpa using hphase) hnext
      refine h.frame (by simp) (by simp) (by simp) (by simp) (by simp) ?_
      intro d' hd'
      refine ⟨d'.write (c.sectorBase + c.cursor) value, ?_, fun _ hon => ?_⟩
      · rw [loaded?_modifySelected _ fun _ => Option.isSome_map, hd']
        rfl
      · exact ⟨hon.headLoaded, hon.base_eq, hon.fits⟩
  · exact h

/-- Another diskette, or none, in one of the drives. -/
theorem Sequenced.exchange (h : c.Sequenced) (i : Nat) (f : Drive → Drive) :
    ({ c with drives := c.drives.modify i f }.finishIfSelected i).Sequenced := by
  unfold finishIfSelected
  split
  · rename_i hi
    refine .finish ?_
    rw [hi]
    nofun
  · rename_i hi
    refine h.frame rfl rfl rfl rfl rfl fun d hd => ?_
    refine ⟨d, ?_, fun _ hon => hon⟩
    rw [← hd]
    refine loaded?_congr rfl fun j hj => ?_
    refine (c.drive?_modify i j f).trans (if_neg fun hij => ?_)
    exact hi (hij ▸ hj)

theorem Sequenced.mount (h : c.Sequenced) (i : Nat) (diskette : Diskette) :
    (c.act (.mount i diskette)).Sequenced := by
  simp only [act, Controller.mount]
  split
  · exact h.exchange i _
  · exact h

theorem Sequenced.eject (h : c.Sequenced) (i : Nat) :
    (c.act (.eject i)).Sequenced := by
  simp only [act, Controller.eject]
  split
  · exact h.exchange i _
  · exact h

/-! ## All of a controller -/

/-- A controller in order: one to sixteen drives, each of them in order,
and the fields that follow a transfer in order with them. -/
structure WellFormed (c : Controller) : Prop extends Sequenced c where
  drives_pos : 1 ≤ c.driveCount
  drives_le : c.driveCount ≤ 16
  selected_lt : ∀ i, c.selected = some i → i < c.driveCount
  drives : ∀ i d, c.drive? i = some d → d.WellFormed

theorem WellFormed.act (h : c.WellFormed) (a : Action) :
    (c.act a).WellFormed where
  toSequenced :=
    match a with
    | .select value => .select value
    | .status => h.toSequenced
    | .command value => h.toSequenced.command value
    | .querySector => h.toSequenced.querySector h.drives
    | .readData => h.toSequenced.readData
    | .writeData value => h.toSequenced.writeData value
    | .mount i diskette => h.toSequenced.mount i diskette
    | .eject i => h.toSequenced.eject i
    | .reset => .reset
  drives_pos := by
    rw [driveCount_act]
    exact h.drives_pos
  drives_le := by
    rw [driveCount_act]
    exact h.drives_le
  selected_lt := by
    rw [driveCount_act]
    exact selected_lt_act h.selected_lt a
  drives i d' hd' := by
    obtain ⟨d, hd, hchange⟩ := exists_change hd'
    exact (h.drives i d hd).change hchange

theorem driveCount_ofDrives (count : Nat) :
    (ofDrives count).driveCount = driveCountFor count :=
  Array.size_replicate

theorem drive?_ofDrives {count i : Nat}
    (hd : (ofDrives count).drive? i = some d) : d = {} := by
  simp only [drive?, ofDrives, Array.getElem?_replicate] at hd
  split at hd
  · exact (Option.some.inj hd).symm
  · cases hd

theorem WellFormed.ofDrives (count : Nat) : (ofDrives count).WellFormed where
  toSequenced := .settled ⟨fun _ => rfl, fun _ => rfl⟩ nofun rfl nofun
  drives_pos := by
    rw [driveCount_ofDrives, driveCountFor]
    omega
  drives_le := by
    rw [driveCount_ofDrives, driveCountFor]
    omega
  selected_lt := nofun
  drives i d hd := by
    rw [drive?_ofDrives hd]
    exact Drive.WellFormed.rewind (d := {})

/-- From its making on, whatever is done to a controller and in whatever
order, it has the drives it was made with and is in order. -/
theorem wellFormed_run (count : Nat) (actions : List Action) :
    ((ofDrives count).run actions).driveCount = driveCountFor count
      ∧ ((ofDrives count).run actions).WellFormed := by
  refine run_induction
    (P := fun c => c.driveCount = driveCountFor count ∧ c.WellFormed)
    ⟨driveCount_ofDrives count, .ofDrives count⟩ ?_ actions
  rintro c a ⟨hcount, h⟩
  exact ⟨(driveCount_act c a).trans hcount, h.act a⟩

end Controller

end Floppy

end S100
