import S100.Backplane
import S100.Proofs.Floppy.Confinement

/-!
# What the status byte tells

A program looks at the status before it moves a byte: a clear bit means
that the condition of that name holds. For each condition there is also
what the controller does, whatever it says. `TakesRead` and `TakesWrite`
are about that: the byte that is read, or written, is the next one of the
sector under way, and the next access goes on behind it.

The head, the first track and the byte to be read are told as they are
(`status_run`). The byte to be written is not: the bit follows the enabling
of writing, and writing can be enabled with no sector under way. Then the
bit is clear, the bytes that are written go nowhere, and the query that
would begin a sector disables writing again. Where writing is only ever
enabled for a sector under way, the bit is clear when a byte will be taken
and at no other time (`asserts_enterWrite_of_orderly`).
-/

namespace S100

namespace Floppy

namespace Controller

variable {c : Controller} {d : Drive} {a : Action} {i : Nat}

/-! ## Conditions told -/

/-- The status tells that a condition holds. -/
def Asserts (c : Controller) (bit : UInt8) : Prop :=
  c.status &&& bit = 0

instance (c : Controller) (bit : UInt8) : Decidable (c.Asserts bit) :=
  inferInstanceAs (Decidable (c.status &&& bit = 0))

/-- The status of a drive with a diskette. -/
def statusByte (first down writing interrupts : Bool) : UInt8 :=
  ~~~(Status.moveHead
    ||| (bif first then Status.trackZero else 0)
    ||| (bif down then Status.headLoaded ||| Status.newRead else 0)
    ||| (bif writing then Status.enterWrite else 0)
    ||| (bif interrupts then Status.interruptsEnabled else 0))

/-- The conditions do not share bits, and the head may always move. -/
theorem statusByte_bits : ∀ first down writing interrupts,
    statusByte first down writing interrupts ≠ Status.none
      ∧ (statusByte first down writing interrupts &&& Status.trackZero = 0
        ↔ first = true)
      ∧ (statusByte first down writing interrupts &&& Status.headLoaded = 0
        ↔ down = true)
      ∧ (statusByte first down writing interrupts &&& Status.newRead = 0
        ↔ down = true)
      ∧ (statusByte first down writing interrupts &&& Status.enterWrite = 0
        ↔ writing = true) := by
  decide

theorem loaded?_eq_none :
    c.loaded? = none ↔ ∀ i, c.selected = some i → c.diskette? i = none := by
  unfold loaded? diskette?
  cases c.selected with
  | none => simp
  | some i =>
      cases h : c.drive? i with
      | none => simp [h]
      | some d => cases hx : d.diskette <;> simp [h, hx]

theorem status_of_loaded (hc : c.WellFormed) (hd : c.loaded? = some d) :
    c.status =
      statusByte (d.track == 0) d.headLoaded c.writeEnabled
        c.interruptsEnabled := by
  have hactive : c.phase ≠ .idle := fun hidle =>
    selected_of_loaded hd (hc.idle_iff.mp hidle)
  simp only [status, if_neg hactive, hd]
  rfl

theorem status_eq_none (hc : c.WellFormed) :
    c.status = Status.none ↔
      ∀ i, c.selected = some i → c.diskette? i = none := by
  rw [← loaded?_eq_none]
  cases hd : c.loaded? with
  | none => simp [status, hd]
  | some d =>
      rw [status_of_loaded hc hd]
      simpa using (statusByte_bits _ _ _ _).1

/-- What the status of a loaded drive tells, in terms of what it is made
of. -/
theorem asserts_of_loaded (hc : c.WellFormed) (hd : c.loaded? = some d) :
    (c.Asserts Status.trackZero ↔ d.track = 0)
      ∧ (c.Asserts Status.headLoaded ↔ d.headLoaded = true)
      ∧ (c.Asserts Status.newRead ↔ d.headLoaded = true)
      ∧ (c.Asserts Status.enterWrite ↔ c.writeEnabled = true) := by
  obtain ⟨-, hfirst, hdown, hread, hwrite⟩ := statusByte_bits (d.track == 0)
    d.headLoaded c.writeEnabled c.interruptsEnabled
  rw [beq_iff_eq] at hfirst
  simp only [Asserts, status_of_loaded hc hd]
  exact ⟨hfirst, hdown, hread, hwrite⟩

/-! ## Bytes taken -/

/-- The next read gives the next byte of the sector under way, or 0 past
the end of the image, and goes on to the byte after it. -/
def TakesRead (c : Controller) : Prop :=
  ∃ x, c.loaded?.bind (·.diskette) = some x
    ∧ c.readData.1 = (x.read (c.sectorBase + c.cursor)).getD 0
    ∧ c.readData.2.cursor = (c.cursor + 1) % sectorSize

/-- The next byte written, whichever it is, is stored as the next byte of
the sector under way, and the controller goes on to the byte after it. -/
def TakesWrite (c : Controller) : Prop :=
  ∀ value, ∃ d, c.loaded? = some d
    ∧ (c.writeData value).loaded? = some (c.store value d)
    ∧ (c.writeData value).cursor = (c.cursor + 1) % sectorSize

theorem armed_iff_ready (hc : c.WellFormed) :
    c.armed = true ↔ c.phase = .ready := by
  refine ⟨fun h => (armed_iff.mp h).1, fun h => ?_⟩
  obtain ⟨d, hd, hon⟩ := hc.on_of_ready h
  exact armed_iff.mpr ⟨h, d, hd, hon.headLoaded⟩

/-- The cursor after a byte: at the end of the sector it goes back to its
beginning. -/
theorem next_cursor (h : c.cursor < sectorSize) :
    (c.cursor + 1) % sectorSize =
      if c.cursor + 1 = sectorSize then 0 else c.cursor + 1 := by
  split
  · rename_i hlast
    rw [hlast, Nat.mod_self]
  · rename_i hlast
    exact Nat.mod_eq_of_lt (by omega)

theorem next_cursor_ne (h : c.cursor < sectorSize) :
    c.cursor ≠ (c.cursor + 1) % sectorSize := by
  have hsize : 1 < sectorSize := by decide
  rw [next_cursor h]
  split <;> omega

theorem cursor_readData (h : (c.armed && !c.writeEnabled) = true) :
    c.readData.2.cursor =
      if c.cursor + 1 = sectorSize then 0 else c.cursor + 1 := by
  simp only [readData, h, if_true]
  split <;> rfl

theorem cursor_writeData (h : (c.armed && c.writeEnabled) = true)
    (value : UInt8) :
    (c.writeData value).cursor =
      if c.cursor + 1 = sectorSize then 0 else c.cursor + 1 := by
  simp only [writeData, h, if_true, cursor_modifySelected]
  split <;> rfl

theorem loaded?_writeData (h : (c.armed && c.writeEnabled) = true)
    (value : UInt8) :
    (c.writeData value).loaded? = c.loaded?.map (c.store value) := by
  have hsame : (c.writeData value).loaded? =
      (c.modifySelected (c.store value)).loaded? :=
    loaded?_congr (by simp) fun i _ => drive?_writeData h value i
  rw [hsame]
  refine loaded?_modifySelected _ fun d => ?_
  rw [diskette_store, Option.isSome_map]

theorem takesRead_iff (hc : c.WellFormed) :
    c.TakesRead ↔ (c.armed && !c.writeEnabled) = true := by
  constructor
  · rintro ⟨x, -, -, hmoved⟩
    by_contra hreads
    rw [readData, if_neg hreads] at hmoved
    exact next_cursor_ne hc.cursor_lt hmoved
  · intro hreads
    obtain ⟨harmed, -⟩ := Bool.and_eq_true_iff.mp hreads
    obtain ⟨-, d, hd, -⟩ := armed_iff.mp harmed
    obtain ⟨x, hx⟩ := Option.isSome_iff_exists.mp (diskette_of_loaded hd)
    refine ⟨x, by rw [hd, Option.bind_some, hx], ?_, ?_⟩
    · simp only [readData, hreads, if_true, hd, Option.bind_some, hx]
    · rw [cursor_readData hreads, next_cursor hc.cursor_lt]

theorem takesWrite_iff (hc : c.WellFormed) :
    c.TakesWrite ↔ (c.armed && c.writeEnabled) = true := by
  constructor
  · intro htakes
    by_contra hwrites
    obtain ⟨-, -, -, hmoved⟩ := htakes 0
    rw [writeData, if_neg hwrites] at hmoved
    exact next_cursor_ne hc.cursor_lt hmoved
  · intro hwrites value
    obtain ⟨harmed, -⟩ := Bool.and_eq_true_iff.mp hwrites
    obtain ⟨-, d, hd, -⟩ := armed_iff.mp harmed
    refine ⟨d, hd, ?_, ?_⟩
    · rw [loaded?_writeData hwrites, hd, Option.map_some]
    · rw [cursor_writeData hwrites, next_cursor hc.cursor_lt]

/-! ## The status after any run -/

/-- Whatever was done to a controller, its status changes nothing, and tells
whether there is a diskette to work on, whether the head is down on it, and
whether it is at the first track. A byte that will be read or written is
announced; a byte to be written is announced as well while writing is
enabled and no sector is under way. -/
theorem status_run (count : Nat) (actions : List Action) :
    let c := (ofDrives count).run actions
    (∀ console switches,
      Devices.input ⟨console, switches, c⟩ .diskSelectStatus =
        (c.status, ⟨console, switches, c⟩))
      ∧ (c.status = Status.none ↔
        ∀ i, c.selected = some i → c.diskette? i = none)
      ∧ ∀ i d, c.selected = some i → c.drive? i = some d →
        d.diskette.isSome = true →
        (c.Asserts Status.headLoaded ↔ d.headLoaded = true)
          ∧ (c.Asserts Status.trackZero ↔ d.track = 0)
          ∧ (c.TakesRead → c.Asserts Status.newRead)
          ∧ (c.Asserts Status.enterWrite ↔
            c.TakesWrite ∨ (c.writeEnabled = true ∧ c.phase ≠ .ready)) := by
  intro c
  have hc : c.WellFormed := (wellFormed_run count actions).2
  refine ⟨fun _ _ => rfl, status_eq_none hc, fun i d hi hdrive hdisk => ?_⟩
  have hd := loaded_of_drive hi hdrive hdisk
  obtain ⟨hfirst, hdown, hread, hwrite⟩ := asserts_of_loaded hc hd
  refine ⟨hdown, hfirst, fun htakes => hread.mpr ?_, ?_⟩
  · -- A sector is only under way while the head is down on it.
    obtain ⟨harmed, -⟩ := Bool.and_eq_true_iff.mp ((takesRead_iff hc).mp htakes)
    obtain ⟨-, d', hd', hhead⟩ := armed_iff.mp harmed
    cases hd.symm.trans hd'
    exact hhead
  · rw [hwrite, takesWrite_iff hc, Bool.and_eq_true, armed_iff_ready hc]
    by_cases hready : c.phase = .ready <;> simp [hready]

/-- Writing enabled on a drive just selected, before any sector has come by:
the next write is announced, and no byte written is taken. -/
theorem status_without_sector :
    let c := (ofDrives 1).run
      [.mount 0 { bytes := #[0xE5] }, .select 0,
        .command (Command.loadHead ||| Command.enableWriting)]
    c.selected = some 0 ∧ (c.diskette? 0).isSome = true
      ∧ c.Asserts Status.enterWrite
      ∧ (∀ value, c.writeData value = c) ∧ ¬ c.TakesWrite := by
  intro c
  have hc : c.WellFormed := (wellFormed_run 1 _).2
  have hdropped : (c.armed && c.writeEnabled) = false := by decide
  refine ⟨by decide, by decide, by decide, fun value => ?_, ?_⟩
  · rw [writeData, hdropped]
    rfl
  · rw [takesWrite_iff hc, hdropped]
    exact Bool.false_ne_true

/-! ## Writing enabled in order -/

/-- Writing is enabled for the sector under way. -/
def Orderly (c : Controller) (a : Action) : Prop :=
  a.enablesWriting = true → (c.act a).phase = .ready

/-- Writing is over when its sector is. -/
def Paired (c : Controller) : Prop :=
  c.writeEnabled = true → c.phase = .ready

theorem paired_of_disabled (h : c.writeEnabled = false) : c.Paired :=
  fun hwriting => nomatch h.symm.trans hwriting

theorem Paired.congr {c' : Controller} (h : c.Paired)
    (hwriting : c'.writeEnabled = c.writeEnabled)
    (hphase : c'.phase = c.phase) : c'.Paired := by
  rw [Paired, hwriting, hphase]
  exact h

theorem Paired.afterHead (h : c.Paired) (value : UInt8) (moved : Bool) :
    (c.afterHead value moved).Paired := by
  unfold Controller.afterHead
  split
  · exact paired_of_disabled rfl
  · split
    · -- No sector is under way yet, so writing is not enabled.
      rename_i hload
      have hselected : c.phase = .selected :=
        eq_of_beq (Bool.and_eq_true_iff.mp hload).2
      refine paired_of_disabled (Bool.eq_false_iff.mpr fun hwriting => ?_)
      cases hselected.symm.trans (h hwriting)
    · split
      · exact paired_of_disabled rfl
      · exact h

theorem Paired.command (h : c.Paired) (value : UInt8)
    (horder : Orderly c (.command value)) : (c.command value).Paired := by
  intro hwriting
  cases hd : c.loaded? with
  | none =>
      have hsame : c.command value = c := by
        simp only [Controller.command, hd]
      rw [hsame] at hwriting ⊢
      exact h hwriting
  | some d =>
      by_cases henables : Command.has value Command.enableWriting = true
      · exact horder henables
      · have hcommand := command_of_loaded hd value
        rw [if_neg henables] at hcommand
        rw [hcommand] at hwriting ⊢
        have hmoved : (c.moveHead value).Paired :=
          h.congr (writeEnabled_modifySelected c _) (phase_modifySelected c _)
        exact hmoved.afterHead value _ hwriting

theorem Paired.querySector (h : c.Paired) : c.querySector.2.Paired := by
  unfold Controller.querySector
  split
  · exact h
  · dsimp only
    split
    · exact paired_of_disabled rfl
    · exact h.congr (writeEnabled_modifySelected c _)
        (phase_modifySelected c _)

theorem Paired.readData (h : c.Paired) : c.readData.2.Paired := by
  unfold Controller.readData
  split
  · dsimp only
    split
    · exact paired_of_disabled rfl
    · exact h
  · exact h

theorem Paired.writeData (h : c.Paired) (value : UInt8) :
    (c.writeData value).Paired := by
  unfold Controller.writeData
  split
  · dsimp only
    split
    · exact paired_of_disabled rfl
    · exact h.congr (writeEnabled_modifySelected c _)
        (phase_modifySelected c _)
  · exact h

theorem Paired.exchange (h : c.Paired) {j : Nat} {f : Drive → Drive}
    (hact : c.act a = if j < c.driveCount then
        { c with drives := c.drives.modify j f }.finishIfSelected j
      else c) : (c.act a).Paired := by
  rw [hact, finishIfSelected]
  repeat' split
  · exact paired_of_disabled rfl
  · exact h
  · exact h

theorem Paired.act (h : c.Paired) (horder : Orderly c a) :
    (c.act a).Paired := by
  cases a with
  | select value =>
      refine paired_of_disabled ?_
      simp only [Controller.act, Controller.select]
      split <;> rfl
  | status => exact h
  | command value => exact h.command value horder
  | querySector => exact h.querySector
  | readData => exact h.readData
  | writeData value => exact h.writeData value
  | mount j x => exact h.exchange (act_mount j x)
  | eject j => exact h.exchange (act_eject j)
  | reset => exact paired_of_disabled rfl

theorem Paired.run {actions : List Action} (h : c.Paired)
    (horder : Throughout Orderly c actions) : (c.run actions).Paired := by
  induction actions generalizing c with
  | nil => exact h
  | cons a rest ih =>
      obtain ⟨hfirst, hrest⟩ := horder
      exact ih (h.act hfirst) hrest

/-- Where writing is only enabled for a sector under way, the status
announces a write when one will be taken, and at no other time. -/
theorem asserts_enterWrite_of_orderly {count : Nat} {actions : List Action}
    (horder : Throughout Orderly (ofDrives count) actions)
    (hdisk : (((ofDrives count).run actions).loaded?).isSome = true) :
    ((ofDrives count).run actions).Asserts Status.enterWrite ↔
      ((ofDrives count).run actions).TakesWrite := by
  have hc := (wellFormed_run count actions).2
  have hpaired : ((ofDrives count).run actions).Paired :=
    (paired_of_disabled rfl).run horder
  obtain ⟨d, hd⟩ := Option.isSome_iff_exists.mp hdisk
  obtain ⟨-, -, -, hwrite⟩ := asserts_of_loaded hc hd
  rw [hwrite, takesWrite_iff hc, Bool.and_eq_true, armed_iff_ready hc]
  exact ⟨fun hwriting => ⟨hpaired hwriting, hwriting⟩, fun h => h.2⟩

end Controller

end Floppy

end S100
