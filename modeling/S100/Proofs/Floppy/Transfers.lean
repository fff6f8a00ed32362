import Mathlib.Data.List.Induction
import S100.Proofs.Floppy.Procedures

/-!
# Writing a sector, and being cut short

Between enabling writing and the last byte of a sector a program may do
other things, and so may whoever handles the diskettes. Most of that does
no harm. What does, because the bytes that follow would go elsewhere or
nowhere, is said by `cuts`.

The two main statements are the two directions of this. As long as nothing
cuts it short, a sector fills up with the bytes that are written, whatever
else is done (`run_uncut`). And where a run has left a sector half
written, it can be traced back to where writing it began, with nothing in
between that cuts it short (`exists_begin`).
-/

namespace S100

namespace Floppy

/-- The bytes that are written in a run, in order. -/
def written (actions : List Action) : List UInt8 :=
  actions.filterMap fun
    | .writeData value => some value
    | _ => none

theorem written_append (first rest : List Action) :
    written (first ++ rest) = written first ++ written rest :=
  List.filterMap_append

namespace Controller

/-- Whether an action cuts short the sector that is being written:
selecting, asking for the next sector, resetting; a command that moves the
head, unloads it or enables writing once more; and another diskette, or
none, in the selected drive. -/
def cuts (c : Controller) : Action → Bool
  | .select _ | .querySector | .reset => true
  | .command value => c.loaded?.any fun d =>
      moves value d.track || Command.has value Command.unloadHead
        || Command.has value Command.enableWriting
  | .mount drive _ | .eject drive => c.selected == some drive
  | .status | .readData | .writeData _ => false

/-- No action of a run cuts the sector short. -/
def Uncut (c : Controller) : List Action → Prop
  | [] => True
  | a :: rest => c.cuts a = false ∧ (c.act a).Uncut rest

variable {c : Controller} {d : Drive} {x : Diskette} {a : Action}
  {base n i : Nat}

theorem uncut_concat {actions : List Action} :
    c.Uncut (actions ++ [a]) ↔
      c.Uncut actions ∧ (c.run actions).cuts a = false := by
  induction actions generalizing c with
  | nil => exact ⟨fun h => ⟨trivial, h.1⟩, fun h => ⟨h.2, trivial⟩⟩
  | cons b rest ih =>
      show c.cuts b = false ∧ (c.act b).Uncut (rest ++ [a]) ↔ _
      rw [ih, ← and_assoc]
      rfl

/-! ## Nothing cuts it short -/

/-- Drive `i` is selected, and its head is down on the diskette. -/
structure HeadDown (i : Nat) (x : Diskette) (c : Controller) : Prop where
  selected : c.selected = some i
  drive : ∃ d, c.drive? i = some d ∧ d.headLoaded = true
    ∧ d.diskette = some x

/-- Something done to another drive. -/
theorem UnderWay.exchange {writing : Bool} (h : UnderWay base n writing c)
    {j : Nat} (hj : c.selected ≠ some j) (f : Drive → Drive) :
    UnderWay base n writing
      ({ c with drives := c.drives.modify j f }.finishIfSelected j) := by
  unfold finishIfSelected
  rw [if_neg hj]
  exact ⟨h.phase, h.sectorBase, h.cursor, h.writeEnabled⟩

theorem act_uncut_mount {j : Nat} {y : Diskette}
    (h : UnderWay base n true c) (hdown : HeadDown i x c)
    (hcut : c.cuts (.mount j y) = false) :
    UnderWay base n true (c.act (.mount j y))
      ∧ HeadDown i x (c.act (.mount j y)) := by
  have hj : c.selected ≠ some j := by simpa [cuts] using hcut
  obtain ⟨hi, d, hd, hrest⟩ := hdown
  refine ⟨?_, by rwa [selected_mount], d, ?_, hrest⟩
  · simp only [act, mount]
    split
    · exact h.exchange hj _
    · exact h
  · rw [drive?_mount, if_neg, hd]
    rintro rfl
    exact hj hi

theorem act_uncut_eject {j : Nat} (h : UnderWay base n true c)
    (hdown : HeadDown i x c) (hcut : c.cuts (.eject j) = false) :
    UnderWay base n true (c.act (.eject j))
      ∧ HeadDown i x (c.act (.eject j)) := by
  have hj : c.selected ≠ some j := by simpa [cuts] using hcut
  obtain ⟨hi, d, hd, hrest⟩ := hdown
  refine ⟨?_, by rwa [selected_eject], d, ?_, hrest⟩
  · simp only [act, eject]
    split
    · exact h.exchange hj _
    · exact h
  · rw [drive?_eject, if_neg, hd]
    rintro rfl
    exact hj hi

theorem HeadDown.loaded (hdown : HeadDown i x c) :
    ∃ d, c.loaded? = some d ∧ c.drive? i = some d ∧ d.headLoaded = true
      ∧ d.diskette = some x := by
  obtain ⟨hi, d, hd, hhead, hdisk⟩ := hdown
  exact ⟨d, loaded_of_drive hi hd (by rw [hdisk]; rfl), hd, hhead, hdisk⟩

theorem HeadDown.facing (hdown : HeadDown i x c) :
    ∃ d, Facing c i d c ∧ d.headLoaded = true ∧ d.diskette = some x := by
  obtain ⟨hi, d, hd, hhead, hdisk⟩ := hdown
  exact ⟨d, ⟨hi, hd, fun _ _ => rfl⟩, hhead, hdisk⟩

theorem act_uncut_command {value : UInt8} (h : UnderWay base n true c)
    (hdown : HeadDown i x c) (hcut : c.cuts (.command value) = false) :
    UnderWay base n true (c.command value)
      ∧ HeadDown i x (c.command value) := by
  obtain ⟨d, hface, hhead, hdisk⟩ := hdown.facing
  have hloaded := hface.loaded (by rw [hdisk]; rfl)
  simp only [cuts, hloaded, Option.any_some, Bool.or_eq_false_iff] at hcut
  obtain ⟨⟨hmoves, hunload⟩, hwrite⟩ := hcut
  have hmoved := hface.command (by rw [hdisk]; rfl) value
  refine ⟨?_, hmoved.selected, _, hmoved.drive, ?_, hdisk⟩
  · rw [command_of_loaded hloaded]
    have hphase : (c.moveHead value).phase = .ready :=
      (phase_modifySelected c _).trans h.phase
    simp only [Controller.afterHead, hmoves, hunload, hwrite, hphase,
      Bool.false_eq_true, if_false]
    have hseek : (Command.has value Command.loadHead
        && Phase.ready == Phase.selected) = false := Bool.and_false _
    rw [if_neg (by rw [hseek]; exact Bool.false_ne_true)]
    exact ⟨hphase, (sectorBase_modifySelected c _).trans h.sectorBase,
      (cursor_modifySelected c _).trans h.cursor,
      (writeEnabled_modifySelected c _).trans h.writeEnabled⟩
  · simp [Drive.moveHead, hhead, hunload]

/-- An action that does not cut the sector short leaves it under way, and
what it writes goes where it belongs. -/
theorem act_uncut (h : UnderWay base n true c) (hdown : HeadDown i x c)
    (hcut : c.cuts a = false) (hn : n + (written [a]).length < sectorSize) :
    UnderWay base (n + (written [a]).length) true (c.act a)
      ∧ HeadDown i (x.fill (base + n) (written [a])) (c.act a) := by
  cases a with
  | select value => cases hcut
  | querySector => cases hcut
  | reset => cases hcut
  | status => exact ⟨h, hdown⟩
  | command value => exact act_uncut_command h hdown hcut
  | readData =>
      have hrest : c.readData.2 = c := by
        simp [readData, h.writeEnabled]
      rw [act, hrest]
      exact ⟨h, hdown⟩
  | writeData value =>
      obtain ⟨d, hface, hhead, hdisk⟩ := hdown.facing
      obtain ⟨hstored, hunder⟩ :=
        hface.writeData (by rw [hdisk]; rfl) hhead h value
      have hlast : n + 1 ≠ sectorSize := Nat.ne_of_lt hn
      rw [if_neg hlast] at hunder
      rw [store_of_underWay hdisk h] at hstored
      simp only [if_neg hlast] at hstored
      exact ⟨hunder, hstored.selected, _, hstored.drive, hhead, rfl⟩
  | mount j y => exact act_uncut_mount h hdown hcut
  | eject j => exact act_uncut_eject h hdown hcut

/-- As long as nothing cuts it short and it is not complete, a sector takes
what is written from where it stands. -/
theorem run_uncut {actions : List Action} (h : UnderWay base n true c)
    (hdown : HeadDown i x c) (huncut : c.Uncut actions)
    (hn : n + (written actions).length < sectorSize) :
    UnderWay base (n + (written actions).length) true (c.run actions)
      ∧ HeadDown i (x.fill (base + n) (written actions)) (c.run actions) := by
  induction actions generalizing c x n with
  | nil => exact ⟨h, hdown⟩
  | cons a rest ih =>
      have hsplit : written (a :: rest) = written [a] ++ written rest :=
        written_append [a] rest
      rw [hsplit, List.length_append] at hn
      obtain ⟨h', hdown'⟩ := act_uncut h hdown huncut.1 (by omega)
      obtain ⟨hunder, hfilled⟩ := ih h' hdown' huncut.2 (by omega)
      rw [hsplit, List.length_append, ← Nat.add_assoc, Diskette.fill_append,
        Nat.add_assoc base]
      exact ⟨hunder, hfilled⟩

/-! ## Back to where it began -/

/-- The controller is past the first byte of a sector that it writes. -/
structure Midway (c : Controller) : Prop where
  phase : c.phase = .ready
  writeEnabled : c.writeEnabled = true
  cursor_ne : c.cursor ≠ 0

/-- A sector that is half written after an action was being written before
it, and the action did not cut it short. -/
structure TakenOn (c : Controller) (a : Action) : Prop where
  phase : c.phase = .ready
  writeEnabled : c.writeEnabled = true
  uncut : c.cuts a = false
  sectorBase : (c.act a).sectorBase = c.sectorBase
  cursor : (c.act a).cursor = c.cursor + (written [a]).length

/-- A command after which a sector is under way has not touched it. -/
theorem afterHead_ready {value : UInt8} {moved : Bool}
    (h : (c.afterHead value moved).phase = .ready) :
    moved = false ∧ Command.has value Command.unloadHead = false
      ∧ c.afterHead value moved = c := by
  unfold afterHead at h ⊢
  split at h
  · cases h
  · rename_i hmoved
    rw [if_neg hmoved]
    split at h
    · cases h
    · rename_i hseek
      rw [if_neg hseek]
      split at h
      · cases h
      · rename_i hunload
        rw [if_neg hunload]
        exact ⟨Bool.eq_false_iff.mpr hmoved, Bool.eq_false_iff.mpr hunload,
          rfl⟩

/-- A command after which a sector is under way has been given with the
sector under way, and has left the head on it. -/
theorem command_ready {value : UInt8} (hc : c.WellFormed)
    (h : (c.command value).phase = .ready) :
    ∃ d, c.loaded? = some d ∧ moves value d.track = false
      ∧ Command.has value Command.unloadHead = false
      ∧ c.command value =
        if Command.has value Command.enableWriting then
          { c.moveHead value with cursor := 0, writeEnabled := true }
        else c.moveHead value := by
  cases hd : c.loaded? with
  | none =>
      simp only [command, hd] at h
      obtain ⟨d, hd', -⟩ := hc.on_of_ready h
      cases hd.symm.trans hd'
  | some d =>
      have hcommand := command_of_loaded hd value
      have hafter : ((c.moveHead value).afterHead value
          (moves value d.track)).phase = .ready := by
        rw [hcommand] at h
        dsimp only at h
        split at h <;> exact h
      obtain ⟨hmoves, hunload, hsame⟩ := afterHead_ready hafter
      rw [hsame] at hcommand
      exact ⟨d, rfl, hmoves, hunload, hcommand⟩

/-- A sector is under way after a query only where the head is down. -/
theorem headLoaded_of_querySector (hc : c.WellFormed)
    (h : c.querySector.2.phase = .ready) :
    ∃ d, c.loaded? = some d ∧ d.headLoaded = true := by
  cases hd : c.loaded? with
  | none =>
      simp only [querySector, hd] at h
      obtain ⟨d, hd', -⟩ := hc.on_of_ready h
      cases hd.symm.trans hd'
  | some d =>
      refine ⟨d, rfl, ?_⟩
      by_contra hup
      simp only [querySector, hd, if_neg hup] at h
      have hphase := (phase_modifySelected c _).symm.trans h
      obtain ⟨d', hd', hon⟩ := hc.on_of_ready hphase
      rw [hd, Option.some.injEq] at hd'
      exact hup (hd' ▸ hon.headLoaded)

theorem takenOn_command {value : UInt8} (hc : c.WellFormed)
    (h : (c.command value).Midway) : TakenOn c (.command value) := by
  obtain ⟨d, hd, hmoves, hunload, hcommand⟩ := command_ready hc h.phase
  rw [hcommand] at h
  by_cases hwrite : Command.has value Command.enableWriting = true
  · rw [if_pos hwrite] at h
    exact absurd rfl h.cursor_ne
  · rw [if_neg hwrite] at h hcommand
    have hcut : c.cuts (.command value) = false := by
      simp [cuts, hd, hmoves, hunload, hwrite]
    refine ⟨(phase_modifySelected c _).symm.trans h.phase,
      (writeEnabled_modifySelected c _).symm.trans h.writeEnabled, hcut,
      ?_, ?_⟩
    · rw [act, hcommand]
      exact sectorBase_modifySelected c _
    · rw [act, hcommand]
      exact cursor_modifySelected c _

theorem takenOn_querySector (hc : c.WellFormed)
    (h : c.querySector.2.Midway) : False := by
  obtain ⟨d, hd, hdown⟩ := headLoaded_of_querySector hc h.phase
  simp only [querySector, hd, hdown, if_true] at h
  exact h.cursor_ne rfl

theorem takenOn_writeData {value : UInt8} (hc : c.WellFormed)
    (h : (c.writeData value).Midway) : TakenOn c (.writeData value) := by
  by_cases hwrites : (c.armed && c.writeEnabled) = true
  · obtain ⟨harmed, hwriting⟩ := Bool.and_eq_true_iff.mp hwrites
    have hphase := (armed_iff.mp harmed).1
    have hwrite : c.writeData value =
        let stored := c.modifySelected (·.write (c.sectorBase + c.cursor) value)
        if c.cursor + 1 = sectorSize then stored.commitSector.finish
        else { stored with cursor := c.cursor + 1 } := by
      simp only [writeData, hwrites, if_true, cursor_modifySelected]
    by_cases hlast : c.cursor + 1 = sectorSize
    · rw [hwrite] at h
      simp only [if_pos hlast] at h
      exact absurd rfl h.cursor_ne
    · simp only [if_neg hlast] at hwrite
      refine ⟨hphase, hwriting, rfl, ?_, ?_⟩
      · rw [act, hwrite]
        exact sectorBase_modifySelected c _
      · rw [act, hwrite]
        rfl
  · have hsame : c.writeData value = c := by
      rw [writeData, if_neg hwrites]
    rw [hsame] at h
    obtain ⟨d, hd, hon⟩ := hc.on_of_ready h.phase
    have harmed := armed_iff.mpr ⟨h.phase, d, hd, hon.headLoaded⟩
    exact absurd (Bool.and_eq_true_iff.mpr ⟨harmed, h.writeEnabled⟩) hwrites

theorem takenOn_readData (h : c.readData.2.Midway) : TakenOn c .readData := by
  have hsame : c.readData.2 = c := by
    by_cases hreads : (c.armed && !c.writeEnabled) = true
    · have hwriting := (Bool.and_eq_true_iff.mp hreads).2
      have hw := h.writeEnabled
      simp only [readData, hreads, if_true] at hw
      split at hw
      · cases hw
      · rw [show c.writeEnabled = true from hw] at hwriting
        cases hwriting
    · rw [readData, if_neg hreads]
  rw [hsame] at h
  refine ⟨h.phase, h.writeEnabled, rfl, ?_, ?_⟩
  · rw [act, hsame]
  · rw [act, hsame]
    rfl

theorem act_mount (j : Nat) (y : Diskette) :
    c.act (.mount j y) =
      if j < c.driveCount then
        { c with drives := c.drives.modify j (·.insert y) }.finishIfSelected j
      else c := by
  simp only [act, mount]
  split <;> rfl

theorem act_eject (j : Nat) :
    c.act (.eject j) =
      if j < c.driveCount then
        { c with drives := c.drives.modify j (·.remove) }.finishIfSelected j
      else c := by
  simp only [act, eject]
  split <;> rfl

/-- A sector that is under way although another diskette, or none, was put
into a drive, is so in another drive. -/
theorem exchange_ready {j : Nat} {f : Drive → Drive} (hc : c.WellFormed)
    (hact : c.act a = if j < c.driveCount then
        { c with drives := c.drives.modify j f }.finishIfSelected j
      else c)
    (h : (c.act a).phase = .ready) :
    (c.selected == some j) = false
      ∧ ∃ drives, c.act a = { c with drives } := by
  by_cases hj : j < c.driveCount
  · rw [if_pos hj] at hact
    by_cases hselected : c.selected = some j
    · rw [hact, finishIfSelected, if_pos hselected] at h
      cases h
    · rw [finishIfSelected, if_neg hselected] at hact
      exact ⟨beq_eq_false_iff_ne.mpr hselected, _, hact⟩
  · rw [if_neg hj] at hact
    refine ⟨beq_eq_false_iff_ne.mpr fun hselected => ?_, c.drives, hact⟩
    exact hj (hc.selected_lt j hselected)

theorem takenOn_exchange {j : Nat} {f : Drive → Drive} (hc : c.WellFormed)
    (hact : c.act a = if j < c.driveCount then
        { c with drives := c.drives.modify j f }.finishIfSelected j
      else c)
    (hcuts : c.cuts a = (c.selected == some j)) (hwritten : written [a] = [])
    (h : (c.act a).Midway) : TakenOn c a := by
  obtain ⟨hcut, drives, hsame⟩ := exchange_ready hc hact h.phase
  rw [hsame] at h
  refine ⟨h.phase, h.writeEnabled, hcuts.trans hcut, ?_, ?_⟩
  · rw [hsame]
  · rw [hsame, hwritten]
    rfl

theorem Midway.takenOn (hc : c.WellFormed) (h : (c.act a).Midway) :
    TakenOn c a := by
  cases a with
  | select value =>
      refine absurd ?_ h.cursor_ne
      simp only [act, select]
      split <;> rfl
  | status => exact ⟨h.phase, h.writeEnabled, rfl, rfl, rfl⟩
  | command value => exact takenOn_command hc h
  | querySector => exact (takenOn_querySector hc h).elim
  | readData => exact takenOn_readData h
  | writeData value => exact takenOn_writeData hc h
  | mount j y => exact takenOn_exchange hc (act_mount j y) rfl rfl h
  | eject j => exact takenOn_exchange hc (act_eject j) rfl rfl h
  | reset => exact absurd rfl h.cursor_ne

/-- A sector that is being written after a run has been begun somewhere in
it, and has not been cut short since. -/
theorem exists_begin {start : Controller} (hstart : start.WellFormed)
    (hrest : start.writeEnabled = false) (actions : List Action)
    (hphase : (start.run actions).phase = .ready)
    (hwriting : (start.run actions).writeEnabled = true) :
    ∃ past recent, actions = past ++ recent
      ∧ UnderWay (start.run actions).sectorBase 0 true (start.run past)
      ∧ (start.run past).Uncut recent
      ∧ (written recent).length = (start.run actions).cursor := by
  induction actions using List.reverseRecOn with
  | nil => cases hrest.symm.trans hwriting
  | append_singleton actions a ih =>
      by_cases hcursor : (start.run (actions ++ [a])).cursor = 0
      · exact ⟨actions ++ [a], [], (List.append_nil _).symm,
          ⟨hphase, rfl, hcursor, hwriting⟩, trivial, hcursor.symm⟩
      · rw [run_concat] at hphase hwriting hcursor ⊢
        have hc : (start.run actions).WellFormed :=
          run_induction hstart (fun c a h => h.act a) actions
        have htaken := Midway.takenOn hc ⟨hphase, hwriting, hcursor⟩
        obtain ⟨past, recent, hsplit, hbegin, huncut, hlength⟩ :=
          ih htaken.phase htaken.writeEnabled
        refine ⟨past, recent ++ [a], ?_, ?_, uncut_concat.mpr ⟨huncut, ?_⟩, ?_⟩
        · rw [hsplit, List.append_assoc]
        · rw [htaken.sectorBase]
          exact hbegin
        · rw [← run_append, ← hsplit]
          exact htaken.uncut
        · rw [written_append, List.length_append, hlength, htaken.cursor]

end Controller

end Floppy

end S100
