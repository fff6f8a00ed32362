import S100.Proofs.Floppy.Selection
import S100.Proofs.Floppy.Status

/-!
# Traffic that a transfer does not mind

While a sector is under way, a program may ask for the status, load the head
once more or switch the interrupts, and diskettes may be put into other drives
and taken out of them. None of this touches the transfer. Between one access to
the data port and the next there may be any amount of it, and everything about
the transfer is as if there had been none (`transfer_undisturbed`): what each
access gives back, the drive as it leaves it, what is committed and noted, and
where the controller comes to stand.

`SameTransfer` says that two controllers agree in all that has to do with the
transfer. Traffic that is neutral leaves a controller in agreement with itself
(`sameTransfer_act`), and an access to the data port shows the same on two that
agree, and keeps them so (`SameTransfer.access`). A whole transfer follows by
induction on the accesses, two controllers going along (`SameTransfer.delayed`).
-/

namespace S100

namespace Floppy

namespace Controller

/-- What does not disturb the sector under way. A drive that is not there is
never the selected one. -/
def isNeutral (c : Controller) : Action → Bool
  | .status => true
  | .command value =>
    !Command.has value Command.stepIn && !Command.has value Command.stepOut
      && !Command.has value Command.unloadHead
      && !Command.has value Command.enableWriting
  | .mount drive _ | .eject drive => c.selected != some drive
  | .readData => c.writeEnabled
  | .writeData _ => !c.writeEnabled
  | .select _ | .querySector | .reset => false

/-- What moves a byte of the sector under way. -/
def movesByte (c : Controller) : Action → Bool
  | .readData => !c.writeEnabled
  | .writeData _ => c.writeEnabled
  | _ => false

theorem isNeutral_congr {c c' : Controller}
    (hselected : c'.selected = c.selected)
    (hwriting : c'.writeEnabled = c.writeEnabled) (a : Action) :
    c'.isNeutral a = c.isNeutral a := by
  cases a <;> simp only [isNeutral, hselected, hwriting]

theorem movesByte_congr {c c' : Controller}
    (hwriting : c'.writeEnabled = c.writeEnabled) (a : Action) :
    c'.movesByte a = c.movesByte a := by
  cases a <;> simp only [movesByte, hwriting]

end Controller

/-- An access to the data port, and the traffic before it. -/
structure Delayed where
  traffic : List Action := []
  access : Action

namespace Delayed

def actions (p : Delayed) : List Action :=
  p.traffic ++ [p.access]

/-- The access without the traffic. -/
def alone (p : Delayed) : Delayed :=
  { p with traffic := [] }

/-- The access moves a byte, and nothing before it disturbs that. -/
structure Undisturbed (c : Controller) (p : Delayed) : Prop where
  traffic : ∀ a ∈ p.traffic, c.isNeutral a = true
  access : c.movesByte p.access = true

theorem Undisturbed.congr {c c' : Controller} {p : Delayed}
    (h : p.Undisturbed c) (hselected : c'.selected = c.selected)
    (hwriting : c'.writeEnabled = c.writeEnabled) : p.Undisturbed c' where
  traffic a ha :=
    (Controller.isNeutral_congr hselected hwriting a).trans (h.traffic a ha)
  access := (Controller.movesByte_congr hwriting p.access).trans h.access

end Delayed

namespace Controller

variable {c c' : Controller} {a : Action}

/-- What is seen of accesses that come one after the other: the effect of each,
and the loaded drive as it leaves it. -/
def shown (c : Controller) : List Delayed → List (Effect × Option Drive)
  | [] => []
  | p :: rest =>
    let before := c.run p.traffic
    let after := before.act p.access
    (before.effect p.access, after.loaded?) :: after.shown rest

theorem shown_alone (c : Controller) (p : Delayed) (rest : List Delayed) :
    c.shown ((p :: rest).map (·.alone)) =
      (c.effect p.access, (c.act p.access).loaded?)
        :: (c.act p.access).shown (rest.map (·.alone)) := rfl

theorem run_delayed (c : Controller) (p : Delayed) (rest : List Delayed) :
    c.run ((p :: rest).flatMap (·.actions)) =
      ((c.run p.traffic).act p.access).run (rest.flatMap (·.actions)) := by
  rw [List.flatMap_cons, run_append, Delayed.actions, run_concat]

/-- The two controllers agree in the transfer, and in the drive that it goes
to. -/
structure SameTransfer (c c' : Controller) : Prop where
  selected : c'.selected = c.selected
  loaded? : c'.loaded? = c.loaded?
  phase : c'.phase = c.phase
  sectorBase : c'.sectorBase = c.sectorBase
  cursor : c'.cursor = c.cursor
  writeEnabled : c'.writeEnabled = c.writeEnabled
  journal : c'.journal = c.journal

namespace SameTransfer

theorem refl (c : Controller) : SameTransfer c c :=
  ⟨rfl, rfl, rfl, rfl, rfl, rfl, rfl⟩

theorem trans {c'' : Controller} (h : SameTransfer c c')
    (h' : SameTransfer c' c'') : SameTransfer c c'' where
  selected := h'.selected.trans h.selected
  loaded? := h'.loaded?.trans h.loaded?
  phase := h'.phase.trans h.phase
  sectorBase := h'.sectorBase.trans h.sectorBase
  cursor := h'.cursor.trans h.cursor
  writeEnabled := h'.writeEnabled.trans h.writeEnabled
  journal := h'.journal.trans h.journal

theorem armed (h : SameTransfer c c') : c'.armed = c.armed := by
  rw [Controller.armed, h.phase, h.loaded?]
  rfl

end SameTransfer

/-! ## Neutral traffic -/

theorem sameTransfer_command {value : UInt8} (hc : c.WellFormed)
    (hready : c.phase = .ready) (h : c.isNeutral (.command value) = true) :
    SameTransfer c (c.command value) := by
  obtain ⟨d, hd, hon⟩ := hc.on_of_ready hready
  simp only [isNeutral, Bool.and_eq_true, Bool.not_eq_true'] at h
  obtain ⟨⟨⟨hin, hout⟩, hunload⟩, hwrite⟩ := h
  have hmoves : moves value d.track = false := by
    simp [moves, hin, hout]
  have hdrive : d.moveHead value = d := by
    have hdown : ((d.headLoaded || Command.has value Command.loadHead)
        && !Command.has value Command.unloadHead) = d.headLoaded := by
      rw [hon.headLoaded, hunload]
      rfl
    rw [Drive.moveHead, stepTrack_of_not_moves hmoves, hdown]
  have hphase : (c.moveHead value).phase = .ready :=
    (phase_modifySelected c _).trans hready
  have hafter : (c.moveHead value).afterHead value false =
      c.moveHead value := by
    simp [afterHead, hphase, hunload]
  have hcommand : c.command value = c.moveHead value := by
    rw [command_of_loaded hd, hmoves, hafter]
    exact if_neg (Bool.eq_false_iff.mp hwrite)
  rw [hcommand]
  refine ⟨selected_modifySelected c _, ?_, phase_modifySelected c _,
    sectorBase_modifySelected c _, cursor_modifySelected c _,
    writeEnabled_modifySelected c _, journal_modifySelected c _⟩
  rw [loaded?_moveHead, hd, Option.map_some, hdrive]

/-- Another diskette, or none, in another drive. -/
theorem sameTransfer_exchange {j : Nat} {f : Drive → Drive}
    (hj : c.selected ≠ some j) :
    SameTransfer c
      ({ c with drives := c.drives.modify j f }.finishIfSelected j) := by
  have hsame : { c with drives := c.drives.modify j f }.finishIfSelected j =
      { c with drives := c.drives.modify j f } := if_neg hj
  rw [hsame]
  refine ⟨rfl, ?_, rfl, rfl, rfl, rfl, rfl⟩
  refine loaded?_congr rfl fun i hi => ?_
  refine (c.drive?_modify j i f).trans (if_neg ?_)
  rintro rfl
  exact hj hi

theorem sameTransfer_act (hc : c.WellFormed) (hready : c.phase = .ready)
    (h : c.isNeutral a = true) : SameTransfer c (c.act a) := by
  cases a with
  | status => exact .refl c
  | command value => exact sameTransfer_command hc hready h
  | mount j x =>
      rw [act_mount]
      split
      · exact sameTransfer_exchange (bne_iff_ne.mp h)
      · exact .refl c
  | eject j =>
      rw [act_eject]
      split
      · exact sameTransfer_exchange (bne_iff_ne.mp h)
      · exact .refl c
  | readData =>
      have hsame : c.readData.2 = c := by
        have hwriting : c.writeEnabled = true := h
        simp [readData, hwriting]
      rw [act, hsame]
      exact .refl c
  | writeData value =>
      have hsame : c.writeData value = c := by
        have hwriting : c.writeEnabled = false := by simpa [isNeutral] using h
        simp [writeData, hwriting]
      rw [act, hsame]
      exact .refl c
  | select value => cases h
  | querySector => cases h
  | reset => cases h

theorem sameTransfer_run {traffic : List Action} (hc : c.WellFormed)
    (hready : c.phase = .ready) (h : ∀ a ∈ traffic, c.isNeutral a = true) :
    SameTransfer c (c.run traffic) := by
  induction traffic generalizing c with
  | nil => exact .refl c
  | cons a rest ih =>
      have hact := sameTransfer_act hc hready (h a (List.mem_cons_self ..))
      refine hact.trans (ih (hc.act a) (hact.phase.trans hready) fun b hb => ?_)
      rw [isNeutral_congr hact.selected hact.writeEnabled]
      exact h b (List.mem_cons_of_mem a hb)

/-! ## Accesses to the data port -/

/-- What becomes of the controller does not depend on the byte that is
written. -/
theorem fields_writeData (h : (c.armed && c.writeEnabled) = true)
    (value : UInt8) :
    let last := c.cursor + 1 = sectorSize
    (c.writeData value).phase = (if last then .selected else c.phase)
      ∧ (c.writeData value).sectorBase = c.sectorBase
      ∧ (c.writeData value).writeEnabled =
        (if last then false else c.writeEnabled) := by
  simp only [writeData, h, if_true, cursor_modifySelected]
  split
  · simp [commitSector, finish, abort]
  · simp

namespace SameTransfer

theorem posted (h : SameTransfer c c') (a : Action) :
    c'.posted a = c.posted a := by
  cases a <;>
    simp only [Controller.posted, h.armed, h.writeEnabled, h.cursor, h.loaded?,
      h.sectorBase]

theorem store (h : SameTransfer c c') (value : UInt8) (d : Drive) :
    c'.store value d = c.store value d := by
  simp only [Controller.store, h.sectorBase, h.cursor]

theorem commits_writeData (h : SameTransfer c c') (value : UInt8) :
    c'.commits (.writeData value) = c.commits (.writeData value) := by
  funext i
  simp only [commits, act, record_writeData, List.drop_left, h.armed,
    h.writeEnabled, h.cursor, h.selected, h.sectorBase]

theorem readData (h : SameTransfer c c') :
    c'.readData.1 = c.readData.1
      ∧ SameTransfer c.readData.2 c'.readData.2 := by
  unfold Controller.readData
  rw [h.armed, h.writeEnabled, h.loaded?, h.sectorBase, h.cursor]
  split
  · refine ⟨rfl, ?_⟩
    dsimp only
    split
    · exact ⟨h.selected, h.loaded?, rfl, h.sectorBase, rfl, rfl, h.journal⟩
    · exact ⟨h.selected, h.loaded?, h.phase, rfl, rfl, rfl, h.journal⟩
  · exact ⟨rfl, h⟩

theorem writeData (h : SameTransfer c c') (value : UInt8) :
    SameTransfer (c.writeData value) (c'.writeData value) := by
  have hwriting : (c'.armed && c'.writeEnabled) =
      (c.armed && c.writeEnabled) := by
    rw [h.armed, h.writeEnabled]
  have hjournal : (c'.writeData value).journal =
      (c.writeData value).journal := by
    rw [journal_writeData, journal_writeData, h.journal, h.posted]
  have hselected : (c'.writeData value).selected =
      (c.writeData value).selected := by
    rw [selected_writeData, selected_writeData, h.selected]
  by_cases hwrites : (c.armed && c.writeEnabled) = true
  · have hwrites' := hwriting.trans hwrites
    have hloaded : (c'.writeData value).loaded? =
        (c.writeData value).loaded? := by
      rw [loaded?_writeData hwrites, loaded?_writeData hwrites', h.loaded?,
        funext (h.store value)]
    have hcursor : (c'.writeData value).cursor = (c.writeData value).cursor := by
      rw [cursor_writeData hwrites, cursor_writeData hwrites', h.cursor]
    obtain ⟨hphase, hbase, hwriting⟩ := fields_writeData hwrites value
    obtain ⟨hphase', hbase', hwriting'⟩ := fields_writeData hwrites' value
    refine ⟨hselected, hloaded, ?_, ?_, hcursor, ?_, hjournal⟩
    · rw [hphase, hphase', h.phase, h.cursor]
    · rw [hbase, hbase', h.sectorBase]
    · rw [hwriting, hwriting', h.writeEnabled, h.cursor]
  · rw [Controller.writeData, Controller.writeData, hwriting, if_neg hwrites,
      if_neg hwrites]
    exact h

theorem access (h : SameTransfer c c') (ha : c.movesByte a = true) :
    c'.effect a = c.effect a ∧ SameTransfer (c.act a) (c'.act a) := by
  cases a with
  | readData =>
      obtain ⟨hbyte, hread⟩ := h.readData
      refine ⟨?_, hread⟩
      have hnot (value : UInt8) : Action.readData ≠ .writeData value := nofun
      have hcommits : c'.commits .readData = c.commits .readData := by
        funext i
        rw [commits_of_not_write hnot, commits_of_not_write hnot]
      simp only [effect, answer, hbyte, hcommits, drop_journal_act, h.posted]
  | writeData value =>
      refine ⟨?_, h.writeData value⟩
      simp only [effect, answer, h.commits_writeData, drop_journal_act,
        h.posted]
  | _ => cases ha

end SameTransfer

/-- A byte that is moved is followed by the next, or is the last of the
sector. -/
theorem underWay_access (hc : c.WellFormed) (hready : c.phase = .ready)
    (ha : c.movesByte a = true) :
    (c.act a).selected = c.selected
      ∧ if c.cursor + 1 = sectorSize then (c.act a).phase = .selected
        else UnderWay c.sectorBase (c.cursor + 1) c.writeEnabled (c.act a) := by
  obtain ⟨i, x, hdown⟩ := exists_headDown hc hready
  obtain ⟨d, hface, hhead, hdisk⟩ := hdown.facing
  cases a with
  | readData =>
      have hreading : c.writeEnabled = false := by simpa [movesByte] using ha
      rw [hreading]
      exact ⟨selected_readData c,
        (hface.readData hdisk hhead ⟨hready, rfl, rfl, hreading⟩).2.2⟩
  | writeData value =>
      have hwriting : c.writeEnabled = true := ha
      rw [hwriting]
      exact ⟨selected_writeData c value,
        (hface.writeData (by rw [hdisk]; rfl) hhead
          ⟨hready, rfl, rfl, hwriting⟩ value).2⟩
  | _ => cases ha

/-- The accesses of a transfer with traffic between them, on one controller,
and without it, on another that agrees with it. -/
theorem SameTransfer.delayed {calls : List Delayed} (h : SameTransfer c' c)
    (hc : c.WellFormed) (hready : c.phase = .ready)
    (hcalls : ∀ p ∈ calls, p.Undisturbed c)
    (hroom : c.cursor + calls.length ≤ sectorSize) :
    c.shown calls = c'.shown (calls.map (·.alone))
      ∧ SameTransfer (c'.run (calls.map (·.access)))
        (c.run (calls.flatMap (·.actions)))
      ∧ (c.run (calls.flatMap (·.actions))).phase =
        (if c.cursor + calls.length = sectorSize then .selected
          else .ready) := by
  induction calls generalizing c c' with
  | nil =>
      refine ⟨rfl, h, hready.trans (if_neg ?_).symm⟩
      exact Nat.ne_of_lt hc.cursor_lt
  | cons p rest ih =>
      obtain ⟨htraffic, hmoves⟩ := hcalls p (List.mem_cons_self ..)
      have hwait := sameTransfer_run hc hready htraffic
      have hwf : (c.run p.traffic).WellFormed :=
        run_induction hc (fun _ a h => h.act a) p.traffic
      have hmoves' : c'.movesByte p.access = true :=
        (movesByte_congr h.writeEnabled _).symm.trans hmoves
      obtain ⟨heffect, haccess⟩ := (h.trans hwait).access hmoves'
      rw [← movesByte_congr hwait.writeEnabled] at hmoves
      obtain ⟨hselected, hnext⟩ :=
        underWay_access hwf (hwait.phase.trans hready) hmoves
      have hshown (hrest : ((c.run p.traffic).act p.access).shown rest =
          (c'.act p.access).shown (rest.map (·.alone))) :
          c.shown (p :: rest) = c'.shown ((p :: rest).map (·.alone)) := by
        rw [shown_alone, ← hrest, ← heffect, ← haccess.loaded?]
        rfl
      rw [List.length_cons] at hroom ⊢
      rw [run_delayed]
      rw [hwait.cursor] at hnext
      by_cases hlast : c.cursor + 1 = sectorSize
      · -- There is no room for another access.
        have hrest : rest = [] := List.length_eq_zero_iff.mp (by omega)
        subst hrest
        rw [if_pos hlast] at hnext
        exact ⟨hshown rfl, haccess, hnext.trans (if_pos hlast).symm⟩
      · rw [if_neg hlast] at hnext
        have hundisturbed (q : Delayed) (hq : q ∈ rest) :=
          (hcalls q (List.mem_cons_of_mem p hq)).congr
            (hselected.trans hwait.selected)
            (hnext.writeEnabled.trans hwait.writeEnabled)
        obtain ⟨hrest, hsame, hphase⟩ :=
          ih haccess (hwf.act p.access) hnext.phase hundisturbed (by
            rw [hnext.cursor]
            omega)
        refine ⟨hshown hrest, hsame, hphase.trans ?_⟩
        rw [hnext.cursor, Nat.add_assoc, Nat.add_comm 1]

/-- What is read is the image from where the transfer has got to, and 0 past
its end. -/
theorem answers_shown {base n i : Nat} {x : Diskette} {calls : List Delayed}
    (hunder : UnderWay base n false c) (hdown : HeadDown i x c)
    (hcalls : ∀ p ∈ calls, c.movesByte p.access = true)
    (hroom : n + calls.length ≤ sectorSize) :
    (c.shown (calls.map (·.alone))).map (·.1.answer) =
      (List.range calls.length).map fun k =>
        .byte ((x.read (base + n + k)).getD 0) := by
  induction calls generalizing c n with
  | nil => rfl
  | cons p rest ih =>
      obtain ⟨d, hface, hhead, hdisk⟩ := hdown.facing
      obtain ⟨hbyte, hface', hnext⟩ := hface.readData hdisk hhead hunder
      have hread : p.access = .readData := by
        have hp := hcalls p (List.mem_cons_self ..)
        cases haccess : p.access <;>
          simp [haccess, movesByte, hunder.writeEnabled] at hp ⊢
      rw [List.length_cons] at hroom ⊢
      have hfirst : (c.effect .readData).answer =
          .byte ((x.read (base + n)).getD 0) := congrArg Answer.byte hbyte
      have hrest : (c.readData.2.shown (rest.map (·.alone))).map (·.1.answer) =
          (List.range rest.length).map fun k =>
            .byte ((x.read (base + (n + 1) + k)).getD 0) := by
        by_cases hlast : n + 1 = sectorSize
        · have hnil : rest = [] := List.length_eq_zero_iff.mp (by omega)
          subst hnil
          rfl
        · rw [if_neg hlast] at hnext
          refine ih hnext ⟨hface'.selected, d, hface'.drive, hhead, hdisk⟩
            (fun q hq => ?_) (by omega)
          rw [← hcalls q (List.mem_cons_of_mem p hq)]
          refine movesByte_congr ?_ _
          rw [hnext.writeEnabled, hunder.writeEnabled]
      rw [shown_alone, hread, act, List.map_cons, hrest, hfirst,
        List.range_succ_eq_map, List.map_cons, List.map_map]
      congr 1
      refine List.map_congr_left fun k _ => ?_
      simp only [Function.comp_apply, Nat.succ_eq_add_one, Nat.add_assoc,
        Nat.add_comm 1]

/-- Between the accesses of a transfer there may be any traffic that is neutral.
The same is seen of each access as without it: what it gives back, what it
commits and notes, and the drive as it leaves it, with the same bytes stored at
the same places; and the transfer comes to the same. It is over after the last
byte of the sector, and not before. Reading gives the bytes of the image from
where the transfer has got to, and 0 past the end of it. -/
theorem transfer_undisturbed {count : Nat} {past : List Action}
    {calls : List Delayed}
    (hready : ((ofDrives count).run past).phase = .ready)
    (hcalls : ∀ p ∈ calls, p.Undisturbed ((ofDrives count).run past))
    (hroom : ((ofDrives count).run past).cursor + calls.length
      ≤ sectorSize) :
    let c := (ofDrives count).run past
    let disturbed := c.run (calls.flatMap (·.actions))
    c.shown calls = c.shown (calls.map (·.alone))
      ∧ SameTransfer (c.run (calls.map (·.access))) disturbed
      ∧ disturbed.phase =
        (if c.cursor + calls.length = sectorSize then .selected else .ready)
      ∧ (c.writeEnabled = false →
        ∃ x, c.loaded?.bind (·.diskette) = some x
          ∧ (c.shown calls).map (·.1.answer) =
            (List.range calls.length).map fun k =>
              .byte ((x.read (c.sectorBase + c.cursor + k)).getD 0)) := by
  intro c disturbed
  obtain ⟨-, hc⟩ := wellFormed_run count past
  obtain ⟨hshown, hsame, hphase⟩ :=
    (SameTransfer.refl c).delayed hc hready hcalls hroom
  refine ⟨hshown, hsame, hphase, fun hreading => ?_⟩
  obtain ⟨i, x, hdown⟩ := exists_headDown hc hready
  obtain ⟨d, hd, -, -, hdisk⟩ := hdown.loaded
  refine ⟨x, by rw [hd, Option.bind_some, hdisk], ?_⟩
  rw [hshown]
  exact answers_shown ⟨hready, rfl, rfl, hreading⟩ hdown
    (fun p hp => (hcalls p hp).access) hroom

/-- A diskette of two bytes, of which three are read while another is put into
the other drive and taken out. -/
theorem transfer_undisturbed_short :
    let x : Diskette := { bytes := #[0xE5, 0x1A] }
    let past : List Action :=
      [.mount 0 x, .select 0, .command Command.loadHead, .querySector]
    let calls : List Delayed :=
      [⟨[.status, .command Command.loadHead, .mount 1 x], .readData⟩,
        ⟨[.eject 1, .mount 7 x, .writeData 0xFF], .readData⟩,
        ⟨[.command Command.enableInterrupts], .readData⟩]
    let c := (ofDrives 2).run past
    let disturbed := c.run (calls.flatMap (·.actions))
    c.phase = .ready
      ∧ (∀ p ∈ calls, p.Undisturbed c)
      ∧ c.cursor + calls.length ≤ sectorSize
      ∧ c.shown calls = c.shown (calls.map (·.alone))
      ∧ SameTransfer (c.run (calls.map (·.access))) disturbed
      ∧ (c.shown calls).map (·.1.answer) = [.byte 0xE5, .byte 0x1A, .byte 0]
      ∧ disturbed.phase = .ready := by
  intro x past calls c disturbed
  have hready : c.phase = .ready := by decide
  have hcalls : ∀ p ∈ calls, p.Undisturbed c := by
    have hall : ∀ p ∈ calls, (∀ a ∈ p.traffic, c.isNeutral a = true)
        ∧ c.movesByte p.access = true := by
      decide
    exact fun p hp => ⟨(hall p hp).1, (hall p hp).2⟩
  have hroom : c.cursor + calls.length ≤ sectorSize := by decide
  obtain ⟨hshown, hsame, hphase, hread⟩ :=
    transfer_undisturbed hready hcalls hroom
  have hdisk : c.loaded?.bind (·.diskette) = some x := by decide
  obtain ⟨y, hy, hanswers⟩ := hread (by decide)
  obtain rfl : x = y := Option.some.inj (hdisk.symm.trans hy)
  refine ⟨hready, hcalls, hroom, hshown, hsame, ?_, hphase.trans (by decide)⟩
  rw [hanswers]
  decide

end Controller

end Floppy

end S100
