import S100.Proofs.Floppy.Commits
import S100.Proofs.Floppy.Confinement
import S100.Proofs.Floppy.Unseen

/-!
# What a selection forgets

Selecting a drive cuts short what was under way. What the controller had got
to before is then only left in the heads, the diskettes and the interrupts:
two controllers that agree in these cannot be told apart once a drive has been
selected on both (`select_forgets`), whatever else they had come to.

There are two reasons, and each has a relation. The place where the sector
before began stays behind, and is set anew before it is looked at: that is
`SameBut`. And what was committed to a diskette before is on its record, which
nothing looks at: that is `unrecorded`, a controller without its records.
What can be seen of an action is the same on that (`effect_unrecorded`), and
the action comes to the same there, records apart (`unrecorded_act`).
-/

namespace S100

/-- The diskette without the record of what was committed to it. -/
def Diskette.unrecorded (x : Diskette) : Diskette :=
  { x with committed := #[] }

theorem Diskette.unrecorded_write (x : Diskette) (offset : Nat)
    (value : UInt8) :
    (x.write offset value).unrecorded = x.unrecorded.write offset value := by
  cases h : x.writeProtected <;> simp [write, unrecorded, h]

namespace Floppy

def Drive.unrecorded (d : Drive) : Drive :=
  { d with diskette := d.diskette.map (·.unrecorded) }

theorem Drive.unrecorded_write (offset : Nat) (value : UInt8) (d : Drive) :
    (d.write offset value).unrecorded = d.unrecorded.write offset value := by
  simp only [write, unrecorded, Option.map_map,
    Function.comp_def, Diskette.unrecorded_write]

/-- What an action gives back. -/
inductive Answer where
  | done
  | byte (data : UInt8)
  /-- There is no such drive to put a diskette into. -/
  | refused
  | ejected (diskette : Option Diskette)
deriving DecidableEq

/-- All that can be seen of an action: what it gives back, which spans it
commits to the diskette in each drive, and what it notes for the host. -/
structure Effect where
  answer : Answer
  commits : Nat → List Span
  noted : List FileWrite

namespace Controller

/-- What an action gives back. A diskette comes out as it is then. -/
def answer (c : Controller) : Action → Answer
  | .status => .byte c.status
  | .querySector => .byte c.querySector.1
  | .readData => .byte c.readData.1
  | .mount drive diskette =>
    if (c.mount drive diskette).isSome then .done else .refused
  | .eject drive => .ejected ((c.eject drive).1.map (·.unrecorded))
  | _ => .done

/-- The spans on the record of the diskette in a drive. -/
def record (c : Controller) (drive : Nat) : List Span :=
  ((c.diskette? drive).map (·.committed.toList)).getD []

/-- The spans that an action adds to the record of the diskette in a drive. A
diskette that is put in brings its record with it. -/
def commits (c : Controller) (a : Action) (drive : Nat) : List Span :=
  match a with
  | .mount .. => []
  | a => ((c.act a).record drive).drop (c.record drive).length

def effect (c : Controller) (a : Action) : Effect where
  answer := c.answer a
  commits := c.commits a
  noted := (c.act a).journal.toList.drop c.journal.size

/-- What can be seen of actions, one after the other. -/
def effects (c : Controller) : List Action → List Effect
  | [] => []
  | a :: rest => c.effect a :: (c.act a).effects rest

/-- The same diskettes in the same drives, with the same bytes, protection and
files, the heads at the same places, and interrupts enabled on both or on
neither. The records of the diskettes, the selected drive and all that follows a
transfer may be different. -/
structure SameDrives (c c' : Controller) : Prop where
  drive? : ∀ i, (c'.drive? i).map (·.unrecorded) =
    (c.drive? i).map (·.unrecorded)
  interruptsEnabled : c'.interruptsEnabled = c.interruptsEnabled

variable {c c' : Controller} {i : Nat}

/-! ## Without the records -/

/-- The controller without the records of its diskettes, and with nothing
noted for the host. -/
def unrecorded (c : Controller) : Controller :=
  { c with drives := c.drives.map (·.unrecorded), journal := #[] }

@[simp] theorem drive?_unrecorded (c : Controller) (i : Nat) :
    c.unrecorded.drive? i = (c.drive? i).map (·.unrecorded) :=
  Array.getElem?_map

@[simp] theorem driveCount_unrecorded (c : Controller) :
    c.unrecorded.driveCount = c.driveCount :=
  Array.size_map

theorem diskette?_unrecorded (c : Controller) (i : Nat) :
    c.unrecorded.diskette? i = (c.diskette? i).map (·.unrecorded) := by
  rw [diskette?, diskette?, drive?_unrecorded]
  cases c.drive? i <;> rfl

theorem loaded?_unrecorded (c : Controller) :
    c.unrecorded.loaded? = c.loaded?.map (·.unrecorded) := by
  have hselected : c.unrecorded.selected = c.selected := rfl
  unfold loaded?
  rw [hselected]
  cases c.selected with
  | none => rfl
  | some i =>
      simp only [drive?_unrecorded]
      cases c.drive? i with
      | none => rfl
      | some d =>
          simp only [Option.map_some, Option.filter_some, Drive.unrecorded,
            Option.isSome_map]
          split <;> rfl

/-- The loaded diskette, without its record. -/
theorem loadedDiskette_unrecorded (c : Controller) :
    c.unrecorded.loaded?.bind (·.diskette) =
      (c.loaded?.bind (·.diskette)).map (·.unrecorded) := by
  rw [loaded?_unrecorded]
  cases c.loaded? <;> rfl

theorem armed_unrecorded (c : Controller) :
    c.unrecorded.armed = c.armed := by
  rw [armed, armed, loaded?_unrecorded]
  cases c.loaded? <;> rfl

theorem map_modify {u f g : Drive → Drive} (h : ∀ d, u (f d) = g (u d))
    (drives : Array Drive) (i : Nat) :
    (drives.modify i f).map u = (drives.map u).modify i g := by
  refine Array.ext_getElem? fun j => ?_
  rw [Array.getElem?_map, Array.getElem?_modify, Array.getElem?_modify,
    Array.getElem?_map]
  cases drives[j]? with
  | none => simp
  | some d => split <;> simp [h]

/-- What changes the selected drive changes it in the same way without its
record. -/
theorem unrecorded_modifySelected {f g : Drive → Drive}
    (h : ∀ d, (f d).unrecorded = g d.unrecorded) :
    (c.modifySelected f).unrecorded = c.unrecorded.modifySelected g := by
  obtain ⟨drives, selected, phase⟩ := c
  cases selected with
  | none => rfl
  | some i =>
      simp only [modifySelected, unrecorded]
      rw [map_modify h]

/-- A commit shows on the record only. -/
theorem unrecorded_commitSector (c : Controller) :
    c.commitSector.unrecorded = c.unrecorded := by
  have hcommit (span : Span) (d : Drive) :
      (d.commit span).unrecorded = d.unrecorded := by
    simp only [Drive.commit, Drive.unrecorded, Option.map_map]
    rfl
  obtain ⟨drives, selected, phase⟩ := c
  cases selected with
  | none => rfl
  | some i =>
      simp only [commitSector, modifySelected, unrecorded]
      congr 1
      refine Array.ext_getElem? fun j => ?_
      rw [Array.getElem?_map, Array.getElem?_modify, Array.getElem?_map]
      cases drives[j]? with
      | none => simp
      | some d => split <;> simp [hcommit]

/-! ## Operations on that -/

theorem unrecorded_select (value : UInt8) :
    (c.select value).unrecorded = c.unrecorded.select value := by
  unfold select
  rw [driveCount_unrecorded]
  dsimp only
  split <;> rfl

theorem unrecorded_moveHead (value : UInt8) :
    (c.moveHead value).unrecorded = c.unrecorded.moveHead value := by
  have hdrives := unrecorded_modifySelected (c := c)
    (f := (·.moveHead value)) (g := (·.moveHead value)) fun _ => rfl
  unfold moveHead
  rw [← hdrives]
  rfl

theorem unrecorded_afterHead (value : UInt8) (moved : Bool) :
    (c.afterHead value moved).unrecorded =
      c.unrecorded.afterHead value moved := by
  have hphase : c.unrecorded.phase = c.phase := rfl
  unfold afterHead
  rw [hphase]
  repeat' split
  all_goals rfl

theorem unrecorded_command (value : UInt8) :
    (c.command value).unrecorded = c.unrecorded.command value := by
  have hloaded := loaded?_unrecorded c
  cases hd : c.loaded? with
  | none =>
      rw [hd] at hloaded
      simp only [command, hd, hloaded]
      rfl
  | some d =>
      rw [hd] at hloaded
      rw [command_of_loaded hd, command_of_loaded hloaded,
        ← unrecorded_moveHead, show d.unrecorded.track = d.track from rfl,
        ← unrecorded_afterHead]
      dsimp only
      split <;> rfl

theorem unrecorded_querySector :
    c.unrecorded.querySector =
      (c.querySector.1, c.querySector.2.unrecorded) := by
  have hloaded := loaded?_unrecorded c
  cases hd : c.loaded? with
  | none =>
      rw [hd] at hloaded
      simp only [querySector, hd, hloaded]
      rfl
  | some d =>
      rw [hd] at hloaded
      have hturned := unrecorded_modifySelected (c := c)
        (f := (·.turn)) (g := (·.turn)) fun _ => rfl
      simp only [querySector, hd, hloaded, Option.map_some, ← hturned]
      refine congrArg (_, ·) ?_
      show (if d.headLoaded = true then _ else _) = _
      split <;> rfl

theorem unrecorded_readData :
    c.unrecorded.readData = (c.readData.1, c.readData.2.unrecorded) := by
  have hread (offset : Nat) :
      (c.unrecorded.loaded?.bind (·.diskette)).bind (·.read offset) =
        (c.loaded?.bind (·.diskette)).bind (·.read offset) := by
    rw [loadedDiskette_unrecorded]
    cases c.loaded?.bind (·.diskette) <;> rfl
  have hwriting : c.unrecorded.writeEnabled = c.writeEnabled := rfl
  unfold readData
  rw [armed_unrecorded, hwriting]
  split
  · dsimp only
    rw [hread]
    refine congrArg (_, ·) ?_
    show (if c.cursor + 1 = sectorSize then _ else _) = _
    split <;> rfl
  · rfl

theorem unrecorded_unrecorded (c : Controller) :
    c.unrecorded.unrecorded = c.unrecorded := by
  have hdrive (d : Drive) : d.unrecorded.unrecorded = d.unrecorded := by
    simp only [Drive.unrecorded, Option.map_map]
    rfl
  unfold unrecorded
  simp only [Array.map_map, Function.comp_def, hdrive]

/-- When a byte of the sector under way has been stored. -/
def countStored (c : Controller) : Controller :=
  if c.cursor + 1 = sectorSize then c.commitSector.finish
  else { c with cursor := c.cursor + 1 }

theorem writeData_of_writing (h : (c.armed && c.writeEnabled) = true)
    (value : UInt8) :
    c.writeData value =
      (c.modifySelected
        (·.write (c.sectorBase + c.cursor) value)).countStored := by
  rw [writeData, if_pos h]
  rfl

/-- A byte that completes a sector adds to the record, so that the two are
compared without it. -/
theorem unrecorded_countStored (c : Controller) :
    c.unrecorded.countStored.unrecorded = c.countStored.unrecorded := by
  have hcursor : c.unrecorded.cursor = c.cursor := rfl
  unfold countStored
  rw [hcursor]
  split
  · show c.unrecorded.commitSector.unrecorded.finish =
      c.commitSector.unrecorded.finish
    rw [unrecorded_commitSector, unrecorded_commitSector,
      unrecorded_unrecorded]
  · exact congrArg (fun c : Controller => { c with cursor := c.cursor + 1 })
      (unrecorded_unrecorded c)

theorem unrecorded_writeData (value : UInt8) :
    (c.unrecorded.writeData value).unrecorded =
      (c.writeData value).unrecorded := by
  have hwriting : (c.unrecorded.armed && c.unrecorded.writeEnabled) =
      (c.armed && c.writeEnabled) := by
    rw [armed_unrecorded]
    rfl
  by_cases h : (c.armed && c.writeEnabled) = true
  · rw [writeData_of_writing h, writeData_of_writing (hwriting.trans h),
      ← unrecorded_countStored (c.modifySelected _),
      unrecorded_modifySelected (Drive.unrecorded_write _ value)]
    rfl
  · rw [writeData, writeData, hwriting, if_neg h, if_neg h,
      unrecorded_unrecorded]

/-- Another diskette, or none, in one of the drives. -/
theorem unrecorded_exchange {f g : Drive → Drive}
    (h : ∀ d, (f d).unrecorded = g d.unrecorded) (i : Nat) :
    ({ c with drives := c.drives.modify i f }.finishIfSelected i).unrecorded =
      { c.unrecorded with
        drives := c.unrecorded.drives.modify i g }.finishIfSelected i := by
  have hdrives := map_modify h c.drives i
  unfold finishIfSelected
  show _ = if c.selected = some i then _ else _
  simp only [unrecorded, ← hdrives]
  split <;> rfl

theorem unrecorded_mount (i : Nat) (diskette : Diskette) :
    (c.act (.mount i diskette)).unrecorded =
      c.unrecorded.act (.mount i diskette.unrecorded) := by
  simp only [act, mount, driveCount_unrecorded]
  split
  · exact unrecorded_exchange (f := (·.insert diskette))
      (g := (·.insert diskette.unrecorded)) (fun _ => rfl) i
  · rfl

theorem unrecorded_eject (i : Nat) :
    (c.act (.eject i)).unrecorded = c.unrecorded.act (.eject i) := by
  simp only [act, eject, driveCount_unrecorded]
  split
  · exact unrecorded_exchange (f := (·.remove)) (g := (·.remove))
      (fun _ => rfl) i
  · rfl

theorem unrecorded_reset : c.reset.unrecorded = c.unrecorded.reset := by
  simp only [reset, abort, unrecorded, Array.map_map]
  rfl

/-- Without the records an action comes to the same, records apart. -/
theorem unrecorded_act (c : Controller) (a : Action) :
    (c.unrecorded.act a).unrecorded = (c.act a).unrecorded := by
  have hexact {c c' : Controller} (h : c.unrecorded = c') :
      c'.unrecorded = c.unrecorded := by
    rw [← h, unrecorded_unrecorded]
  cases a with
  | select value => exact hexact (unrecorded_select value)
  | status => exact unrecorded_unrecorded c
  | command value => exact hexact (unrecorded_command value)
  | querySector =>
      exact hexact (congrArg (·.2) unrecorded_querySector).symm
  | readData => exact hexact (congrArg (·.2) unrecorded_readData).symm
  | writeData value => exact unrecorded_writeData value
  | mount i diskette =>
      rw [unrecorded_mount, unrecorded_mount, unrecorded_unrecorded]
  | eject i => exact hexact (unrecorded_eject i)
  | reset => exact hexact unrecorded_reset

/-! ## What is seen of that -/

theorem status_unrecorded (c : Controller) :
    c.unrecorded.status = c.status := by
  have hphase : c.unrecorded.phase = c.phase := rfl
  unfold status
  rw [hphase, loaded?_unrecorded]
  cases c.loaded? <;> rfl

theorem answer_unrecorded (c : Controller) (a : Action) :
    c.unrecorded.answer a = c.answer a := by
  cases a with
  | status => exact congrArg Answer.byte (status_unrecorded c)
  | querySector =>
      exact congrArg (Answer.byte ·.1) unrecorded_querySector
  | readData => exact congrArg (Answer.byte ·.1) unrecorded_readData
  | mount i diskette =>
      simp only [answer, mount, driveCount_unrecorded]
      split <;> rfl
  | eject i =>
      simp only [answer, eject_fst, diskette?_unrecorded, Option.map_map]
      rfl
  | _ => rfl

theorem committed_write (x : Diskette) (offset : Nat) (value : UInt8) :
    (x.write offset value).committed = x.committed := by
  unfold Diskette.write
  split <;> rfl

/-- The byte that completes a sector puts it on the record. -/
theorem record_writeData (value : UInt8) (i : Nat) :
    (c.writeData value).record i = c.record i ++
      if (c.armed && c.writeEnabled) = true ∧ c.cursor + 1 = sectorSize
        ∧ c.selected = some i
      then [⟨c.sectorBase, c.sectorBase + sectorSize⟩] else [] := by
  by_cases h : (c.armed && c.writeEnabled) = true
  · unfold record diskette?
    rw [drive?_writeData h, drive?_modifySelected]
    by_cases hi : c.selected = some i
    · obtain ⟨-, d, hd, -⟩ := armed_iff.mp (Bool.and_eq_true_iff.mp h).1
      obtain ⟨x, hx⟩ := Option.isSome_iff_exists.mp (diskette_of_loaded hd)
      rw [if_pos hi, drive_of_loaded hd hi]
      simp only [Option.map_some, Option.bind_some, diskette_store, hx,
        Option.getD_some]
      by_cases hlast : c.cursor + 1 = sectorSize
      · rw [if_pos hlast, if_pos ⟨h, hlast, hi⟩]
        simp only [Diskette.commit, committed_write, Array.toList_push]
      · rw [if_neg hlast, if_neg fun hall => hlast hall.2.1]
        simp only [committed_write, List.append_nil]
    · rw [if_neg hi, if_neg fun hall => hi hall.2.2, List.append_nil]
  · rw [writeData, if_neg h, if_neg fun hall => h hall.1, List.append_nil]

/-- Nothing else does. -/
theorem commits_of_not_write {a : Action}
    (ha : ∀ value, a ≠ .writeData value) (i : Nat) : c.commits a i = [] := by
  have hact := diskette?_act (c := c) ha i
  cases a with
  | writeData value => exact absurd rfl (ha value)
  | mount j x => rfl
  | eject j =>
      simp only [commits, record, hact, exchanged]
      split
      · exact List.drop_nil
      · exact List.drop_length
  | _ =>
      simp only [commits, record, hact, exchanged]
      exact List.drop_length

theorem commits_unrecorded (c : Controller) (a : Action) :
    c.unrecorded.commits a = c.commits a := by
  funext i
  by_cases ha : ∀ value, a ≠ .writeData value
  · rw [commits_of_not_write ha, commits_of_not_write ha]
  · obtain ⟨value, hvalue⟩ := not_forall.mp ha
    obtain rfl := Classical.not_not.mp hvalue
    simp only [commits, act, record_writeData, List.drop_left,
      armed_unrecorded]
    rfl

/-- What is noted for the host is not on the record. -/
theorem posted_unrecorded (c : Controller) (a : Action) :
    c.unrecorded.posted a = c.posted a := by
  cases a with
  | writeData value =>
      have hwriting : (c.unrecorded.armed && c.unrecorded.writeEnabled
          && c.unrecorded.cursor + 1 == sectorSize) =
          (c.armed && c.writeEnabled && c.cursor + 1 == sectorSize) := by
        rw [armed_unrecorded]
        rfl
      have hwrite (x : Diskette) (offset : Nat) (span : Span) :
          (x.unrecorded.write offset value).fileWrite? span =
            (x.write offset value).fileWrite? span := by
        rw [← Diskette.unrecorded_write]
        rfl
      simp only [posted, hwriting, loadedDiskette_unrecorded]
      split
      · cases c.loaded?.bind (·.diskette) with
        | none => rfl
        | some x => exact hwrite x _ _
      · rfl
  | _ => rfl

theorem drop_journal_act (c : Controller) (a : Action) :
    (c.act a).journal.toList.drop c.journal.size = (c.posted a).toList := by
  rw [journal_act, Array.toList_append, ← Array.length_toList,
    List.drop_left]
  cases c.posted a <;> rfl

/-- What is seen of an action is not on the record. -/
theorem effect_unrecorded (c : Controller) (a : Action) :
    c.unrecorded.effect a = c.effect a := by
  simp only [effect, answer_unrecorded, commits_unrecorded, drop_journal_act,
    posted_unrecorded]

/-! ## What is seen of controllers that are the same but for the rest -/

theorem SameBut.answer {first second : Array FileWrite}
    (h : SameBut first second c c') (a : Action) :
    c'.answer a = c.answer a := by
  cases a with
  | status => exact congrArg Answer.byte h.status
  | querySector => exact congrArg Answer.byte h.querySector.1
  | readData => exact congrArg Answer.byte h.readData.1
  | mount i diskette =>
      simp only [Controller.answer, Controller.mount, h.driveCount]
      split <;> rfl
  | eject i =>
      exact congrArg (fun x => Answer.ejected (x.map (·.unrecorded)))
        (h.eject i).1
  | _ => rfl

theorem SameBut.record {first second : Array FileWrite}
    (h : SameBut first second c c') (i : Nat) : c'.record i = c.record i := by
  rw [Controller.record, Controller.record, h.diskette?]

theorem SameBut.effect (h : SameBut #[] #[] c c') (a : Action) :
    c'.effect a = c.effect a := by
  have hjournal {c c' : Controller} (h : SameBut #[] #[] c c') :
      c'.journal = c.journal := by
    obtain ⟨noted, hfirst, hsecond⟩ := h.journal
    rw [hfirst, hsecond]
  have hcommits : c'.commits a = c.commits a := by
    funext i
    cases a <;> simp only [commits, h.record, (h.act _).record]
  simp only [Controller.effect, h.answer, hcommits, hjournal h,
    hjournal (h.act a)]

/-! ## Two controllers -/

/-- What has been selected on both is the same, but for the records and for the
place where the sector before began. -/
theorem SameDrives.select (h : SameDrives c c') (value : UInt8) :
    SameBut #[] #[] (c.select value).unrecorded
      (c'.select value).unrecorded := by
  have hdrives : c'.unrecorded.drives = c.unrecorded.drives :=
    Array.ext_getElem? fun i => by
      show c'.unrecorded.drive? i = c.unrecorded.drive? i
      rw [drive?_unrecorded, drive?_unrecorded, h.drive?]
  have hcount : c'.driveCount = c.driveCount := by
    rw [← driveCount_unrecorded, ← driveCount_unrecorded c]
    exact congrArg Array.size hdrives
  rw [unrecorded_select, unrecorded_select]
  unfold Controller.select
  rw [driveCount_unrecorded, driveCount_unrecorded, hcount]
  dsimp only
  split
  · exact ⟨hdrives, rfl, rfl, nofun, rfl, rfl, h.interruptsEnabled, #[], rfl,
      rfl⟩
  · exact ⟨hdrives, rfl, rfl, nofun, rfl, rfl, h.interruptsEnabled, #[], rfl,
      rfl⟩

theorem SameBut.act_unrecorded
    (h : SameBut #[] #[] c.unrecorded c'.unrecorded) (a : Action) :
    SameBut #[] #[] (c.act a).unrecorded (c'.act a).unrecorded := by
  have hact := h.act a
  rw [← unrecorded_act c, ← unrecorded_act c']
  refine ⟨?_, hact.selected, hact.phase, hact.sectorBase, hact.cursor,
    hact.writeEnabled, hact.interruptsEnabled, #[], rfl, rfl⟩
  exact congrArg (·.map (·.unrecorded)) hact.drives

theorem SameBut.run_unrecorded
    (h : SameBut #[] #[] c.unrecorded c'.unrecorded)
    (actions : List Action) :
    c'.effects actions = c.effects actions
      ∧ SameBut #[] #[] (c.run actions).unrecorded
        (c'.run actions).unrecorded := by
  induction actions generalizing c c' with
  | nil => exact ⟨rfl, h⟩
  | cons a rest ih =>
      obtain ⟨heffects, hrun⟩ := ih (h.act_unrecorded a)
      have heffect := h.effect a
      rw [effect_unrecorded, effect_unrecorded] at heffect
      exact ⟨by rw [effects, effects, heffect, heffects], hrun⟩

theorem SameBut.sameDrives
    (h : SameBut #[] #[] c.unrecorded c'.unrecorded) : SameDrives c c' where
  drive? i := by
    have hdrive := h.drive? i
    rwa [drive?_unrecorded, drive?_unrecorded] at hdrive
  interruptsEnabled := h.interruptsEnabled

/-- Whatever two controllers have come to: when they agree in their drives and
in the interrupts, and the same is selected on both, nothing that is done to
them later tells them apart. Each action gives the same back, commits the same
spans and notes the same writes for the host, and they agree in the same again,
and in what is selected and under way. -/
theorem select_forgets (h : SameDrives c c') (value : UInt8)
    (later : List Action) :
    (c'.select value).effects later = (c.select value).effects later
      ∧ SameDrives ((c.select value).run later) ((c'.select value).run later)
      ∧ ((c'.select value).run later).selected =
          ((c.select value).run later).selected
      ∧ ((c'.select value).run later).phase =
          ((c.select value).run later).phase := by
  obtain ⟨heffects, hrun⟩ := (h.select value).run_unrecorded later
  exact ⟨heffects, hrun.sameDrives, hrun.selected, hrun.phase⟩

/-- One has read a byte of the first sector of the first track, the other has
been to the second track and has no drive selected. -/
theorem select_forgets_second_track :
    let loaded : List Action :=
      [.mount 0 { bytes := #[0xE5, 0x1A] }, .select 0,
        .command Command.loadHead]
    let c := (ofDrives 2).run (loaded ++ [.querySector, .readData])
    let c' := (ofDrives 2).run (loaded ++
      [.command Command.stepIn, .querySector, .command Command.stepOut,
        .select 0x80])
    let later : List Action := [.status, .querySector, .readData]
    SameDrives c c'
      ∧ (c.selected, c.sectorBase, c.cursor) = (some 0, 0, 1)
      ∧ (c'.selected, c'.sectorBase, c'.cursor) = (none, 4384, 0)
      ∧ (c'.select 0).effects later = (c.select 0).effects later
      ∧ SameDrives ((c.select 0).run later) ((c'.select 0).run later)
      ∧ ((c'.select 0).run later).selected = ((c.select 0).run later).selected
      ∧ ((c'.select 0).run later).phase = ((c.select 0).run later).phase := by
  intro loaded c c' later
  have hdrives : c'.drives = c.drives := by decide +kernel
  have hsame : SameDrives c c' :=
    ⟨fun i => by rw [drive?, drive?, hdrives], rfl⟩
  exact ⟨hsame, rfl, rfl, select_forgets hsame 0 later⟩

end Controller

end Floppy

end S100
