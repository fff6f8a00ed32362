import S100.Floppy.Controller

/-!
# What can be done to a floppy controller

A controller is used through its ports and by hand: an `Action` is one
access to a port, or one diskette put in or taken out, or a reset. A `run`
is any number of them in any order.

The lemmas here say what each operation makes of the drives, so that no
proof further on has to look into an array: `drive?` gives every drive
after an operation in terms of the drives before it, and `loaded?` the
selected one. Most operations leave all drives but one alone; what they do
to that one is a function on `Drive`.

Diskettes only come in by being put in. Whatever holds of all that are put
in, and is kept by writing and committing, holds of all that are in the
drives at any time (`diskettes_run`).
-/

namespace S100

namespace Floppy

/-- An access to a port, or something done by hand. -/
inductive Action where
  | select (value : UInt8)
  | status
  | command (value : UInt8)
  | querySector
  | readData
  | writeData (value : UInt8)
  | mount (drive : Nat) (diskette : Diskette)
  | eject (drive : Nat)
  | reset
deriving DecidableEq, Repr

namespace Controller

/-- The controller after an action. Putting a diskette into a drive that is
not there does nothing. -/
def act (c : Controller) : Action → Controller
  | .select value => c.select value
  | .status => c
  | .command value => c.command value
  | .querySector => c.querySector.2
  | .readData => c.readData.2
  | .writeData value => c.writeData value
  | .mount drive diskette => (c.mount drive diskette).getD c
  | .eject drive => (c.eject drive).2
  | .reset => c.reset

def run (c : Controller) (actions : List Action) : Controller :=
  actions.foldl act c

@[simp] theorem run_nil (c : Controller) : c.run [] = c := rfl

theorem run_append (c : Controller) (first rest : List Action) :
    c.run (first ++ rest) = (c.run first).run rest :=
  List.foldl_append

theorem run_concat (c : Controller) (actions : List Action) (a : Action) :
    c.run (actions ++ [a]) = (c.run actions).act a :=
  c.run_append actions [a]

/-- What holds at the start and is kept by every action holds after every
run. -/
theorem run_induction {P : Controller → Prop} {c : Controller}
    (hstart : P c) (hact : ∀ c a, P c → P (c.act a))
    (actions : List Action) : P (c.run actions) := by
  induction actions generalizing c with
  | nil => exact hstart
  | cons a rest ih => exact ih (hact c a hstart)

variable {c : Controller} {d : Drive} {i : Nat}

/-! ## Changing one drive -/

theorem drive?_modify (c : Controller) (i j : Nat) (f : Drive → Drive) :
    (c.drives.modify i f)[j]? =
      if i = j then (c.drive? j).map f else c.drive? j :=
  Array.getElem?_modify

theorem drive?_eq_none_iff : c.drive? i = none ↔ c.driveCount ≤ i :=
  Array.getElem?_eq_none_iff

theorem drive?_eq_none (h : ¬ i < c.driveCount) : c.drive? i = none :=
  drive?_eq_none_iff.mpr (Nat.le_of_not_lt h)

theorem drive?_isSome : (c.drive? i).isSome = true ↔ i < c.driveCount := by
  simp [drive?, driveCount]

theorem lt_of_drive? (hd : c.drive? i = some d) : i < c.driveCount := by
  rw [← drive?_isSome, hd]
  rfl

theorem exists_drive? (h : i < c.driveCount) : ∃ d, c.drive? i = some d :=
  Option.isSome_iff_exists.mp (drive?_isSome.mpr h)

theorem diskette?_eq_some {x : Diskette} :
    c.diskette? i = some x ↔
      ∃ d, c.drive? i = some d ∧ d.diskette = some x :=
  Option.bind_eq_some_iff

section ModifySelected

variable (c) (f : Drive → Drive)

theorem drive?_modifySelected (j : Nat) :
    (c.modifySelected f).drive? j =
      if c.selected = some j then (c.drive? j).map f else c.drive? j := by
  unfold modifySelected
  cases c.selected with
  | none => rfl
  | some i =>
      simp only [Option.some.injEq]
      exact c.drive?_modify i j f

@[simp] theorem driveCount_modifySelected :
    (c.modifySelected f).driveCount = c.driveCount := by
  unfold modifySelected driveCount
  cases c.selected with
  | none => rfl
  | some i => exact Array.size_modify

@[simp] theorem selected_modifySelected :
    (c.modifySelected f).selected = c.selected := by
  unfold modifySelected
  split <;> rfl

@[simp] theorem phase_modifySelected :
    (c.modifySelected f).phase = c.phase := by
  unfold modifySelected
  split <;> rfl

@[simp] theorem sectorBase_modifySelected :
    (c.modifySelected f).sectorBase = c.sectorBase := by
  unfold modifySelected
  split <;> rfl

@[simp] theorem cursor_modifySelected :
    (c.modifySelected f).cursor = c.cursor := by
  unfold modifySelected
  split <;> rfl

@[simp] theorem writeEnabled_modifySelected :
    (c.modifySelected f).writeEnabled = c.writeEnabled := by
  unfold modifySelected
  split <;> rfl

@[simp] theorem journal_modifySelected :
    (c.modifySelected f).journal = c.journal := by
  unfold modifySelected
  split <;> rfl

end ModifySelected

/-! ## The loaded drive -/

theorem loaded?_eq_some :
    c.loaded? = some d ↔
      ∃ i, c.selected = some i ∧ c.drive? i = some d
        ∧ d.diskette.isSome = true := by
  unfold loaded?
  cases c.selected with
  | none => simp
  | some i => simp [Option.filter_eq_some_iff]

/-- The loaded drive is one of the drives, and has a diskette. -/
theorem diskette_of_loaded (h : c.loaded? = some d) :
    d.diskette.isSome = true := by
  obtain ⟨-, -, -, hd⟩ := loaded?_eq_some.mp h
  exact hd

theorem drive_of_loaded (h : c.loaded? = some d) (hi : c.selected = some i) :
    c.drive? i = some d := by
  obtain ⟨j, hj, hd, -⟩ := loaded?_eq_some.mp h
  rw [hi, Option.some.injEq] at hj
  exact hj ▸ hd

theorem loaded_of_drive (hi : c.selected = some i)
    (hd : c.drive? i = some d) (hdisk : d.diskette.isSome = true) :
    c.loaded? = some d :=
  loaded?_eq_some.mpr ⟨i, hi, hd, hdisk⟩

theorem loaded?_congr {c' : Controller} (hs : c'.selected = c.selected)
    (hd : ∀ i, c.selected = some i → c'.drive? i = c.drive? i) :
    c'.loaded? = c.loaded? := by
  unfold loaded?
  rw [hs]
  cases h : c.selected with
  | none => rfl
  | some i =>
      show Option.filter _ _ = Option.filter _ _
      rw [hd i h]

/-- Nothing that is done to the selected drive other than taking its
diskette makes it less loaded. -/
theorem loaded?_modifySelected (f : Drive → Drive)
    (hf : ∀ d, (f d).diskette.isSome = d.diskette.isSome) :
    (c.modifySelected f).loaded? = c.loaded?.map f := by
  unfold loaded?
  rw [selected_modifySelected]
  cases h : c.selected with
  | none => rfl
  | some i =>
      simp only [drive?_modifySelected, h, if_true]
      cases c.drive? i with
      | none => rfl
      | some d =>
          simp only [Option.map_some, Option.filter_some, hf]
          split <;> rfl

theorem armed_iff :
    c.armed = true ↔
      c.phase = .ready ∧ ∃ d, c.loaded? = some d ∧ d.headLoaded = true := by
  simp [armed, Option.any_eq_true]

/-! ## Which drive is selected -/

section Selected

variable (c)

@[simp] theorem selected_command (value : UInt8) :
    (c.command value).selected = c.selected := by
  simp only [command, afterHead, finish, abort]
  repeat' split
  all_goals first | rfl | exact selected_modifySelected ..

@[simp] theorem selected_querySector :
    c.querySector.2.selected = c.selected := by
  simp only [querySector, abort]
  repeat' split
  all_goals first | rfl | exact selected_modifySelected ..

@[simp] theorem selected_readData : c.readData.2.selected = c.selected := by
  simp only [readData, finish, abort]
  repeat' split
  all_goals rfl

@[simp] theorem selected_writeData (value : UInt8) :
    (c.writeData value).selected = c.selected := by
  simp only [writeData, finish, abort, commitSector]
  repeat' split
  all_goals simp

@[simp] theorem selected_mount (i : Nat) (diskette : Diskette) :
    (c.act (.mount i diskette)).selected = c.selected := by
  simp only [act, mount, finishIfSelected, finish, abort]
  repeat' split
  all_goals rfl

@[simp] theorem selected_eject (i : Nat) :
    (c.act (.eject i)).selected = c.selected := by
  simp only [act, eject, finishIfSelected, finish, abort]
  repeat' split
  all_goals rfl

end Selected

/-- Only a drive that is there gets selected. -/
theorem selected_lt_act (h : ∀ i, c.selected = some i → i < c.driveCount)
    (a : Action) :
    ∀ i, (c.act a).selected = some i → i < c.driveCount := by
  cases a with
  | select value =>
      intro i hi
      simp only [act, select] at hi
      split at hi
      · cases hi
      · rename_i hthere
        simp only [Bool.or_eq_true, decide_eq_true_eq, not_or] at hthere
        have hdrive : value.toNat % 16 = i := Option.some.inj hi
        omega
  | status => exact h
  | command value => rwa [act, selected_command]
  | querySector => rwa [act, selected_querySector]
  | readData => rwa [act, selected_readData]
  | writeData value => rwa [act, selected_writeData]
  | mount i diskette => rwa [selected_mount]
  | eject i => rwa [selected_eject]
  | reset => nofun

/-! ## What becomes of the drives -/

theorem drives_command (h : c.loaded? = some d) (value : UInt8) :
    (c.command value).drives =
      (c.modifySelected (·.moveHead value)).drives := by
  simp only [command, h, afterHead, finish, abort]
  repeat' split
  all_goals rfl

theorem drives_querySector (h : c.loaded? = some d) :
    c.querySector.2.drives = (c.modifySelected (·.turn)).drives := by
  simp only [querySector, h, abort]
  split <;> rfl

theorem drives_readData : c.readData.2.drives = c.drives := by
  simp only [readData, finish, abort]
  repeat' split
  all_goals rfl

/-- What a byte does to the drive that it is written to: when it is the
last of its sector, the sector is committed as well. -/
def store (c : Controller) (value : UInt8) (d : Drive) : Drive :=
  let written := d.write (c.sectorBase + c.cursor) value
  if c.cursor + 1 = sectorSize then
    written.commit ⟨c.sectorBase, c.sectorBase + sectorSize⟩
  else written

@[simp] theorem track_store (c : Controller) (value : UInt8) (d : Drive) :
    (c.store value d).track = d.track := by
  unfold store
  split <;> rfl

@[simp] theorem sector_store (c : Controller) (value : UInt8) (d : Drive) :
    (c.store value d).sector = d.sector := by
  unfold store
  split <;> rfl

@[simp] theorem headLoaded_store (c : Controller) (value : UInt8)
    (d : Drive) : (c.store value d).headLoaded = d.headLoaded := by
  unfold store
  split <;> rfl

/-- The diskette in a drive that is stored to. -/
theorem diskette_store (c : Controller) (value : UInt8) (d : Drive) :
    (c.store value d).diskette = d.diskette.map fun x =>
      let written := x.write (c.sectorBase + c.cursor) value
      if c.cursor + 1 = sectorSize then
        written.commit ⟨c.sectorBase, c.sectorBase + sectorSize⟩
      else written := by
  unfold store
  split
  · exact Option.map_map ..
  · rfl

theorem drive?_writeData (h : (c.armed && c.writeEnabled) = true)
    (value : UInt8) (j : Nat) :
    (c.writeData value).drive? j =
      (c.modifySelected (c.store value)).drive? j := by
  simp only [writeData, h, if_true, cursor_modifySelected]
  by_cases hlast : c.cursor + 1 = sectorSize
  · have hstore : c.store value = fun d =>
        (d.write (c.sectorBase + c.cursor) value).commit
          ⟨c.sectorBase, c.sectorBase + sectorSize⟩ :=
      funext fun d => if_pos hlast
    rw [if_pos hlast, hstore]
    show ((c.modifySelected _).modifySelected _).drive? j = _
    simp only [drive?_modifySelected, selected_modifySelected,
      sectorBase_modifySelected]
    split
    · exact Option.map_map ..
    · rfl
  · have hstore : c.store value = fun d =>
        d.write (c.sectorBase + c.cursor) value :=
      funext fun d => if_neg hlast
    rw [if_neg hlast, hstore]
    rfl

theorem drive?_mount (i : Nat) (diskette : Diskette) (j : Nat) :
    (c.act (.mount i diskette)).drive? j =
      if i = j then (c.drive? j).map (·.insert diskette) else c.drive? j := by
  simp only [act, mount, finishIfSelected, finish, abort]
  split
  · split <;> exact c.drive?_modify i j _
  · rename_i hi
    split
    · rename_i hij
      simp [← hij, drive?_eq_none hi]
    · rfl

theorem drive?_eject (i j : Nat) :
    (c.act (.eject i)).drive? j =
      if i = j then (c.drive? j).map (·.remove) else c.drive? j := by
  simp only [act, eject, finishIfSelected, finish, abort]
  split
  · split <;> exact c.drive?_modify i j _
  · rename_i hi
    split
    · rename_i hij
      simp [← hij, drive?_eq_none hi]
    · rfl

theorem drive?_reset (j : Nat) :
    c.reset.drive? j =
      (c.drive? j).map ({ · with headLoaded := false }) :=
  Array.getElem?_map

/-- What an action can make of a drive. -/
inductive Change (c : Controller) : Action → Drive → Drive → Prop where
  | rest {a : Action} {d : Drive} : Change c a d d
  | turn {d : Drive} : d.diskette.isSome = true →
      Change c .querySector d d.turn
  | moveHead {value : UInt8} {d : Drive} : d.diskette.isSome = true →
      Change c (.command value) d (d.moveHead value)
  | store {value : UInt8} {d : Drive} :
      Change c (.writeData value) d (c.store value d)
  | insert {i : Nat} {diskette : Diskette} {d : Drive} :
      Change c (.mount i diskette) d (d.insert diskette)
  | remove {i : Nat} {d : Drive} : Change c (.eject i) d d.remove
  | raise {d : Drive} : Change c .reset d { d with headLoaded := false }

/-- An action on the loaded drive changes that drive or none. -/
theorem change_modifySelected {a : Action} {f : Drive → Drive} {j : Nat}
    {d₀ : Drive} (h : c.loaded? = some d₀)
    (hf : ∀ d, d.diskette.isSome = true → c.Change a d (f d))
    (hd : c.drive? j = some d) :
    ∃ d', (c.modifySelected f).drive? j = some d' ∧ c.Change a d d' := by
  rw [drive?_modifySelected, hd]
  by_cases hj : c.selected = some j
  · have hdj : d₀ = d :=
      Option.some.inj ((drive_of_loaded h hj).symm.trans hd)
    rw [if_pos hj]
    exact ⟨f d, rfl, hf d (hdj ▸ diskette_of_loaded h)⟩
  · rw [if_neg hj]
    exact ⟨d, rfl, .rest⟩

theorem change_act {j : Nat} (a : Action) (hd : c.drive? j = some d) :
    ∃ d', (c.act a).drive? j = some d' ∧ c.Change a d d' := by
  cases a with
  | select value =>
      refine ⟨d, ?_, .rest⟩
      simp only [act, select, abort]
      split <;> exact hd
  | status => exact ⟨d, hd, .rest⟩
  | command value =>
      cases h : c.loaded? with
      | none =>
          refine ⟨d, ?_, .rest⟩
          simp only [act, command, h]
          exact hd
      | some d₀ =>
          obtain ⟨d', hd', hchange⟩ :=
            change_modifySelected (a := .command value) h
              (fun d hdisk => .moveHead hdisk) hd
          refine ⟨d', ?_, hchange⟩
          rw [← hd', drive?, drive?, act, drives_command h]
  | querySector =>
      cases h : c.loaded? with
      | none =>
          refine ⟨d, ?_, .rest⟩
          simp only [act, querySector, h]
          exact hd
      | some d₀ =>
          obtain ⟨d', hd', hchange⟩ :=
            change_modifySelected h (fun d hdisk => .turn hdisk) hd
          refine ⟨d', ?_, hchange⟩
          rw [← hd', drive?, drive?, act, drives_querySector h]
  | readData =>
      refine ⟨d, ?_, .rest⟩
      rw [act, drive?, drives_readData]
      exact hd
  | writeData value =>
      by_cases h : (c.armed && c.writeEnabled) = true
      · obtain ⟨-, d₀, hd₀, -⟩ :=
          armed_iff.mp (Bool.and_eq_true_iff.mp h).1
        rw [act, drive?_writeData h]
        exact change_modifySelected hd₀ (fun d _ => .store) hd
      · refine ⟨d, ?_, .rest⟩
        rw [act, writeData, if_neg h]
        exact hd
  | mount i diskette =>
      rw [drive?_mount, hd]
      split
      · exact ⟨_, rfl, .insert⟩
      · exact ⟨d, rfl, .rest⟩
  | eject i =>
      rw [drive?_eject, hd]
      split
      · exact ⟨_, rfl, .remove⟩
      · exact ⟨d, rfl, .rest⟩
  | reset =>
      rw [act, drive?_reset, hd]
      exact ⟨_, rfl, .raise⟩

/-- Drives neither come nor go. -/
theorem driveCount_act (c : Controller) (a : Action) :
    (c.act a).driveCount = c.driveCount := by
  cases a with
  | select value =>
      simp only [act, select]
      split <;> rfl
  | status => rfl
  | command value =>
      cases h : c.loaded? with
      | none => simp only [act, command, h]
      | some d =>
          show (c.command value).drives.size = _
          rw [drives_command h]
          exact driveCount_modifySelected c _
  | querySector =>
      cases h : c.loaded? with
      | none => simp only [act, querySector, h]
      | some d =>
          show c.querySector.2.drives.size = _
          rw [drives_querySector h]
          exact driveCount_modifySelected c _
  | readData =>
      show c.readData.2.drives.size = _
      rw [drives_readData]
      rfl
  | writeData value =>
      simp only [act, writeData]
      repeat' split
      · exact (driveCount_modifySelected _ _).trans
          (driveCount_modifySelected c _)
      · exact driveCount_modifySelected c _
      · rfl
  | mount i diskette =>
      simp only [act, mount, finishIfSelected]
      repeat' split
      all_goals first | rfl | exact Array.size_modify
  | eject i =>
      simp only [act, eject, finishIfSelected]
      repeat' split
      all_goals first | rfl | exact Array.size_modify
  | reset => exact Array.size_map

/-- A drive after an action has been that drive before it. -/
theorem exists_change {a : Action} {j : Nat} {d' : Drive}
    (hd' : (c.act a).drive? j = some d') :
    ∃ d, c.drive? j = some d ∧ c.Change a d d' := by
  have hj : j < c.driveCount := by
    rw [← driveCount_act c a]
    exact lt_of_drive? hd'
  obtain ⟨d, hd⟩ := exists_drive? hj
  obtain ⟨d'', hd'', hchange⟩ := change_act a hd
  rw [hd', Option.some.injEq] at hd''
  exact ⟨d, hd, hd'' ▸ hchange⟩

/-! ## The diskettes in the drives -/

/-- What is kept by writing and committing, and holds of the diskettes
that are put in, holds of the diskettes in the drives. -/
theorem diskettes_run {P : Diskette → Prop}
    (hwrite : ∀ x offset value, P x → P (x.write offset value))
    (hcommit : ∀ x span, P x → P (x.commit span))
    {actions : List Action}
    (hmount : ∀ i x, Action.mount i x ∈ actions → P x)
    (hstart : ∀ j d x, c.drive? j = some d → d.diskette = some x → P x)
    {j : Nat} {x : Diskette} (hd : (c.run actions).drive? j = some d)
    (hx : d.diskette = some x) : P x := by
  induction actions generalizing c with
  | nil => exact hstart j d x hd hx
  | cons a rest ih =>
      refine ih (fun i x hmem => hmount i x (List.mem_cons_of_mem a hmem)) ?_ hd
      intro j d' x hd' hx
      obtain ⟨d₀, hd₀, hchange⟩ := exists_change hd'
      cases hchange with
      | rest => exact hstart j _ x hd₀ hx
      | turn => exact hstart j _ x hd₀ hx
      | moveHead => exact hstart j _ x hd₀ hx
      | raise => exact hstart j _ x hd₀ hx
      | insert =>
          rw [← Option.some.inj hx]
          exact hmount _ _ (List.mem_cons_self ..)
      | remove => cases hx
      | @store value =>
          rw [diskette_store, Option.map_eq_some_iff] at hx
          obtain ⟨x₀, hx₀, rfl⟩ := hx
          have hwritten := hwrite x₀ (c.sectorBase + c.cursor) value
            (hstart j d₀ x₀ hd₀ hx₀)
          show P (ite _ _ _)
          split
          · exact hcommit _ _ hwritten
          · exact hwritten

end Controller

end Floppy

end S100
