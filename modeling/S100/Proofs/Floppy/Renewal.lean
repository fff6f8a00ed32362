import S100.Proofs.Floppy.Procedures
import S100.Proofs.Floppy.Unseen

/-!
# A controller as new

A reset leaves the diskettes in their drives. `renewed` is a new controller
with as many drives, into which the same diskettes have just been put. There
the heads are over the first track, and before the first sector. A reset
raises the heads and does not move them, so that it comes to something else:
to a new controller with the heads where they stood (`renewedInPlace`).

Between the two there is nothing but the heads. Over a diskette, where a head
stands can be found out: selecting its drive shows whether it is at the first
track, and a query tells the sector.
-/

namespace S100

namespace Floppy

namespace Controller

/-- Put the diskettes in the first `n` drives into those drives again. -/
def mountings (c : Controller) (n : Nat) : List Action :=
  (List.range n).filterMap fun i => (c.diskette? i).map (.mount i)

/-- A new controller with the same diskettes, just mounted. -/
def renewed (c : Controller) : Controller :=
  (ofDrives c.driveCount).run (c.mountings c.driveCount)

/-- A new controller with the same diskettes, and over them the heads where
they stand. -/
def renewedInPlace (c : Controller) : Controller :=
  { c.renewed with drives := c.drives.map ({ · with headLoaded := false }) }

/-- Every head over a diskette is where a diskette that is put in finds it. -/
def Rewound (c : Controller) : Prop :=
  ∀ i d, c.drive? i = some d → d.diskette.isSome = true →
    d.track = 0 ∧ d.sector = 0

variable {c : Controller} {d : Drive} {i : Nat}

/-! ## Mounting everything again -/

/-- Of a controller that nothing has been done to, mounting changes the drives
and nothing else. -/
theorem untouched_run {c : Controller} (h : c = { drives := c.drives })
    {actions : List Action}
    (hmount : ∀ a ∈ actions, ∃ i x, a = .mount i x) :
    c.run actions = { drives := (c.run actions).drives } := by
  induction actions generalizing c with
  | nil => exact h
  | cons a rest ih =>
      obtain ⟨i, x, rfl⟩ := hmount a List.mem_cons_self
      refine ih ?_ fun b hb => hmount b (List.mem_cons_of_mem _ hb)
      rw [h]
      simp only [act, mount]
      split <;> rfl

theorem mount_of_mem_mountings {n : Nat} {a : Action}
    (h : a ∈ c.mountings n) : ∃ i x, a = .mount i x := by
  obtain ⟨i, -, hi⟩ := List.mem_filterMap.mp h
  obtain ⟨x, -, rfl⟩ := Option.map_eq_some_iff.mp hi
  exact ⟨i, x, rfl⟩

theorem mountings_succ (c : Controller) (n : Nat) :
    c.mountings (n + 1) =
      c.mountings n ++ ((c.diskette? n).map (Action.mount n)).toList := by
  unfold mountings
  rw [List.range_succ, List.filterMap_append]
  cases h : c.diskette? n with
  | none => simp [h]
  | some x => simp [h]

/-- A diskette that is put into an empty drive finds the head at rest. -/
theorem drive?_run_mountings {new : Controller}
    (hempty : ∀ i d, new.drive? i = some d → d = {}) (n i : Nat) :
    (new.run (c.mountings n)).drive? i =
      (new.drive? i).map fun _ =>
        { diskette := if i < n then c.diskette? i else none } := by
  induction n with
  | zero =>
      show new.drive? i = _
      cases hd : new.drive? i with
      | none => rfl
      | some d =>
          obtain rfl := hempty i d hd
          rfl
  | succ n ih =>
      have hlater (h : n ≠ i) : (i < n + 1) = (i < n) := by
        rw [eq_iff_iff]
        omega
      rw [mountings_succ, run_append]
      cases hx : c.diskette? n with
      | none =>
          rw [Option.map_none, Option.toList_none, run_nil, ih]
          by_cases hi : n = i
          · subst hi
            simp only [hx, ite_self]
          · simp only [hlater hi]
      | some x =>
          show ((new.run (c.mountings n)).act (.mount n x)).drive? i = _
          rw [drive?_mount, ih]
          by_cases hi : n = i
          · subst hi
            rw [if_pos rfl, Option.map_map]
            simp only [hx, Nat.lt_succ_self, if_true]
            rfl
          · rw [if_neg hi]
            simp only [hlater hi]

/-- The drives of a controller as new. -/
theorem drive?_renewed (hcount : 1 ≤ c.driveCount ∧ c.driveCount ≤ 16)
    (i : Nat) :
    c.renewed.drive? i =
      (c.drive? i).map fun d => { diskette := d.diskette } := by
  have hofDrives : (ofDrives c.driveCount).driveCount = c.driveCount := by
    rw [driveCount_ofDrives, driveCountFor]
    omega
  rw [renewed, drive?_run_mountings fun _ _ => drive?_ofDrives]
  by_cases hi : i < c.driveCount
  · obtain ⟨d, hd⟩ := exists_drive? hi
    obtain ⟨d', hd'⟩ := exists_drive? (hofDrives.symm ▸ hi)
    rw [hd, hd', if_pos hi, diskette?, hd]
    rfl
  · rw [drive?_eq_none hi, drive?_eq_none (hofDrives.symm ▸ hi)]
    rfl

/-- Otherwise nothing has been done to it. -/
theorem renewed_eq (c : Controller) :
    c.renewed = { drives := c.renewed.drives } :=
  untouched_run rfl fun _ => mount_of_mem_mountings

/-! ## What is left of the heads -/

theorem renewedInPlace_eq (c : Controller) :
    c.renewedInPlace =
      { drives := c.drives.map ({ · with headLoaded := false }) } := by
  rw [renewedInPlace, renewed_eq]

/-- Nothing that is in order depends on the writes that are noted. -/
theorem WellFormed.withJournal (h : c.WellFormed) (journal : Array FileWrite) :
    { c with journal : Controller }.WellFormed where
  idle_iff := h.idle_iff
  cursor_lt := h.cursor_lt
  ready_of_cursor := h.ready_of_cursor
  loaded_of_writing := h.loaded_of_writing
  on_of_ready := h.on_of_ready
  drives_pos := h.drives_pos
  drives_le := h.drives_le
  selected_lt := h.selected_lt
  drives := h.drives

/-- A reset comes to a new controller with the heads where they stand. -/
theorem sameBut_reset (c : Controller) :
    c.reset.SameBut c.journal #[] c.renewedInPlace := by
  rw [renewedInPlace_eq]
  exact ⟨rfl, rfl, rfl, nofun, rfl, rfl, rfl, #[], by simp [reset, abort], rfl⟩

/-- With the heads where a new diskette finds them, nothing is left of
them. -/
theorem renewedInPlace_of_rewound (h : c.WellFormed) (hrewound : c.Rewound) :
    c.renewedInPlace = c.renewed := by
  rw [renewedInPlace_eq, renewed_eq]
  congr 1
  refine Array.ext_getElem? fun i => ?_
  show _ = c.renewed.drive? i
  rw [drive?_renewed ⟨h.drives_pos, h.drives_le⟩, Array.getElem?_map]
  show (c.drive? i).map _ = _
  cases hd : c.drive? i with
  | none => rfl
  | some d =>
      have hrest : d.track = 0 ∧ d.sector = 0 := by
        cases hdisk : d.diskette with
        | none =>
            obtain ⟨htrack, hsector, -⟩ :=
              (h.drives i d hd).rest_of_empty hdisk
            exact ⟨htrack, hsector⟩
        | some x => exact hrewound i d hd (by rw [hdisk]; rfl)
      rw [Option.map_some, Option.map_some, hrest.1, hrest.2]

/-! ## What the ports tell of a head -/

/-- The status of a drive that has just been selected, with its head up. -/
def restingStatus (track : Nat) : UInt8 :=
  ~~~(Status.moveHead ||| bif track == 0 then Status.trackZero else 0)

/-- It tells whether the head is at the first track. -/
theorem eq_zero_of_restingStatus {track : Nat}
    (h : restingStatus track = restingStatus 0) : track = 0 := by
  cases htrack : track == 0 with
  | true => exact beq_iff_eq.mp htrack
  | false =>
      rw [restingStatus, htrack] at h
      exact absurd h (by decide)

theorem status_select (hi : i < 16) (hd : c.drive? i = some d)
    (hdisk : d.diskette.isSome = true) (hup : d.headLoaded = false)
    (hinterrupts : c.interruptsEnabled = false) :
    (c.select (UInt8.ofNat i)).status = restingStatus d.track := by
  have hloaded := (Facing.select hi hd).loaded hdisk
  have hselect := select_of_lt hi (lt_of_drive? hd)
  have hphase : (c.select (UInt8.ofNat i)).phase = .selected := by rw [hselect]
  have hwriting : (c.select (UInt8.ofNat i)).writeEnabled = false := by
    rw [hselect]
    rfl
  have hstill : (c.select (UInt8.ofNat i)).interruptsEnabled = false := by
    rw [hselect]
    exact hinterrupts
  simp only [status, hphase, hloaded, hup, hwriting, hstill, reduceCtorEq,
    if_false, cond_false, UInt8.or_zero]
  rfl

/-- A query tells the sector that is next to come. -/
theorem querySector_select (hi : i < 16) (hd : c.drive? i = some d)
    (hdisk : d.diskette.isSome = true) :
    (c.select (UInt8.ofNat i)).querySector.1 = sectorByte d.sector := by
  have hloaded := (Facing.select hi hd).loaded hdisk
  simp only [querySector, hloaded]

end Controller

end Floppy

end S100
