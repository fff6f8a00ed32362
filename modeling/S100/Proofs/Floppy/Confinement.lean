import S100.Proofs.Floppy.Transfers

/-!
# Where writing can reach

The place that a byte is written to was fixed when the sector was queried,
and any number of things may have been done since. Nothing of that can lead
it astray: a byte goes to the diskette in the selected drive, into the
sector that was told last, on the track that the head is on now
(`writes_confined`). Everything that would make another place of it, takes
the sector off instead (`disarms`).

Two lemmas carry this. What is under way after an action has just been
queried, or was under way before it and has not been touched
(`ready_act`). So it can be traced back through a run to its query, and if
writing is enabled, that was done since (`exists_query`).
-/

namespace S100

namespace Floppy

/-- Whether an action enables writing, where there is a diskette. -/
def Action.enablesWriting : Action → Bool
  | .command value => Command.has value Command.enableWriting
  | _ => false

namespace Controller

variable {c start : Controller} {a : Action} {actions : List Action}
  {i j : Nat}

/-! ## All along a run -/

/-- Every action of a run is as `P` says, of the controller that it is done
to. -/
def Throughout (P : Controller → Action → Prop) (c : Controller) :
    List Action → Prop
  | [] => True
  | a :: rest => P c a ∧ Throughout P (c.act a) rest

theorem throughout_concat {P : Controller → Action → Prop} :
    Throughout P c (actions ++ [a]) ↔
      Throughout P c actions ∧ P (c.run actions) a := by
  induction actions generalizing c with
  | nil => exact ⟨fun h => ⟨trivial, h.1⟩, fun h => ⟨h.2, trivial⟩⟩
  | cons b rest ih =>
      show P c b ∧ Throughout P (c.act b) (rest ++ [a]) ↔ _
      rw [ih, ← and_assoc]
      rfl

/-! ## Back to the query -/

/-- Whether an action takes the sector under way off, or puts another in its
place: selecting, asking for the next sector, resetting; a command that
moves the head or unloads it; and another diskette, or none, in the selected
drive. -/
def disarms (c : Controller) : Action → Bool
  | .select _ | .querySector | .reset => true
  | .command value => c.loaded?.any fun d =>
      moves value d.track || Command.has value Command.unloadHead
  | .mount drive _ | .eject drive => c.selected == some drive
  | .status | .readData | .writeData _ => false

/-- A sector that is under way after an action was under way before it, at
the same place. -/
structure Stays (c : Controller) (a : Action) : Prop where
  phase : c.phase = .ready
  armed : c.disarms a = false
  sectorBase : (c.act a).sectorBase = c.sectorBase
  writing : (c.act a).writeEnabled = true →
    c.writeEnabled = true ∨ a.enablesWriting = true

/-- The next query tells a sector, and makes it the one under way. -/
structure Tells (c : Controller) (track sector : Nat) : Prop where
  told : c.querySector.1 = sectorByte sector
  sector_lt : sector < sectorsPerTrack
  sectorBase : c.querySector.2.sectorBase = sectorOffset track sector
  idle : c.querySector.2.writeEnabled = false

theorem stays_command {value : UInt8} (hc : c.WellFormed)
    (h : (c.command value).phase = .ready) : Stays c (.command value) := by
  obtain ⟨d, hd, hmoves, hunload, hcommand⟩ := command_ready hc h
  have hphase : (c.moveHead value).phase = .ready := by
    rw [hcommand] at h
    split at h <;> exact h
  refine ⟨(phase_modifySelected c _).symm.trans hphase, ?_, ?_, ?_⟩
  · simp [disarms, hd, hmoves, hunload]
  · rw [act, hcommand]
    split <;> exact sectorBase_modifySelected c _
  · intro hwriting
    by_cases henables : Command.has value Command.enableWriting = true
    · exact .inr henables
    · rw [act, hcommand, if_neg henables] at hwriting
      exact .inl ((writeEnabled_modifySelected c _).symm.trans hwriting)

theorem tells_of_ready (hc : c.WellFormed)
    (h : c.querySector.2.phase = .ready) : ∃ t s, Tells c t s := by
  obtain ⟨d, hd, hdown⟩ := headLoaded_of_querySector hc h
  obtain ⟨i, -, hdrive, -⟩ := loaded?_eq_some.mp hd
  refine ⟨d.track, d.sector, ?_, (hc.drives i d hdrive).sector_lt, ?_, ?_⟩
  all_goals simp only [querySector, hd, hdown, if_true]
  rfl

/-- What changes nothing but the place in the sector, or drives. -/
theorem stays_of_frame {cursor : Nat} {drives : Array Drive}
    (hframe : c.act a = { c with cursor, drives })
    (harmed : c.disarms a = false) (h : (c.act a).phase = .ready) :
    Stays c a := by
  rw [hframe] at h
  refine ⟨h, harmed, ?_, fun hwriting => .inl ?_⟩
  · rw [hframe]
  · rwa [hframe] at hwriting

theorem stays_readData (h : c.readData.2.phase = .ready) :
    Stays c .readData := by
  by_cases hreads : (c.armed && !c.writeEnabled) = true
  · have hread : c.readData.2 =
        if c.cursor + 1 = sectorSize then c.finish
        else { c with cursor := c.cursor + 1 } := by
      simp only [readData, hreads, if_true]
    by_cases hlast : c.cursor + 1 = sectorSize
    · rw [hread, if_pos hlast] at h
      cases h
    · rw [if_neg hlast] at hread
      exact stays_of_frame hread rfl h
  · have hsame : c.readData.2 = c := by
      rw [readData, if_neg hreads]
    exact stays_of_frame hsame rfl h

theorem stays_writeData {value : UInt8}
    (h : (c.writeData value).phase = .ready) : Stays c (.writeData value) := by
  by_cases hwrites : (c.armed && c.writeEnabled) = true
  · obtain ⟨harmed, hwriting⟩ := Bool.and_eq_true_iff.mp hwrites
    refine ⟨(armed_iff.mp harmed).1, rfl, ?_, fun _ => .inl hwriting⟩
    simp only [act, writeData, hwrites, if_true]
    split <;> simp [commitSector, finish, abort]
  · have hsame : c.writeData value = c := by
      rw [writeData, if_neg hwrites]
    exact stays_of_frame hsame rfl h

theorem stays_exchange {f : Drive → Drive} (hc : c.WellFormed)
    (hact : c.act a = if j < c.driveCount then
        { c with drives := c.drives.modify j f }.finishIfSelected j
      else c)
    (hdisarms : c.disarms a = (c.selected == some j))
    (h : (c.act a).phase = .ready) : Stays c a := by
  obtain ⟨hother, drives, hframe⟩ := exchange_ready hc hact h
  exact stays_of_frame hframe (hdisarms.trans hother) h

/-- What is under way after an action was told by it, or was under way
before it. -/
theorem ready_act (hc : c.WellFormed) (h : (c.act a).phase = .ready) :
    (a = .querySector ∧ ∃ t s, Tells c t s) ∨ Stays c a := by
  cases a with
  | select value =>
      simp only [act, select] at h
      split at h <;> cases h
  | status => exact .inr ⟨h, rfl, rfl, .inl⟩
  | command value => exact .inr (stays_command hc h)
  | querySector => exact .inl ⟨rfl, tells_of_ready hc h⟩
  | readData => exact .inr (stays_readData h)
  | writeData value => exact .inr (stays_writeData h)
  | mount i x => exact .inr (stays_exchange hc (act_mount i x) rfl h)
  | eject i => exact .inr (stays_exchange hc (act_eject i) rfl h)
  | reset => cases h

/-- Between its query and the end of a run a sector stayed under way. -/
structure ToldSince (start : Controller) (before recent : List Action)
    (sector : Nat) : Prop where
  told : (start.run before).querySector.1 = sectorByte sector
  sector_lt : sector < sectorsPerTrack
  armed : Throughout (fun c a => c.disarms a = false)
    (start.run before).querySector.2 recent

/-- What is under way after a run was told by the last query in it. If it
can be written, that was allowed since. -/
theorem exists_query (hstart : start.WellFormed)
    (hrest : start.phase ≠ .ready) (actions : List Action)
    (h : (start.run actions).phase = .ready) :
    ∃ before recent t s, actions = before ++ .querySector :: recent
      ∧ ToldSince start before recent s
      ∧ (start.run actions).sectorBase = sectorOffset t s
      ∧ ((start.run actions).writeEnabled = true →
          recent.any (·.enablesWriting) = true) := by
  induction actions using List.reverseRecOn with
  | nil => exact absurd h hrest
  | append_singleton actions a ih =>
      have hc : (start.run actions).WellFormed :=
        run_induction hstart (fun c a h => h.act a) actions
      rw [run_concat] at h ⊢
      rcases ready_act hc h with ⟨rfl, t, s, htells⟩ | hstays
      · refine ⟨actions, [], t, s, rfl,
          ⟨htells.told, htells.sector_lt, trivial⟩, htells.sectorBase,
          fun hwriting => ?_⟩
        cases htells.idle.symm.trans hwriting
      · obtain ⟨before, recent, t, s, hsplit, hsince, hbase, hwrites⟩ :=
          ih hstays.phase
        have hrun : start.run actions =
            (start.run before).querySector.2.run recent := by
          rw [hsplit, run_append]
          rfl
        refine ⟨before, recent ++ [a], t, s, ?_,
          ⟨hsince.told, hsince.sector_lt, ?_⟩,
          hstays.sectorBase.trans hbase, fun hwriting => ?_⟩
        · rw [hsplit, List.append_assoc, List.cons_append]
        · refine throughout_concat.mpr ⟨hsince.armed, ?_⟩
          rw [← hrun]
          exact hstays.armed
        · rw [List.any_append, Bool.or_eq_true, List.any_cons]
          rcases hstays.writing hwriting with hbefore | hnow
          · exact .inl (hwrites hbefore)
          · exact .inr (by rw [hnow]; rfl)

/-! ## What becomes of a diskette -/

/-- The bytes of the diskette in a drive. -/
def image? (c : Controller) (j : Nat) : Option Bytes :=
  (c.diskette? j).map (·.bytes)

/-- The diskette that is in a drive after something other than a write. -/
def exchanged (c : Controller) (j : Nat) : Action → Option Diskette
  | .mount i x => if i = j ∧ j < c.driveCount then some x else c.diskette? j
  | .eject i => if i = j then none else c.diskette? j
  | _ => c.diskette? j

/-- What keeps the diskette of every drive. -/
theorem diskette?_of_change
    (h : ∀ d d', c.Change a d d' → d'.diskette = d.diskette) (j : Nat) :
    (c.act a).diskette? j = c.diskette? j := by
  unfold diskette?
  cases hd : c.drive? j with
  | none =>
      have hj : (c.act a).driveCount ≤ j := by
        rw [driveCount_act]
        exact drive?_eq_none_iff.mp hd
      rw [drive?_eq_none_iff.mpr hj]
  | some d =>
      obtain ⟨d', hd', hchange⟩ := change_act a hd
      rw [hd']
      exact h d d' hchange

theorem diskette?_mount (i : Nat) (x : Diskette) (j : Nat) :
    (c.act (.mount i x)).diskette? j = c.exchanged j (.mount i x) := by
  simp only [exchanged, diskette?, drive?_mount]
  by_cases hij : i = j
  · cases hd : c.drive? j with
    | none =>
        have hj := drive?_eq_none_iff.mp hd
        rw [if_pos hij, if_neg fun h => Nat.not_lt.mpr hj h.2]
        rfl
    | some d =>
        rw [if_pos hij, if_pos ⟨hij, lt_of_drive? hd⟩]
        rfl
  · rw [if_neg hij, if_neg fun h => hij h.1]

theorem diskette?_eject (i j : Nat) :
    (c.act (.eject i)).diskette? j = c.exchanged j (.eject i) := by
  simp only [exchanged, diskette?, drive?_eject]
  by_cases hij : i = j
  · rw [if_pos hij, if_pos hij]
    cases c.drive? j <;> rfl
  · rw [if_neg hij, if_neg hij]

theorem diskette?_act (ha : ∀ value, a ≠ .writeData value) (j : Nat) :
    (c.act a).diskette? j = c.exchanged j a := by
  cases a with
  | writeData value => exact absurd rfl (ha value)
  | mount i x => exact diskette?_mount i x j
  | eject i => exact diskette?_eject i j
  | _ => exact diskette?_of_change (fun d d' h => by cases h <;> rfl) j

/-- A byte that is written can change one place of one diskette. -/
theorem diskette?_writeData (value : UInt8) (j : Nat) :
    (c.writeData value).diskette? j = c.diskette? j
      ∨ (c.armed && c.writeEnabled) = true ∧ c.selected = some j
        ∧ ∃ x y, c.diskette? j = some x
          ∧ (c.writeData value).diskette? j = some y
          ∧ y.bytes = (x.write (c.sectorBase + c.cursor) value).bytes := by
  by_cases hwrites : (c.armed && c.writeEnabled) = true
  · unfold diskette?
    rw [drive?_writeData hwrites, drive?_modifySelected]
    by_cases hj : c.selected = some j
    · obtain ⟨-, d, hd, -⟩ := armed_iff.mp (Bool.and_eq_true_iff.mp hwrites).1
      obtain ⟨x, hx⟩ := Option.isSome_iff_exists.mp (diskette_of_loaded hd)
      have hx' : c.diskette? j = some x :=
        diskette?_eq_some.mpr ⟨d, drive_of_loaded hd hj, hx⟩
      refine .inr ⟨hwrites, hj, x,
        if c.cursor + 1 = sectorSize then
          (x.write (c.sectorBase + c.cursor) value).commit
            ⟨c.sectorBase, c.sectorBase + sectorSize⟩
        else x.write (c.sectorBase + c.cursor) value, hx', ?_, ?_⟩
      · rw [if_pos hj, drive_of_loaded hd hj]
        show (c.store value d).diskette = _
        rw [diskette_store, hx]
        rfl
      · split <;> rfl
    · rw [if_neg hj]
      exact .inl rfl
  · rw [writeData, if_neg hwrites]
    exact .inl rfl

/-! ## Where a byte goes -/

theorem sectorOffset_inj {t s t' s' : Nat} (hs : s < sectorsPerTrack)
    (hs' : s' < sectorsPerTrack) (h : sectorOffset t s = sectorOffset t' s') :
    t = t' ∧ s = s' := by
  simp only [sectorOffset, sectorsPerTrack, sectorSize] at *
  omega

/-- What leaves the sector under way leaves the drive selected. -/
theorem selected_act (h : c.disarms a = false) :
    (c.act a).selected = c.selected := by
  cases a with
  | select | querySector | reset => cases h
  | status => rfl
  | command value => exact selected_command c value
  | readData => exact selected_readData c
  | writeData value => exact selected_writeData c value
  | mount i x => exact selected_mount c i x
  | eject i => exact selected_eject c i

theorem throughout_selected
    (harmed : Throughout (fun c a => c.disarms a = false) c actions)
    (hj : (c.run actions).selected = some j) :
    Throughout (fun c _ => c.selected = some j) c actions
      ∧ c.selected = some j := by
  induction actions generalizing c with
  | nil => exact ⟨trivial, hj⟩
  | cons a rest ih =>
      obtain ⟨hrest, hnext⟩ := ih harmed.2 hj
      have hnow : c.selected = some j :=
        (selected_act harmed.1).symm.trans hnext
      exact ⟨⟨hnow, hrest⟩, hnow⟩

/-- Sector `s` of track `t` can be written, on the diskette in drive `j`:
this is the selected drive and its head is on the track; the last query of
the run told the sector when this drive was selected, and what was done
since has not taken it off, and has enabled writing. -/
structure Writable (start : Controller) (past : List Action) (j t s : Nat) :
    Prop where
  selected : (start.run past).selected = some j
  track : ((start.run past).drive? j).map (·.track) = some t
  told : ∃ before recent, past = before ++ .querySector :: recent
    ∧ ToldSince start before recent s
    ∧ Throughout (fun c _ => c.selected = some j) (start.run before)
      (.querySector :: recent)
    ∧ recent.any (·.enablesWriting) = true

/-- What is under way and enabled for writing is writable, and begins where
its sector does. -/
theorem exists_writable {past : List Action} (hstart : start.WellFormed)
    (hrest : start.phase ≠ .ready) (harmed : (start.run past).armed = true)
    (hwriting : (start.run past).writeEnabled = true)
    (hj : (start.run past).selected = some j) :
    ∃ t s, Writable start past j t s
      ∧ (start.run past).sectorBase = sectorOffset t s := by
  have hc : (start.run past).WellFormed :=
    run_induction hstart (fun c a h => h.act a) past
  have hready := (armed_iff.mp harmed).1
  obtain ⟨d, hd, hon⟩ := hc.on_of_ready hready
  obtain ⟨before, recent, t, s, hsplit, hsince, hbase, hwrites⟩ :=
    exists_query hstart hrest past hready
  -- the head has not moved since the query
  obtain ⟨htrack, -⟩ := sectorOffset_inj hsince.sector_lt
    (Nat.mod_lt _ (by decide)) (hbase.symm.trans hon.base_eq)
  have hrun : start.run past =
      (start.run before).querySector.2.run recent := by
    rw [hsplit, run_append]
    rfl
  obtain ⟨hrecent, hquery⟩ := throughout_selected hsince.armed (hrun ▸ hj)
  rw [selected_querySector] at hquery
  refine ⟨t, s, ⟨hj, ?_, before, recent, hsplit, hsince,
    ⟨hquery, hrecent⟩, hwrites hwriting⟩, hbase⟩
  rw [drive_of_loaded hd hj, htrack]
  rfl

/-- What does not concern the diskette in drive `j`: it is neither exchanged
nor written to while the drive is selected. -/
def spares (j : Nat) (c : Controller) : Action → Prop
  | .mount i _ | .eject i => i ≠ j
  | .writeData _ => c.selected ≠ some j
  | _ => True

theorem diskette?_of_spares (h : spares j c a) :
    (c.act a).diskette? j = c.diskette? j := by
  cases a with
  | writeData value =>
      rcases diskette?_writeData (c := c) value j with hsame | ⟨-, hj, -⟩
      · exact hsame
      · exact absurd hj h
  | mount i x =>
      rw [diskette?_mount]
      exact if_neg fun hij => h hij.1
  | eject i =>
      rw [diskette?_eject]
      exact if_neg h
  | _ => exact diskette?_act (fun value h => by cases h) j

theorem diskette?_run_of_spares (h : Throughout (spares j) c actions) :
    (c.run actions).diskette? j = c.diskette? j := by
  induction actions generalizing c with
  | nil => rfl
  | cons a rest ih => exact (ih h.2).trans (diskette?_of_spares h.1)

theorem eject_fst (c : Controller) (j : Nat) :
    (c.eject j).1 = c.diskette? j := by
  unfold eject
  split
  · rfl
  · rename_i hj
    rw [diskette?, drive?_eq_none hj]
    rfl

/-- A byte that is written to a diskette replaces one of its bytes, if it
changes any. -/
theorem bytes_write (x : Diskette) (offset : Nat) (value : UInt8) :
    (x.write offset value).bytes = x.bytes
      ∨ (x.write offset value).bytes = x.bytes.setIfInBounds offset value := by
  unfold Diskette.write
  split
  · exact .inl rfl
  · exact .inr rfl

/-- Where the byte goes that is written after a run. -/
theorem image?_writeData_run (hstart : start.WellFormed)
    (hrest : start.phase ≠ .ready) (past : List Action) (value : UInt8)
    (j : Nat) :
    let c := start.run past
    (c.writeData value).image? j = c.image? j
      ∨ ∃ t s o bytes, Writable start past j t s
        ∧ sectorOffset t s ≤ o ∧ o < sectorOffset t s + sectorSize
        ∧ c.image? j = some bytes
        ∧ (c.writeData value).image? j =
          some (bytes.setIfInBounds o value) := by
  intro c
  have hc : c.WellFormed :=
    run_induction hstart (fun c a h => h.act a) past
  rcases c.diskette?_writeData value j with
    hsame | ⟨hwrites, hj, x, y, hx, hy, hbytes⟩
  · exact .inl (congrArg (·.map (·.bytes)) hsame)
  have hbefore : c.image? j = some x.bytes := by
    rw [image?, hx, Option.map_some]
  have hafter : (c.writeData value).image? j =
      some (x.write (c.sectorBase + c.cursor) value).bytes := by
    rw [image?, hy, Option.map_some, hbytes]
  obtain ⟨harmed, hwriting⟩ := Bool.and_eq_true_iff.mp hwrites
  obtain ⟨t, s, hwritable, hbase⟩ :=
    exists_writable hstart hrest harmed hwriting hj
  rcases bytes_write x (c.sectorBase + c.cursor) value with hkept | hset
  · exact .inl (by rw [hafter, hbefore, hkept])
  · have hcursor : c.cursor < sectorSize := hc.cursor_lt
    have hfrom : c.sectorBase = sectorOffset t s := hbase
    exact .inr ⟨t, s, c.sectorBase + c.cursor, x.bytes, hwritable,
      by omega, by omega, hbefore, by rw [hafter, hset]⟩

/-- After any run: whatever is done other than writing, diskettes are only
put in and taken out, and as they are. A byte that is written changes at
most one place of the diskette in the selected drive, in the sector that was
told last, on the track that the head is on. So a diskette stays as it is
whatever is done to other drives. -/
theorem writes_confined (count : Nat) (past : List Action) :
    let c := (ofDrives count).run past
    (∀ a j, (∀ value, a ≠ .writeData value) →
        (c.act a).diskette? j = c.exchanged j a)
      ∧ (∀ j, (c.eject j).1 = c.diskette? j)
      ∧ (∀ value j, (c.writeData value).image? j = c.image? j
          ∨ ∃ t s o bytes, Writable (ofDrives count) past j t s
            ∧ sectorOffset t s ≤ o ∧ o < sectorOffset t s + sectorSize
            ∧ c.image? j = some bytes
            ∧ (c.writeData value).image? j =
              some (bytes.setIfInBounds o value))
      ∧ (∀ traffic j, Throughout (spares j) c traffic →
          (c.run traffic).diskette? j = c.diskette? j) := by
  intro c
  refine ⟨fun a j ha => diskette?_act ha j, c.eject_fst, fun value j => ?_,
    fun traffic j h => diskette?_run_of_spares h⟩
  exact image?_writeData_run (WellFormed.ofDrives count) nofun past value j

/-- The second of two bytes, with a diskette taken out of another drive in
between. -/
example :
    let x : Diskette := { bytes := #[0xE5, 0xE5, 0xE5] }
    ((ofDrives 2).run
      [.mount 0 x, .mount 1 x, .select 0, .command Command.loadHead,
        .querySector, .command Command.enableWriting, .writeData 1,
        .eject 1, .writeData 2]).image? 0 = some #[1, 2, 0xE5] := by
  rfl

end Controller

end Floppy

end S100
