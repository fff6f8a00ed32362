import S100.Proofs.Floppy.Transfers

/-!
# What the host file gets to see

A diskette's image may be held in a host file. `carriedOut` is the file
after the writes that a controller has noted for it, and `posted` the one
write that an action notes, if it notes any (`journal_act`).

It does so when a sector is complete. What it notes then is the whole of
that sector, and its bytes are those of a transfer that began at the first
of them and was not cut short (`transfer_of_posted`).
-/

namespace S100

/-! ## Files -/

/-- The contents of a file when writes have been carried out, oldest first.
The file goes by those paths that have one of its `names`. -/
def carriedOut (names : String → Bool) (writes : Array FileWrite)
    (contents : Bytes) : Bytes :=
  writes.foldl (fun contents w =>
    if names w.path then w.apply contents else contents) contents

theorem carriedOut_append (names : String → Bool)
    (first rest : Array FileWrite) (contents : Bytes) :
    carriedOut names (first ++ rest) contents =
      carriedOut names rest (carriedOut names first contents) :=
  Array.foldl_append

theorem Diskette.fileWrite?_eq_some {x : Diskette} {span : Span}
    {w : FileWrite} (h : x.fileWrite? span = some w) :
    x.file = some w.path ∧ x.writeProtected = false
      ∧ span.stop ≤ x.size ∧ w.offset = span.start
      ∧ w.bytes = x.bytes.extract span.start span.stop := by
  unfold fileWrite? at h
  split at h
  · cases h
  · rename_i path hfile
    split at h
    · rename_i hinside
      simp only [Bool.and_eq_true, Bool.not_eq_true', decide_eq_true_eq]
        at hinside
      rw [Option.some.injEq] at h
      subst h
      exact ⟨hfile, hinside.1.1, hinside.2, rfl, rfl⟩
    · cases h

namespace Floppy

namespace Controller

variable {c : Controller} {a : Action} {x : Diskette} {base n i : Nat}

/-! ## What is noted -/

/-- What an action notes for the host: the sector that it completes, if the
diskette has a file that can be written and that reaches so far. -/
def posted (c : Controller) : Action → Option FileWrite
  | .writeData value =>
    if c.armed && c.writeEnabled && c.cursor + 1 == sectorSize then
      (c.loaded?.bind (·.diskette)).bind fun x =>
        (x.write (c.sectorBase + c.cursor) value).fileWrite?
          ⟨c.sectorBase, c.sectorBase + sectorSize⟩
    else none
  | _ => none

@[simp] theorem journal_afterHead (value : UInt8) (moved : Bool) :
    (c.afterHead value moved).journal = c.journal := by
  unfold afterHead
  repeat' split
  all_goals rfl

theorem journal_command (value : UInt8) :
    (c.command value).journal = c.journal := by
  unfold command
  split
  · rfl
  · dsimp only
    split <;> simp

theorem journal_querySector : c.querySector.2.journal = c.journal := by
  unfold querySector
  split
  · rfl
  · dsimp only
    split <;> simp [abort]

theorem journal_readData : c.readData.2.journal = c.journal := by
  unfold readData
  repeat' split
  all_goals rfl

theorem journal_finishIfSelected (j : Nat) :
    (c.finishIfSelected j).journal = c.journal := by
  unfold finishIfSelected
  split <;> rfl

theorem journal_writeData (value : UInt8) :
    (c.writeData value).journal =
      c.journal ++ (c.posted (.writeData value)).toArray := by
  by_cases hwrites : (c.armed && c.writeEnabled) = true
  · simp only [writeData, posted, hwrites, Bool.true_and, if_true,
      cursor_modifySelected, beq_iff_eq]
    split
    · simp only [commitSector, finish, abort, journal_modifySelected,
        sectorBase_modifySelected]
      rw [loaded?_modifySelected _ fun _ => Option.isSome_map]
      cases c.loaded? with
      | none => rfl
      | some d =>
          simp only [Option.map_some, Option.bind_some, Drive.write]
          cases d.diskette with
          | none => rfl
          | some x => rfl
    · simp
  · simp [writeData, posted, hwrites]

/-- An action notes what it posts, and nothing else. -/
theorem journal_act (c : Controller) (a : Action) :
    (c.act a).journal = c.journal ++ (c.posted a).toArray := by
  have hnone : c.journal ++ (none : Option FileWrite).toArray = c.journal :=
    Array.append_empty
  cases a with
  | select value =>
      refine Eq.trans ?_ hnone.symm
      simp only [act, select]
      split <;> rfl
  | status => exact hnone.symm
  | command value => exact (journal_command value).trans hnone.symm
  | querySector => exact journal_querySector.trans hnone.symm
  | readData => exact journal_readData.trans hnone.symm
  | writeData value => exact journal_writeData value
  | mount i diskette =>
      refine Eq.trans ?_ hnone.symm
      simp only [act, mount]
      split
      · exact journal_finishIfSelected i
      · rfl
  | eject i =>
      refine Eq.trans ?_ hnone.symm
      simp only [act, eject]
      split
      · exact journal_finishIfSelected i
      · rfl
  | reset => exact hnone.symm

theorem posted_eq_some {w : FileWrite} (h : c.posted a = some w) :
    ∃ value d x, a = .writeData value ∧ c.armed = true
      ∧ c.writeEnabled = true ∧ c.cursor + 1 = sectorSize
      ∧ c.loaded? = some d ∧ d.diskette = some x
      ∧ (x.write (c.sectorBase + c.cursor) value).fileWrite?
          ⟨c.sectorBase, c.sectorBase + sectorSize⟩ = some w := by
  cases a with
  | writeData value =>
      simp only [posted] at h
      split at h
      · rename_i hlast
        simp only [Bool.and_eq_true, beq_iff_eq] at hlast
        obtain ⟨x, hx, hw⟩ := Option.bind_eq_some_iff.mp h
        obtain ⟨d, hd, hdisk⟩ := Option.bind_eq_some_iff.mp hx
        exact ⟨value, d, x, rfl, hlast.1.1, hlast.1.2, hlast.2, hd, hdisk, hw⟩
      · cases h
  | _ => cases h

/-- A write goes to the file of a diskette in one of the drives, which can
be written and reaches as far as the write does. -/
theorem diskette_of_posted {w : FileWrite} (h : c.posted a = some w) :
    ∃ i d x, c.drive? i = some d ∧ d.diskette = some x
      ∧ x.file = some w.path ∧ x.writeProtected = false
      ∧ w.offset + w.bytes.size ≤ x.size := by
  obtain ⟨value, d, x, -, -, -, -, hd, hdisk, hw⟩ := posted_eq_some h
  obtain ⟨i, -, hdrive, -⟩ := loaded?_eq_some.mp hd
  obtain ⟨hfile, hwritable, hfits, hoffset, hbytes⟩ :=
    Diskette.fileWrite?_eq_some hw
  rw [Diskette.size_write] at hfits
  replace hfits : c.sectorBase + sectorSize ≤ x.size := hfits
  refine ⟨i, d, x, hdrive, hdisk, by simpa using hfile,
    by simpa using hwritable, ?_⟩
  rw [hoffset, hbytes, Array.size_extract]
  show c.sectorBase + (min (c.sectorBase + sectorSize) _ - c.sectorBase) ≤ _
  omega

/-! ## Whole sectors -/

/-- In `actions` the sector that begins at `base` is written from its first
byte to its last, on a diskette that the file at `path` holds: when they
begin, the sector is about to be written there; none of them cuts it short;
and they write as many bytes as it has. -/
structure Transfer (path : String) (base : Nat) (c : Controller)
    (actions : List Action) : Prop where
  begins : UnderWay base 0 true c
  headDown : ∃ i x, HeadDown i x c ∧ x.file = some path
  uncut : c.Uncut actions
  whole : (written actions).length = sectorSize

/-- A sector under way has its head down on a diskette. -/
theorem exists_headDown (hc : c.WellFormed) (h : c.phase = .ready) :
    ∃ i x, HeadDown i x c := by
  obtain ⟨d, hd, hon⟩ := hc.on_of_ready h
  obtain ⟨i, hi, hdrive, hsome⟩ := loaded?_eq_some.mp hd
  obtain ⟨x, hx⟩ := Option.isSome_iff_exists.mp hsome
  exact ⟨i, x, hi, d, hdrive, hon.headLoaded, hx⟩

/-- Sectors lie one after the other. -/
theorem exists_sectorBase (hc : c.WellFormed) (h : c.phase = .ready) :
    ∃ k, c.sectorBase = k * sectorSize := by
  obtain ⟨d, -, hon⟩ := hc.on_of_ready h
  exact ⟨_, hon.base_eq⟩

/-- While a sector is being written, its diskette is what the transfer has
made of the one that it began on. -/
theorem exists_filling {start : Controller} (hstart : start.WellFormed)
    (hrest : start.writeEnabled = false) {past : List Action} {d : Drive}
    (hphase : (start.run past).phase = .ready)
    (hwriting : (start.run past).writeEnabled = true)
    (hcursor : (start.run past).cursor < sectorSize)
    (hd : (start.run past).loaded? = some d) (hdisk : d.diskette = some x) :
    ∃ before recent i x₀, past = before ++ recent
      ∧ UnderWay (start.run past).sectorBase 0 true (start.run before)
      ∧ HeadDown i x₀ (start.run before)
      ∧ (start.run before).Uncut recent
      ∧ (written recent).length = (start.run past).cursor
      ∧ x = x₀.fill (start.run past).sectorBase (written recent) := by
  obtain ⟨before, recent, hsplit, hbegin, huncut, hlength⟩ :=
    exists_begin hstart hrest past hphase hwriting
  have hwf : (start.run before).WellFormed :=
    run_induction hstart (fun c a h => h.act a) before
  obtain ⟨i, x₀, hdown⟩ := exists_headDown hwf hbegin.phase
  have hrun : start.run past = (start.run before).run recent := by
    rw [hsplit, run_append]
  obtain ⟨-, hfilled⟩ := run_uncut hbegin hdown huncut (by omega)
  rw [← hrun] at hfilled
  obtain ⟨d', hd', -, -, hdisk'⟩ := hfilled.loaded
  rw [hd, Option.some.injEq] at hd'
  rw [← hd', hdisk, Option.some.injEq] at hdisk'
  exact ⟨before, recent, i, x₀, hsplit, hbegin, hdown, huncut, hlength,
    hdisk'⟩

/-- What is noted is a whole sector as it was written. -/
theorem transfer_of_posted {start : Controller} (hstart : start.WellFormed)
    (hrest : start.writeEnabled = false) {past : List Action} {w : FileWrite}
    (h : (start.run past).posted a = some w) :
    ∃ before recent k, past ++ [a] = before ++ recent
      ∧ Transfer w.path (k * sectorSize) (start.run before) recent
      ∧ w.offset = k * sectorSize
      ∧ w.bytes = (written recent).toArray := by
  obtain ⟨value, d, x, rfl, harmed, hwriting, hlast, hd, hdisk, hw⟩ :=
    posted_eq_some h
  have hphase := (armed_iff.mp harmed).1
  have hwf : (start.run past).WellFormed :=
    run_induction hstart (fun c a h => h.act a) past
  obtain ⟨k, hk⟩ := exists_sectorBase hwf hphase
  obtain ⟨before, recent, i, x₀, hsplit, hbegin, hdown, huncut, hlength, rfl⟩ :=
    exists_filling hstart hrest hphase hwriting (by omega) hd hdisk
  -- the last byte completes what was written before it
  have hwritten : written (recent ++ [.writeData value]) =
      written recent ++ [value] := written_append recent [.writeData value]
  have hwhole : (written (recent ++ [.writeData value])).length =
      sectorSize := by
    rw [hwritten, List.length_append, hlength]
    exact hlast
  rw [← hlength, ← Diskette.fill_concat, ← hwritten] at hw
  obtain ⟨hfile, hwritable, hfits, hoffset, hbytes⟩ :=
    Diskette.fileWrite?_eq_some hw
  rw [Diskette.file_fill] at hfile
  rw [Diskette.writeProtected_fill] at hwritable
  rw [Diskette.size_fill] at hfits
  refine ⟨before, recent ++ [.writeData value], k, ?_,
    ⟨hk ▸ hbegin, ⟨i, x₀, hdown, hfile⟩, uncut_concat.mpr ⟨huncut, rfl⟩,
      hwhole⟩, hoffset.trans hk, ?_⟩
  · rw [hsplit, List.append_assoc]
  · rw [hbytes]
    show Array.extract _ _ (_ + sectorSize) = _
    rw [← hwhole]
    exact x₀.extract_fill _ _ hwritable (by rwa [hwhole])

end Controller

end Floppy

end S100
