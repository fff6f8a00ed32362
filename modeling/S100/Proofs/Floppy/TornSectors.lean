import S100.Proofs.Floppy.Commits
import S100.Setup.Image

/-!
# No torn sectors

A sector goes into the image byte by byte, and any number of things may cut
it short. In the host file no trace of that is ever to be found: at any
time each of its sectors is as it was in the beginning, or as one transfer
wrote it from its first byte to its last (`sectors_whole_run`). What is
left of the file after its last whole sector does not change, and neither
does its length.

This is so for any number of diskettes over one file, under any of its
names and in any drives, and whatever their images hold. All that is asked
of them is what opening the file gives: an image as long as the file is.
-/

namespace S100

namespace Floppy

/-! ## Files and their images -/

/-- A diskette that was opened holds all of its file, and is
write-protected where the file can only be read. -/
theorem image_of_open {tree : FileTree} {path : String} {x : Diskette}
    (h : tree.source.diskette path = .ok x) :
    ∃ place file, tree.file? path = .ok (place, file)
      ∧ file.readable = true
      ∧ x = { bytes := file.bytes, writeProtected := !file.writable,
              file := some path } := by
  simp only [FileSource.diskette, FileTree.source, FileTree.openDisk] at h
  split at h
  · cases h
  · rename_i place file hfile
    split at h
    · rename_i hreadable
      cases h
      exact ⟨place, file, hfile, hreadable, rfl⟩
    · cases h

/-! ## Sectors of a file -/

/-- The bytes of a sector of a file. -/
def sectorAt (contents : Bytes) (k : Nat) : Bytes :=
  contents.extract (k * sectorSize) (k * sectorSize + sectorSize)

/-- Writing a sector leaves all others as they were. -/
theorem sectorAt_apply {w : FileWrite} {contents : Bytes} {j : Nat}
    (hoffset : w.offset = j * sectorSize) (hsize : w.bytes.size = sectorSize)
    (hfits : w.offset + w.bytes.size ≤ contents.size) (k : Nat) :
    sectorAt (w.apply contents) k =
      if k = j then w.bytes else sectorAt contents k := by
  unfold sectorAt FileWrite.apply
  split
  · rename_i hk
    rw [hk, ← hoffset, ← hsize]
    exact extract_overlay contents w.offset w.bytes hfits
  · rename_i hk
    refine Array.ext (by simp only [Array.size_extract, size_overlay])
      fun o ho ho' => ?_
    rw [Array.size_extract] at ho'
    simp only [Array.getElem_extract]
    rw [getElem_overlay _ _ _ _ (by omega), dif_neg]
    rw [hoffset, hsize]
    simp only [sectorSize] at *
    omega

/-- What is left of a file after its last whole sector. -/
theorem getElem?_apply_of_rest {w : FileWrite} {contents : Bytes} {j o : Nat}
    (hoffset : w.offset = j * sectorSize) (hsize : w.bytes.size = sectorSize)
    (hfits : w.offset + w.bytes.size ≤ contents.size)
    (ho : contents.size / sectorSize * sectorSize ≤ o) :
    (w.apply contents)[o]? = contents[o]? := by
  rw [FileWrite.apply, getElem?_overlay _ _ _ _ hfits, if_neg]
  simp only [hoffset, hsize, sectorSize] at *
  omega

namespace Controller

variable {start : Controller} {names : String → Bool} {contents file : Bytes}
  {actions : List Action} {a : Action}

/-! ## One action -/

/-- The file after some actions: as long as it was, each sector as it was
or as a transfer has written it, and what is left as it was. -/
structure Untorn (start : Controller) (names : String → Bool)
    (contents : Bytes) (actions : List Action) (file : Bytes) : Prop where
  size : file.size = contents.size
  sectors : ∀ k, (k + 1) * sectorSize ≤ contents.size →
    sectorAt file k = sectorAt contents k
      ∨ ∃ path before transfer after, names path = true
        ∧ actions = before ++ transfer ++ after
        ∧ Transfer path (k * sectorSize) (start.run before) transfer
        ∧ sectorAt file k = (written transfer).toArray
  rest : ∀ o, contents.size / sectorSize * sectorSize ≤ o →
    file[o]? = contents[o]?

/-- Another action, that does not write to the file. -/
theorem Untorn.concat (h : Untorn start names contents actions file)
    (a : Action) : Untorn start names contents (actions ++ [a]) file where
  size := h.size
  sectors k hk := by
    rcases h.sectors k hk with hold | ⟨path, before, transfer, after,
      hpath, rfl, htransfer, hsector⟩
    · exact .inl hold
    · exact .inr ⟨path, before, transfer, after ++ [a], hpath,
        List.append_assoc _ _ _, htransfer, hsector⟩
  rest := h.rest

/-- An action that completes a sector of the file. -/
theorem Untorn.posted (hstart : start.WellFormed)
    (hrest : start.writeEnabled = false)
    (h : Untorn start names contents actions file) {w : FileWrite}
    (hw : (start.run actions).posted a = some w)
    (hpath : names w.path = true)
    (hfits : w.offset + w.bytes.size ≤ contents.size) :
    Untorn start names contents (actions ++ [a]) (w.apply file) := by
  obtain ⟨before, transfer, j, hsplit, htransfer, hoffset, hbytes⟩ :=
    transfer_of_posted hstart hrest hw
  have hsize : w.bytes.size = sectorSize := by
    rw [hbytes, List.size_toArray, htransfer.whole]
  rw [← h.size] at hfits
  refine ⟨(w.size_apply file).trans h.size, fun k hk => ?_, fun o ho => ?_⟩
  · rw [sectorAt_apply hoffset hsize hfits]
    split
    · rename_i hkj
      subst hkj
      exact .inr ⟨w.path, before, transfer, [], hpath,
        hsplit.trans (List.append_nil _).symm, htransfer, hbytes⟩
    · exact (h.concat a).sectors k hk
  · rw [getElem?_apply_of_rest hoffset hsize hfits (h.size ▸ ho)]
    exact h.rest o ho

/-! ## Any number of actions -/

theorem carriedOut_posted (c : Controller) (a : Action) :
    carriedOut names (c.act a).journal contents =
      match c.posted a with
      | none => carriedOut names c.journal contents
      | some w =>
        if names w.path then
          w.apply (carriedOut names c.journal contents)
        else carriedOut names c.journal contents := by
  rw [journal_act, carriedOut_append]
  cases c.posted a <;> rfl

/-- What is noted in a run was noted by one of its actions. -/
theorem exists_posted {w : FileWrite} (hempty : start.journal = #[])
    (h : w ∈ (start.run actions).journal) :
    ∃ past a, past ++ [a] <+: actions ∧ (start.run past).posted a = some w := by
  induction actions using List.reverseRecOn with
  | nil =>
      rw [run_nil, hempty] at h
      exact absurd h (Array.not_mem_empty w)
  | append_singleton actions a ih =>
      rw [run_concat, journal_act, Array.mem_append] at h
      rcases h with hbefore | hnow
      · obtain ⟨past, b, hpast, hw⟩ := ih hbefore
        exact ⟨past, b, hpast.trans (List.prefix_append _ _), hw⟩
      · exact ⟨actions, a, List.prefix_rfl, by simpa using hnow⟩

/-- What holds of every diskette that is put in and has the file, and is
kept by writing and committing, holds of those with the file that a run
writes to. -/
theorem diskette_of_posted_run {count : Nat} {P : Diskette → Prop}
    (hwrite : ∀ x offset value, P x → P (x.write offset value))
    (hcommit : ∀ x span, P x → P (x.commit span))
    (hmount : ∀ i x, Action.mount i x ∈ actions →
      x.file.any names = true → P x)
    {past : List Action} (hpast : past <+: actions) {w : FileWrite}
    (hw : ((ofDrives count).run past).posted a = some w)
    (hpath : names w.path = true) :
    ∃ x, P x ∧ x.writeProtected = false
      ∧ w.offset + w.bytes.size ≤ x.size := by
  obtain ⟨i, d, x, hdrive, hdisk, hfile, hwritable, hfits⟩ :=
    diskette_of_posted hw
  refine ⟨x, ?_, hwritable, hfits⟩
  refine diskettes_run (P := fun x => x.file.any names = true → P x) ?_ ?_ ?_
    ?_ hdrive hdisk (by simp [hfile, hpath])
  · intro x offset value h hnames
    rw [Diskette.file_write] at hnames
    exact hwrite x offset value (h hnames)
  · exact fun x span h hnames => hcommit x span (h hnames)
  · exact fun i x hmem => hmount i x (hpast.subset hmem)
  · intro j d x hd hx
    rw [drive?_ofDrives hd] at hx
    cases hx

variable {count : Nat}

/-- A write to the file lies within it. -/
theorem posted_fits
    (hopened : ∀ i x, Action.mount i x ∈ actions →
      x.file.any names = true → x.size = contents.size)
    {past : List Action} (hpast : past <+: actions) {w : FileWrite}
    (hw : ((ofDrives count).run past).posted a = some w)
    (hpath : names w.path = true) :
    w.offset + w.bytes.size ≤ contents.size := by
  obtain ⟨x, hsize, -, hfits⟩ := diskette_of_posted_run
    (P := fun x => x.size = contents.size)
    (fun x offset value h => (x.size_write offset value).trans h)
    (fun x span h => h) hopened hpast hw hpath
  exact hsize ▸ hfits

theorem untorn_run
    (hopened : ∀ i x, Action.mount i x ∈ actions →
      x.file.any names = true → x.size = contents.size) :
    Untorn (ofDrives count) names contents actions
      (carriedOut names ((ofDrives count).run actions).journal contents) := by
  induction actions using List.reverseRecOn with
  | nil => exact ⟨rfl, fun _ _ => .inl rfl, fun _ _ => rfl⟩
  | append_singleton actions a ih =>
      have h := ih fun i x hmem =>
        hopened i x (List.mem_append_left [a] hmem)
      rw [run_concat, carriedOut_posted]
      cases hw : ((ofDrives count).run actions).posted a with
      | none => exact h.concat a
      | some w =>
          show Untorn _ _ _ _ (ite _ _ _)
          split
          · rename_i hpath
            exact h.posted (.ofDrives count) rfl hw hpath
              (posted_fits hopened (List.prefix_append _ _) hw hpath)
          · exact h.concat a

/-- A file that nothing is written to stays as it is. -/
theorem carriedOut_of_none {writes : Array FileWrite}
    (h : ∀ w ∈ writes, names w.path ≠ true) :
    carriedOut names writes contents = contents := by
  refine Array.foldl_induction (motive := fun _ file => file = contents) rfl ?_
  intro i file hfile
  have hpath : names writes[i].path ≠ true :=
    h _ (Array.getElem_mem i.isLt)
  rw [if_neg hpath]
  exact hfile

/-- Whatever is done with the diskettes over a file, at any time its
sectors are whole: each holds what it held in the beginning, or what one
transfer has written into all of it. Writes lie within the file, so that
its length stays, and a file that is only there to be read never
changes. -/
theorem sectors_whole_run
    (hopened : ∀ i x, Action.mount i x ∈ actions →
      x.file.any names = true → x.size = contents.size) :
    let c := (ofDrives count).run actions
    let file := carriedOut names c.journal contents
    Untorn (ofDrives count) names contents actions file
      ∧ (∀ w ∈ c.journal, names w.path = true →
          w.offset + w.bytes.size ≤ contents.size)
      ∧ ((∀ i x, Action.mount i x ∈ actions →
            x.file.any names = true → x.writeProtected = true) →
          file = contents) := by
  refine ⟨untorn_run hopened, fun w hw hpath => ?_, fun hprotected => ?_⟩
  · obtain ⟨past, a, hpast, hposted⟩ := exists_posted rfl hw
    exact posted_fits hopened ((List.prefix_append _ _).trans hpast) hposted
      hpath
  · refine carriedOut_of_none fun w hw hpath => ?_
    obtain ⟨past, a, hpast, hposted⟩ := exists_posted rfl hw
    obtain ⟨x, hx, hwritable, -⟩ := diskette_of_posted_run
      (P := fun x => x.writeProtected = true)
      (fun x offset value h => (x.writeProtected_write offset value).trans h)
      (fun x span h => h) hprotected
      ((List.prefix_append _ _).trans hpast) hposted hpath
    cases hx.symm.trans hwritable

/-- A file of one sector, all of which is written. -/
theorem sectors_whole_run_one :
    let x : Diskette :=
      { bytes := Array.replicate 137 0xE5, file := some "a.dsk" }
    let actions : List Action :=
      [.mount 0 x, .select 0, .command Command.loadHead, .querySector,
        .command Command.enableWriting]
        ++ List.replicate sectorSize (.writeData 0x1A)
    let c := (ofDrives 1).run actions
    let file := carriedOut (· == "a.dsk") c.journal x.bytes
    (∀ i y, Action.mount i y ∈ actions →
        y.file.any (· == "a.dsk") = true → y.size = x.bytes.size)
      ∧ Untorn (ofDrives 1) (· == "a.dsk") x.bytes actions file
      ∧ (∀ w ∈ c.journal, (w.path == "a.dsk") = true →
          w.offset + w.bytes.size ≤ x.bytes.size)
      ∧ ((∀ i y, Action.mount i y ∈ actions →
            y.file.any (· == "a.dsk") = true → y.writeProtected = true) →
          file = x.bytes) := by
  intro x actions c file
  have hopened : ∀ i y, Action.mount i y ∈ actions →
      y.file.any (· == "a.dsk") = true → y.size = x.bytes.size := by
    intro i y hmem _
    have hmount : i = 0 ∧ y = x := by
      simpa [actions, List.mem_replicate] using hmem
    rw [hmount.2]
    rfl
  exact ⟨hopened, sectors_whole_run hopened⟩

end Controller

end Floppy

end S100
