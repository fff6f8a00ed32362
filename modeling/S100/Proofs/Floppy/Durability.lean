import S100.Proofs.Floppy.TornSectors

/-!
# What is left of a completed sector

A guest that has written a sector to its end reads its bytes back, and
counts on them to be there when the file is opened the next time. For a
sector that lies inside the image they are: as soon as its last byte is
written, the file holds the image's bytes all along the sector.

An image need not end where a sector ends. What it holds of its last,
broken sector takes the bytes that are written to it like any other, and is
read back like any other, but it is never written to the file, which keeps
what it held in the beginning. `completed_sector_run` says both.
-/

namespace S100

/-- A span inside a diskette that can be written is written to its file. -/
theorem Diskette.fileWrite?_of_fits {x : Diskette} {path : String}
    {span : Span} (hfile : x.file = some path)
    (hwritable : x.writeProtected = false) (hspan : span.start ≤ span.stop)
    (hfits : span.stop ≤ x.size) :
    x.fileWrite? span =
      some ⟨path, span.start, x.bytes.extract span.start span.stop⟩ := by
  simp only [fileWrite?, hfile, hwritable, hspan, hfits, Bool.not_false,
    decide_true, Bool.and_self, if_true]

namespace Floppy

/-- A file that a part of an image has been written to shows that part. -/
theorem getElem?_apply_extract {path : String} {contents image : Bytes}
    {start stop o : Nat} (hsize : contents.size = image.size)
    (hstop : stop ≤ image.size) (hstart : start ≤ o) (ho : o < stop) :
    (FileWrite.apply ⟨path, start, image.extract start stop⟩ contents)[o]? =
      image[o]? := by
  have hlength : (image.extract start stop).size = stop - start := by
    rw [Array.size_extract, Nat.min_eq_left hstop]
  have hfits : start + (image.extract start stop).size ≤ contents.size := by
    omega
  refine (getElem?_overlay contents start o _ hfits).trans ?_
  rw [if_pos (by omega), Array.getElem?_eq_getElem (by omega),
    Array.getElem_extract, Array.getElem?_eq_getElem (by omega)]
  simp only [Nat.add_sub_cancel' hstart]

namespace Controller

variable {c : Controller} {x : Diskette} {base n i : Nat}

/-! ## The last byte of a sector -/

/-- The sector under way as its last byte leaves it. -/
theorem diskette?_writeData_last (hunder : UnderWay base n true c)
    (hdown : HeadDown i x c) (hlast : n + 1 = sectorSize) (value : UInt8) :
    (c.writeData value).diskette? i =
      some ((x.write (base + n) value).commit ⟨base, base + sectorSize⟩) := by
  obtain ⟨d, hface, hhead, hdisk⟩ := hdown.facing
  have hstored := (hface.writeData (by rw [hdisk]; rfl) hhead hunder value).1
  rw [store_of_underWay hdisk hunder] at hstored
  simp only [if_pos hlast] at hstored
  exact diskette?_eq_some.mpr ⟨_, hstored.drive, rfl⟩

/-- What is noted of it is up to the diskette. -/
theorem posted_last (hunder : UnderWay base n true c)
    (hdown : HeadDown i x c) (hlast : n + 1 = sectorSize) (value : UInt8) :
    c.posted (.writeData value) =
      (x.write (base + n) value).fileWrite? ⟨base, base + sectorSize⟩ := by
  obtain ⟨d, hloaded, -, hhead, hdisk⟩ := hdown.loaded
  simp only [posted, hunder.armed hloaded hhead, hunder.writeEnabled,
    hunder.cursor, hunder.sectorBase, hlast, hloaded, hdisk, Bool.and_self,
    beq_self_eq_true, if_true, Option.bind_some]

/-- When the last byte of a sector inside the image is written, the file
shows what is read from the diskette. -/
theorem getElem?_carriedOut_last {names : String → Bool} {contents : Bytes}
    {o : Nat} (hunder : UnderWay base n true c) (hdown : HeadDown i x c)
    (hlast : n + 1 = sectorSize) (hfile : x.file.any names = true)
    (hwritable : x.writeProtected = false)
    (hfits : base + sectorSize ≤ x.size)
    (hsize : (carriedOut names c.journal contents).size = x.size)
    (value : UInt8) (hfrom : base ≤ o) (hto : o < base + sectorSize) :
    (carriedOut names (c.act (.writeData value)).journal contents)[o]? =
      (x.write (base + n) value).read o := by
  have hstored : (x.write (base + n) value).size = x.size :=
    x.size_write _ value
  obtain ⟨path, hpath, hnames⟩ := (Option.any_eq_true _ _).mp hfile
  rw [← Diskette.file_write x (base + n) value] at hpath
  rw [← Diskette.writeProtected_write x (base + n) value] at hwritable
  have hposted := (posted_last hunder hdown hlast value).trans
    (Diskette.fileWrite?_of_fits hpath hwritable
      (Nat.le_add_right base sectorSize) (by rwa [hstored]))
  rw [carriedOut_posted, hposted]
  dsimp only
  rw [if_pos hnames]
  exact getElem?_apply_extract (hsize.trans hstored.symm)
    (by rwa [← hstored] at hfits) hfrom hto

/-! ## After any run -/

/-- A diskette over the file is as long as the file is, at any time. -/
theorem size_run {count : Nat} {names : String → Bool} {contents : Bytes}
    {actions : List Action}
    (hopened : ∀ j y, Action.mount j y ∈ actions →
      y.file.any names = true → y.size = contents.size)
    (hx : ((ofDrives count).run actions).diskette? i = some x)
    (hfile : x.file.any names = true) : x.size = contents.size := by
  obtain ⟨d, hd, hdisk⟩ := diskette?_eq_some.mp hx
  refine diskettes_run
    (P := fun x => x.file.any names = true → x.size = contents.size)
    ?_ ?_ hopened ?_ hd hdisk hfile
  · intro y offset value h hnames
    rw [Diskette.file_write] at hnames
    exact (y.size_write offset value).trans (h hnames)
  · exact fun y span h hnames => h hnames
  · intro j d y hd hy
    rw [drive?_ofDrives hd] at hy
    cases hy

/-- After the last byte of a sector, in a drive whose diskette can be
written and has the file: if the image reaches to the end of the sector,
the file holds of it what is read from the diskette. If it does not, the
file holds what it held in the beginning. -/
theorem completed_sector_run {count : Nat} {names : String → Bool}
    {contents : Bytes} {past : List Action}
    (hopened : ∀ j y, Action.mount j y ∈ past →
      y.file.any names = true → y.size = contents.size)
    (hunder : UnderWay base (sectorSize - 1) true ((ofDrives count).run past))
    (hdown : HeadDown i x ((ofDrives count).run past))
    (hfile : x.file.any names = true) (hwritable : x.writeProtected = false)
    (value : UInt8) :
    let c := (ofDrives count).run (past ++ [.writeData value])
    let file := carriedOut names c.journal contents
    ∃ x', c.diskette? i = some x' ∧ x'.size = file.size
      ∧ ∀ o, base ≤ o → o < base + sectorSize → o < x'.size →
        file[o]? =
          if base + sectorSize ≤ x'.size then x'.read o else contents[o]? := by
  have huntorn : Untorn (ofDrives count) names contents
      (past ++ [.writeData value]) _ :=
    untorn_run fun j y hmem => hopened j y (by simpa using hmem)
  rw [run_concat] at huntorn ⊢
  intro c file
  let x' := (x.write (base + (sectorSize - 1)) value).commit
    ⟨base, base + sectorSize⟩
  have hx : ((ofDrives count).run past).diskette? i = some x := by
    obtain ⟨-, d, hd, -, hdisk⟩ := hdown
    exact diskette?_eq_some.mpr ⟨d, hd, hdisk⟩
  have hsize : x.size = contents.size := size_run hopened hx hfile
  have hsize' : x'.size = x.size := x.size_write _ value
  refine ⟨x', diskette?_writeData_last hunder hdown rfl value,
    (hsize'.trans hsize).trans huntorn.size.symm, fun o hfrom hto ho => ?_⟩
  by_cases hfits : base + sectorSize ≤ x'.size
  · have hbefore : (carriedOut names ((ofDrives count).run past).journal
        contents).size = x.size :=
      (untorn_run hopened).size.trans hsize.symm
    rw [if_pos hfits]
    exact getElem?_carriedOut_last hunder hdown rfl hfile hwritable
      (by rwa [← hsize']) hbefore value hfrom hto
  · -- the sector is the broken one, and nothing after the last whole one
    -- has ever been written
    obtain ⟨k, hk⟩ :=
      exists_sectorBase (wellFormed_run count past).2 hunder.phase
    rw [hunder.sectorBase] at hk
    rw [if_neg hfits]
    refine huntorn.rest o ?_
    simp only [sectorSize] at hk hfits ⊢
    omega

/-! ## A sector at the end of an image -/

/-- Put a diskette in, and get its first sector under way for writing. -/
def beginFirst (x : Diskette) : List Action :=
  [.mount 0 x, .select 0, .command Command.loadHead, .querySector,
    .command Command.enableWriting]

/-- Put a diskette in, and write to its first sector. -/
def writeFirst (x : Diskette) (data : List UInt8) : List Action :=
  beginFirst x ++ data.map .writeData

theorem uncut_map_writeData (c : Controller) (data : List UInt8) :
    c.Uncut (data.map .writeData) := by
  induction data generalizing c with
  | nil => trivial
  | cons value rest ih => exact ⟨rfl, ih _⟩

theorem written_map_writeData (data : List UInt8) :
    written (data.map .writeData) = data := by
  rw [written, List.filterMap_map]
  exact List.filterMap_some

theorem run_writeFirst (x : Diskette) {data : List UInt8}
    (h : data.length < sectorSize) :
    UnderWay 0 data.length true ((ofDrives 1).run (writeFirst x data))
      ∧ HeadDown 0 (x.fill 0 data) ((ofDrives 1).run (writeFirst x data)) := by
  have hmounted : ((ofDrives 1).act (.mount 0 x)).drive? 0 =
      some { diskette := some x } := by
    rw [drive?_mount]
    rfl
  have hsome : (some x).isSome = true := rfl
  have hselected := Facing.select (by decide) hmounted
  rw [show UInt8.ofNat 0 = 0 from rfl] at hselected
  have hhead := hselected.command hsome Command.loadHead
  rw [moveHead_loadHead] at hhead
  obtain ⟨-, hturned, harmed⟩ := hhead.querySector hsome rfl
  obtain ⟨hface, hunder⟩ := hturned.enableWriting hsome harmed
  have hdown : HeadDown 0 x _ :=
    ⟨hface.selected, _, hface.drive, rfl, rfl⟩
  have hfilled := run_uncut hunder hdown (uncut_map_writeData _ data)
    (by rwa [written_map_writeData, Nat.zero_add])
  rw [written_map_writeData, Nat.zero_add] at hfilled
  have hbegun : (ofDrives 1).run (beginFirst x) =
      (((((ofDrives 1).act (.mount 0 x)).select 0).command
        Command.loadHead).querySector.2.command Command.enableWriting) := by
    simp only [run, beginFirst, List.foldl_cons, List.foldl_nil, act]
  rw [writeFirst, run_append, hbegun]
  exact hfilled

/-- A file of one whole sector. -/
theorem completed_sector_run_whole :
    let x : Diskette :=
      { bytes := Array.replicate 137 0xE5, file := some "a.dsk" }
    let data := List.replicate (sectorSize - 1) 0x1A
    let past := writeFirst x data
    let c := (ofDrives 1).run (past ++ [.writeData 0x1A])
    let file := carriedOut (· == "a.dsk") c.journal x.bytes
    ((∀ j y, Action.mount j y ∈ past →
        y.file.any (· == "a.dsk") = true → y.size = x.bytes.size)
      ∧ UnderWay 0 (sectorSize - 1) true ((ofDrives 1).run past)
      ∧ HeadDown 0 (x.fill 0 data) ((ofDrives 1).run past)
      ∧ (x.fill 0 data).file.any (· == "a.dsk") = true
      ∧ (x.fill 0 data).writeProtected = false)
      ∧ ∃ x', c.diskette? 0 = some x' ∧ x'.size = file.size
        ∧ ∀ o, 0 ≤ o → o < 0 + sectorSize → o < x'.size →
          file[o]? =
            if 0 + sectorSize ≤ x'.size then x'.read o
            else x.bytes[o]? := by
  intro x data past c file
  have hopened : ∀ j y, Action.mount j y ∈ past →
      y.file.any (· == "a.dsk") = true → y.size = x.bytes.size := by
    intro j y hmem _
    have hmount : j = 0 ∧ y = x := by
      simpa [past, writeFirst, beginFirst] using hmem
    rw [hmount.2]
    rfl
  have hlength : data.length < sectorSize := by
    rw [List.length_replicate]
    decide
  obtain ⟨hunder, hdown⟩ := run_writeFirst x hlength
  rw [List.length_replicate] at hunder
  have hfile : (x.fill 0 data).file.any (· == "a.dsk") = true := by
    rw [Diskette.file_fill]
    decide
  have hwritable : (x.fill 0 data).writeProtected = false :=
    Diskette.writeProtected_fill x 0 data
  exact ⟨⟨hopened, hunder, hdown, hfile, hwritable⟩,
    completed_sector_run hopened hunder hdown hfile hwritable 0x1A⟩

/-- In an image of one byte the first sector is broken. When it has been
written to its end, what was written to the byte is read back from the
diskette, and the file does not have it. -/
theorem completed_sector_lost :
    let x : Diskette := { bytes := #[0xE5], file := some "a.dsk" }
    let past := writeFirst x (List.replicate (sectorSize - 1) 0x1A)
    let c := (ofDrives 1).run (past ++ [.writeData 0x1A])
    let file := carriedOut (· == "a.dsk") c.journal x.bytes
    UnderWay 0 (sectorSize - 1) true ((ofDrives 1).run past)
      ∧ (c.diskette? 0).bind (·.read 0) = some 0x1A
      ∧ file[0]? = some 0xE5 := by
  intro x past c file
  have hlength : (List.replicate (sectorSize - 1) (0x1A : UInt8)).length
      < sectorSize := by
    rw [List.length_replicate]
    decide
  obtain ⟨hunder, -⟩ := run_writeFirst x hlength
  rw [List.length_replicate] at hunder
  exact ⟨hunder, by decide +kernel, by decide +kernel⟩

end Controller

end Floppy

end S100
