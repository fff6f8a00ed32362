import Mathlib.Order.Interval.Finset.Nat
import S100.Proofs.Floppy.Commits
import S100.Proofs.Floppy.Procedures

/-!
# A whole diskette read

A program that copies a diskette begins at the outermost track, reads a turn of
sectors, steps in, and goes on so to the last track. It takes the sectors as
they come, and puts each at the place that its number says (`assemble`).

Where the turn begins cannot be known, and it does not matter: a turn has every
sector once (`perm_turnFrom`). What is put together is the image of the
diskette, filled up with zeros where that ends early (`fetchDisk_run`): the
sectors cover all of it, and each of them agrees with it (`agreesAt_assemble`).
-/

namespace S100

namespace Floppy

/-- A sector as a program gets it: what the query told, and the bytes. -/
structure Fetched where
  told : UInt8
  bytes : List UInt8
deriving DecidableEq

/-- The sector number in a position byte. -/
def toldSector (told : UInt8) : Nat :=
  told.toNat / 2 % sectorsPerTrack

theorem toldSector_sectorByte {sector : Nat} (h : sector < sectorsPerTrack) :
    toldSector (sectorByte sector) = sector := by
  simp only [toldSector, sectorByte, UInt8.toNat_ofNat', sectorsPerTrack] at *
  omega

/-- A sector of a diskette. Past the end of the image there are zeros. -/
def fetchedFrom (x : Diskette) (track sector : Nat) : Fetched where
  told := sectorByte sector
  bytes := (List.range sectorSize).map fun k =>
    (x.read (sectorOffset track sector + k)).getD 0

/-- The numbers of the sectors of a turn, from one of them on. -/
def turnFrom (first : Nat) : List Nat :=
  (List.range' first sectorsPerTrack).map (· % sectorsPerTrack)

/-- A turn has every sector once, wherever it begins. -/
theorem perm_turnFrom (first : Nat) :
    (turnFrom first).Perm (List.range sectorsPerTrack) := by
  have hturn := Nat.multiset_Ico_map_mod first sectorsPerTrack
  have hrange : Multiset.Ico first (first + sectorsPerTrack) =
      (List.range' first sectorsPerTrack : Multiset Nat) := by
    show ((List.range' first (first + sectorsPerTrack - first) : List Nat) :
      Multiset Nat) = _
    rw [Nat.add_sub_cancel_left]
  rw [hrange] at hturn
  exact Multiset.coe_eq_coe.mp hturn

theorem mem_turnFrom {first sector : Nat} :
    sector ∈ turnFrom first ↔ sector < sectorsPerTrack := by
  rw [(perm_turnFrom first).mem_iff, List.mem_range]

/-! ## Putting sectors together -/

/-- Put a sector of a track where it belongs. -/
def place (track : Nat) (image : Bytes) (sector : Fetched) : Bytes :=
  overlay image (sectorOffset track (toldSector sector.told))
    sector.bytes.toArray

/-- Put the sectors of one track after the other where they belong, the first
of which has the given number. -/
def assemble (track : Nat) (image : Bytes) : List (List Fetched) → Bytes
  | [] => image
  | sectors :: rest =>
    assemble (track + 1) (sectors.foldl (place track) image) rest

variable {image : Bytes} {x : Diskette} {track k : Nat}

theorem size_place (sector : Fetched) :
    (place track image sector).size = image.size :=
  size_overlay ..

theorem size_foldl_place (sectors : List Fetched) :
    (sectors.foldl (place track) image).size = image.size := by
  induction sectors generalizing image with
  | nil => rfl
  | cons sector rest ih => exact ih.trans (size_place sector)

theorem size_assemble (copied : List (List Fetched)) :
    (assemble track image copied).size = image.size := by
  induction copied generalizing track image with
  | nil => rfl
  | cons sectors rest ih => exact ih.trans (size_foldl_place sectors)

/-- Whether a byte of the image is that of the diskette. -/
def AgreesAt (x : Diskette) (k : Nat) (image : Bytes) : Prop :=
  byteAt image k = byteAt x.bytes k

/-- A sector brings the bytes that lie in it, and leaves the others. -/
theorem agreesAt_place {sector : Nat} (hs : sector < sectorsPerTrack)
    (hk : k < image.size)
    (h : AgreesAt x k image ∨ sectorOffset track sector ≤ k
      ∧ k < sectorOffset track sector + sectorSize) :
    AgreesAt x k (place track image (fetchedFrom x track sector)) := by
  simp only [AgreesAt, place, fetchedFrom, toldSector_sectorByte hs,
    byteAt_overlay, List.size_toArray, List.length_map, List.length_range]
  split
  · rename_i hin
    rw [byteAt_of_lt (by simp; omega)]
    simp only [List.getElem_toArray, List.getElem_map, List.getElem_range]
    rw [Nat.add_sub_cancel' hin.2.1]
    rfl
  · rename_i hout
    exact h.resolve_right fun hin => hout ⟨hk, hin⟩

theorem agreesAt_foldl_place {sectors : List Nat}
    (hs : ∀ sector ∈ sectors, sector < sectorsPerTrack) (hk : k < image.size)
    (h : AgreesAt x k image ∨ ∃ sector ∈ sectors,
      sectorOffset track sector ≤ k
        ∧ k < sectorOffset track sector + sectorSize) :
    AgreesAt x k
      ((sectors.map (fetchedFrom x track)).foldl (place track) image) := by
  induction sectors generalizing image with
  | nil =>
      refine h.resolve_right ?_
      rintro ⟨sector, hmem, -⟩
      cases hmem
  | cons sector rest ih =>
      have hfirst := hs sector List.mem_cons_self
      rw [List.map_cons, List.foldl_cons]
      refine ih (fun s hmem => hs s (List.mem_cons_of_mem _ hmem))
        (by rwa [size_place]) ?_
      rcases h with hagrees | ⟨other, hmem, hin⟩
      · exact .inl (agreesAt_place hfirst hk (.inl hagrees))
      · rcases List.mem_cons.mp hmem with rfl | hrest
        · exact .inl (agreesAt_place hfirst hk (.inr hin))
        · exact .inr ⟨other, hrest, hin⟩

/-- The tracks lie one after the other without gaps. -/
theorem agreesAt_assemble {first n : Nat} (hk : k < image.size)
    (h : AgreesAt x k image
      ∨ sectorOffset track 0 ≤ k ∧ k < sectorOffset (track + n) 0) :
    AgreesAt x k (assemble track image
      ((List.range' track n).map fun t =>
        (turnFrom first).map (fetchedFrom x t))) := by
  induction n generalizing track image with
  | zero =>
      refine h.resolve_right fun hin => ?_
      exact absurd hin.2 (Nat.not_lt.mpr hin.1)
  | succ n ih =>
      refine ih (by rwa [size_foldl_place]) ?_
      by_cases hlater : sectorOffset (track + 1) 0 ≤ k
        ∧ k < sectorOffset (track + 1 + n) 0
      · exact .inr hlater
      · refine .inl (agreesAt_foldl_place (fun s => mem_turnFrom.mp) hk ?_)
        refine h.imp_right fun hin => ⟨k / sectorSize % sectorsPerTrack,
          mem_turnFrom.mpr (Nat.mod_lt _ (by decide)), ?_⟩
        simp only [sectorOffset, sectorSize, sectorsPerTrack] at *
        omega

/-- The first bytes of an image as many as a diskette has, filled up with
zeros. -/
def padded (bytes : Bytes) : Bytes :=
  bytes.extract 0 diskSize ++ Array.replicate (diskSize - bytes.size) 0

theorem size_padded (bytes : Bytes) : (padded bytes).size = diskSize := by
  simp only [padded, Array.size_append, Array.size_extract,
    Array.size_replicate]
  omega

theorem byteAt_padded {bytes : Bytes} (hk : k < diskSize) :
    byteAt (padded bytes) k = byteAt bytes k := by
  rw [byteAt_of_lt (by rwa [size_padded])]
  by_cases hin : k < bytes.size
  · simp only [padded]
    rw [Array.getElem_append_left (by rw [Array.size_extract]; omega),
      Array.getElem_extract, byteAt_of_lt hin]
    simp only [Nat.zero_add]
  · simp only [padded]
    rw [Array.getElem_append_right (by rw [Array.size_extract]; omega),
      Array.getElem_replicate, byteAt_of_le (Nat.le_of_not_lt hin)]

/-- All tracks of a diskette put together, over whatever was there before. -/
theorem assemble_disk {first : Nat} (hsize : image.size = diskSize) :
    assemble 0 image ((List.range' 0 tracks).map fun t =>
      (turnFrom first).map (fetchedFrom x t)) = padded x.bytes := by
  refine Array.ext ?_ fun k hk hk' => ?_
  · rw [size_assemble, hsize, size_padded]
  · have hlt : k < diskSize := by rwa [size_padded] at hk'
    rw [← byteAt_of_lt hk, ← byteAt_of_lt hk', byteAt_padded hlt]
    exact agreesAt_assemble (by rwa [hsize]) (.inr ⟨Nat.zero_le _, hlt⟩)

/-! ## Reading -/

namespace Controller

/-- Query the sector that comes under the head, and read it. -/
def fetch (c : Controller) : Fetched × Controller :=
  let queried := c.querySector
  let read := queried.2.readAll sectorSize
  (⟨queried.1, read.1⟩, read.2)

/-- Fetch the sectors that come by, as many as are asked for. -/
def fetchAll : Nat → Controller → List Fetched × Controller
  | 0, c => ([], c)
  | count + 1, c =>
    let first := c.fetch
    let rest := first.2.fetchAll count
    (first.1 :: rest.1, rest.2)

/-- Fetch a turn of sectors of a track and, stepping in, of as many more as are
asked for. -/
def fetchInward : Nat → Controller → List (List Fetched) × Controller
  | 0, c =>
    let turn := c.fetchAll sectorsPerTrack
    ([turn.1], turn.2)
  | count + 1, c =>
    let turn := c.fetchAll sectorsPerTrack
    let rest := (turn.2.command Command.stepIn).fetchInward count
    (turn.1 :: rest.1, rest.2)

/-- Fetch a turn of sectors of each track of a diskette. -/
def fetchDisk (drive : Nat) (c : Controller) :
    List (List Fetched) × Controller :=
  (c.seekTrack drive 0).fetchInward (tracks - 1)

variable {start c : Controller} {d : Drive} {i : Nat}

theorem Facing.fetch (h : Facing start i d c) (hdisk : d.diskette = some x)
    (hhead : d.headLoaded = true) :
    c.fetch.1 = fetchedFrom x d.track d.sector
      ∧ Facing start i d.turn c.fetch.2 := by
  obtain ⟨htold, hturned, hunder⟩ :=
    h.querySector (by rw [hdisk]; rfl) hhead
  obtain ⟨hbytes, hread, -⟩ := hturned.readAll hdisk hhead hunder
    (show 0 < sectorSize by decide) (Nat.zero_add _)
  rw [Nat.add_zero] at hbytes
  unfold Controller.fetch fetchedFrom
  dsimp only
  rw [htold, hbytes]
  exact ⟨rfl, hread⟩

theorem Facing.fetchAll (h : Facing start i d c)
    (hdisk : d.diskette = some x) (hhead : d.headLoaded = true)
    {first : Nat} (hfirst : d.sector = first % sectorsPerTrack)
    (count : Nat) :
    (c.fetchAll count).1 =
        ((List.range' first count).map (· % sectorsPerTrack)).map
          (fetchedFrom x d.track)
      ∧ Facing start i { d with sector := (first + count) % sectorsPerTrack }
        (c.fetchAll count).2 := by
  induction count generalizing c d first with
  | zero =>
      refine ⟨rfl, ?_⟩
      rw [Nat.add_zero, ← hfirst]
      exact h
  | succ count ih =>
      obtain ⟨hsector, hturned⟩ := h.fetch hdisk hhead
      have hnext : d.turn.sector = (first + 1) % sectorsPerTrack := by
        simp only [Drive.turn, hfirst, Nat.mod_add_mod]
      obtain ⟨hrest, hface⟩ := ih hturned hdisk hhead hnext
      rw [Nat.add_assoc, Nat.add_comm 1] at hface
      refine ⟨?_, hface⟩
      simp only [Controller.fetchAll, hsector, hrest, hfirst,
        List.range'_succ, List.map_cons, Drive.turn]

/-- After a turn the same sector comes next. -/
theorem Facing.fetchTurn (h : Facing start i d c)
    (hdisk : d.diskette = some x) (hhead : d.headLoaded = true)
    (hsector : d.sector < sectorsPerTrack) :
    (c.fetchAll sectorsPerTrack).1 =
        (turnFrom d.sector).map (fetchedFrom x d.track)
      ∧ Facing start i d (c.fetchAll sectorsPerTrack).2 := by
  have hmod := Nat.mod_eq_of_lt hsector
  obtain ⟨hturn, hface⟩ :=
    h.fetchAll hdisk hhead hmod.symm sectorsPerTrack
  rw [Nat.add_mod_right, hmod] at hface
  exact ⟨hturn, hface⟩

theorem Facing.fetchInward (h : Facing start i d c)
    (hdisk : d.diskette = some x) (hhead : d.headLoaded = true)
    (hsector : d.sector < sectorsPerTrack) {count : Nat}
    (hcount : d.track + count < tracks) :
    (c.fetchInward count).1 =
        (List.range' d.track (count + 1)).map (fun t =>
          (turnFrom d.sector).map (fetchedFrom x t))
      ∧ Facing start i { d with track := d.track + count }
        (c.fetchInward count).2 := by
  induction count generalizing c d with
  | zero =>
      obtain ⟨hturn, hface⟩ := h.fetchTurn hdisk hhead hsector
      unfold Controller.fetchInward
      dsimp only
      rw [hturn]
      exact ⟨rfl, hface⟩
  | succ count ih =>
      obtain ⟨hturn, hface⟩ := h.fetchTurn hdisk hhead hsector
      have hstep := hface.command (by rw [hdisk]; rfl) Command.stepIn
      rw [show d.moveHead Command.stepIn = _ from
        iterate_stepIn d 1 (by omega)] at hstep
      obtain ⟨hrest, hface'⟩ := ih hstep hdisk hhead hsector
        (show d.track + 1 + count < tracks by omega)
      rw [Nat.add_assoc, Nat.add_comm 1] at hface'
      refine ⟨?_, hface'⟩
      rw [List.range'_succ, List.map_cons]
      unfold Controller.fetchInward
      dsimp only
      rw [hturn, hrest]

theorem fetchDisk_eq (hc : c.WellFormed) (hx : c.diskette? i = some x) :
    ∃ first, (c.fetchDisk i).1 = (List.range' 0 tracks).map (fun t =>
          (turnFrom first).map (fetchedFrom x t))
      ∧ ∀ j, (c.fetchDisk i).2.diskette? j = c.diskette? j := by
  obtain ⟨d, hd, hdisk⟩ := diskette?_eq_some.mp hx
  have hi : i < 16 := Nat.lt_of_lt_of_le (lt_of_drive? hd) hc.drives_le
  have hwf := hc.drives i d hd
  have hseek := facing_seekTrack hi hd (by rw [hdisk]; rfl) hwf
    (show 0 < tracks by decide)
  obtain ⟨hcopied, hface⟩ := hseek.fetchInward hdisk rfl hwf.sector_lt
    (show 0 + (tracks - 1) < tracks by decide)
  refine ⟨d.sector, hcopied, fun j => ?_⟩
  by_cases hj : j = i
  · subst hj
    rw [hx]
    exact diskette?_eq_some.mpr ⟨_, hface.drive, hdisk⟩
  · exact congrArg (·.bind (·.diskette)) (hface.others j hj)

/-! ## Nothing is noted -/

theorem journal_select (value : UInt8) :
    (c.select value).journal = c.journal :=
  (journal_act c (.select value)).trans Array.append_empty

theorem journal_iterate_command (value : UInt8) (n : Nat) :
    ((·.command value)^[n] c).journal = c.journal := by
  induction n generalizing c with
  | zero => rfl
  | succ n ih => exact ih.trans (journal_command value)

theorem journal_seekTrack (track : Nat) :
    (c.seekTrack i track).journal = c.journal := by
  unfold seekTrack
  dsimp only
  rw [journal_iterate_command, journal_iterate_command, journal_command,
    journal_select]

theorem journal_readAll (count : Nat) :
    (c.readAll count).2.journal = c.journal := by
  induction count generalizing c with
  | zero => rfl
  | succ count ih => exact ih.trans journal_readData

theorem journal_fetchAll (count : Nat) :
    (c.fetchAll count).2.journal = c.journal := by
  induction count generalizing c with
  | zero => rfl
  | succ count ih =>
      unfold Controller.fetchAll Controller.fetch
      dsimp only
      rw [ih, journal_readAll, journal_querySector]

theorem journal_fetchInward (count : Nat) :
    (c.fetchInward count).2.journal = c.journal := by
  induction count generalizing c with
  | zero =>
      unfold Controller.fetchInward
      dsimp only
      rw [journal_fetchAll]
  | succ count ih =>
      unfold Controller.fetchInward
      dsimp only
      rw [ih, journal_command, journal_fetchAll]

theorem journal_fetchDisk : (c.fetchDisk i).2.journal = c.journal :=
  (journal_fetchInward _).trans (journal_seekTrack 0)

/-! ## The whole of it -/

/-- After any run, a diskette can be read whole. From each of the tracks come
as many sectors as it has, one of each number and of the full length. Put where
their numbers say, they give the image, whatever was there before; where the
image ends early, there are zeros. No diskette is changed by it, nothing is
committed, and nothing is noted for the host. -/
theorem fetchDisk_run {count : Nat} {actions : List Action} {drive : Nat}
    {x : Diskette}
    (hx : ((ofDrives count).run actions).diskette? drive = some x) :
    let c := (ofDrives count).run actions
    let copied := (c.fetchDisk drive).1
    let c' := (c.fetchDisk drive).2
    copied.length = tracks
      ∧ (∀ sectors ∈ copied, (sectors.map (·.told)).Perm
          ((List.range sectorsPerTrack).map sectorByte))
      ∧ (∀ sectors ∈ copied, ∀ sector ∈ sectors,
          sector.bytes.length = sectorSize)
      ∧ (∀ image : Bytes, image.size = diskSize →
          assemble 0 image copied = padded x.bytes)
      ∧ (∀ j, c'.diskette? j = c.diskette? j)
      ∧ c'.journal = c.journal := by
  intro c copied c'
  obtain ⟨first, hcopied, hsame⟩ :=
    fetchDisk_eq (wellFormed_run count actions).2 hx
  replace hcopied : copied = _ := hcopied
  have hturn {sectors : List Fetched} (hmem : sectors ∈ copied) :
      ∃ t, sectors = (turnFrom first).map (fetchedFrom x t) := by
    rw [hcopied] at hmem
    obtain ⟨t, -, rfl⟩ := List.mem_map.mp hmem
    exact ⟨t, rfl⟩
  refine ⟨?_, fun sectors hmem => ?_, fun sectors hmem sector hin => ?_,
    fun image hsize => ?_, hsame, journal_fetchDisk⟩
  · rw [hcopied, List.length_map, List.length_range']
  · obtain ⟨t, rfl⟩ := hturn hmem
    rw [List.map_map]
    exact (perm_turnFrom first).map sectorByte
  · obtain ⟨t, rfl⟩ := hturn hmem
    obtain ⟨s, -, rfl⟩ := List.mem_map.mp hin
    exact (List.length_map _).trans List.length_range
  · rw [hcopied]
    exact assemble_disk hsize

/-- A diskette of two bytes, read while another one is about to be written and
its own head is further in. -/
theorem fetchDisk_run_short :
    let x : Diskette := { bytes := #[0xE5, 0x1A] }
    let actions : List Action :=
      [.mount 0 { bytes := Array.replicate 137 0 }, .mount 1 x, .select 1,
        .command Command.stepIn, .querySector, .select 0,
        .command Command.loadHead, .querySector,
        .command Command.enableWriting, .writeData 0x20]
    let c := (ofDrives 2).run actions
    let copied := (c.fetchDisk 1).1
    let c' := (c.fetchDisk 1).2
    c.diskette? 1 = some x
      ∧ copied.length = tracks
      ∧ (∀ sectors ∈ copied, (sectors.map (·.told)).Perm
          ((List.range sectorsPerTrack).map sectorByte))
      ∧ (∀ sectors ∈ copied, ∀ sector ∈ sectors,
          sector.bytes.length = sectorSize)
      ∧ (∀ image : Bytes, image.size = diskSize →
          assemble 0 image copied = padded x.bytes)
      ∧ (∀ j, c'.diskette? j = c.diskette? j)
      ∧ c'.journal = c.journal :=
  ⟨rfl, fetchDisk_run rfl⟩

end Controller

end Floppy

end S100
