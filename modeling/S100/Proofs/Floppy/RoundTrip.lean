import S100.Proofs.Floppy.Procedures

/-!
# A sector written and read back

The one thing a program wants of a diskette is that what it wrote into a
sector can be read from it again. `storeAndFetch` is how a program does
both at the ports, and `storeAndFetch_run` says that it can begin at any
time: whatever transfer, selection, head position or write mode a run has
left behind, the bytes come back, and nothing else on any diskette has
changed.
-/

namespace S100

namespace Floppy

namespace Controller

/-- Write a sector, then wait for it to come by again and read it. Each
time the program waits for no longer than one turn. -/
def storeAndFetch (drive track sector : Nat) (data : List UInt8)
    (c : Controller) : Option (List UInt8 × Controller) := do
  let c ← (c.seekTrack drive track).await sector sectorsPerTrack
  let c := (c.command Command.enableWriting).writeAll data
  let c ← c.await sector sectorsPerTrack
  return c.readAll sectorSize

variable {c : Controller} {i : Nat}

/-- What is read of a filled sector. -/
theorem map_read_fill (x : Diskette) (offset : Nat) (data : List UInt8)
    (hwritable : x.writeProtected = false)
    (hfits : offset + data.length ≤ x.size) :
    (List.range data.length).map (fun k =>
      ((x.fill offset data).read (offset + k)).getD 0) = data := by
  refine List.ext_getElem (by simp) fun k hk hk' => ?_
  simp only [List.getElem_map, List.getElem_range]
  rw [x.read_fill offset _ data hwritable hfits, if_pos (by omega),
    Nat.add_sub_cancel_left, List.getElem?_eq_getElem hk']
  rfl

theorem storeAndFetch_eq {x : Diskette} {track sector : Nat}
    {data : List UInt8} (hc : c.WellFormed) (hx : c.diskette? i = some x)
    (hwritable : x.writeProtected = false) (ht : track < tracks)
    (hs : sector < sectorsPerTrack)
    (hfits : sectorOffset track sector + sectorSize ≤ x.size)
    (hlength : data.length = sectorSize) :
    ∃ c', c.storeAndFetch i track sector data = some (data, c')
      ∧ c'.phase = .selected
      ∧ c'.diskette? i = some
          ((x.fill (sectorOffset track sector) data).commit
            ⟨sectorOffset track sector,
              sectorOffset track sector + sectorSize⟩)
      ∧ ∀ j, j ≠ i → c'.drive? j = c.drive? j := by
  obtain ⟨d, hd, hdisk⟩ := diskette?_eq_some.mp hx
  have hi : i < 16 := Nat.lt_of_lt_of_le (lt_of_drive? hd) hc.drives_le
  have hwf := hc.drives i d hd
  have hsome : d.diskette.isSome = true := by
    rw [hdisk]
    rfl
  have hnext : (sector + 1) % sectorsPerTrack < sectorsPerTrack :=
    Nat.mod_lt _ (by decide)
  have hne : data ≠ [] := by
    rintro rfl
    cases hlength
  obtain ⟨c₁, hawait₁, hface₁, hunder₁⟩ :=
    (facing_seekTrack hi hd hsome hwf ht).await_turn hsome rfl
      hwf.sector_lt hs
  obtain ⟨hface₂, hunder₂⟩ := hface₁.enableWriting hsome hunder₁
  obtain ⟨hface₃, -⟩ :=
    hface₂.writeAll hdisk rfl hunder₂ hne (by omega)
  obtain ⟨c₄, hawait₄, hface₄, hunder₄⟩ :=
    hface₃.await_turn rfl rfl hnext hs
  obtain ⟨hbytes, hface₅, hphase⟩ :=
    hface₄.readAll rfl rfl hunder₄ (show 0 < sectorSize by decide) (by omega)
  generalize hread : c₄.readAll sectorSize = fetched
    at hbytes hface₅ hphase
  obtain ⟨bytes, c'⟩ := fetched
  have hdata : bytes = data := by
    refine hbytes.trans ?_
    rw [← hlength]
    exact map_read_fill x _ data hwritable (by rwa [hlength])
  subst hdata
  refine ⟨c', ?_, hphase, diskette?_eq_some.mpr ⟨_, hface₅.drive, rfl⟩,
    hface₅.others⟩
  simp only [storeAndFetch, hawait₁, hawait₄, Option.bind_eq_bind,
    Option.bind_some, hread]
  rfl

/-- After any run, a sector of a writable diskette can be written and read
back: each wait ends within a turn, what is read is what was written, the
sector is committed once, and no other byte of this or any other diskette
changes. -/
theorem storeAndFetch_run {count : Nat} {actions : List Action}
    {drive track sector : Nat} {x : Diskette} {data : List UInt8}
    (hx : ((ofDrives count).run actions).diskette? drive = some x)
    (hwritable : x.writeProtected = false) (ht : track < tracks)
    (hs : sector < sectorsPerTrack)
    (hfits : sectorOffset track sector + sectorSize ≤ x.size)
    (hlength : data.length = sectorSize) :
    let c := (ofDrives count).run actions
    let offset := sectorOffset track sector
    ∃ c', c.storeAndFetch drive track sector data = some (data, c')
      ∧ c'.phase = .selected
      ∧ c'.diskette? drive = some
          { x with
            bytes := overlay x.bytes offset data.toArray
            committed := x.committed.push ⟨offset, offset + sectorSize⟩ }
      ∧ ∀ other, other ≠ drive → c'.diskette? other = c.diskette? other := by
  obtain ⟨c', hrun, hphase, hdisk, hothers⟩ :=
    storeAndFetch_eq (wellFormed_run count actions).2 hx hwritable ht hs hfits
      hlength
  refine ⟨c', hrun, hphase, ?_, fun other hne => ?_⟩
  · rw [hdisk, x.fill_eq_overlay _ data hwritable]
    rfl
  · rw [diskette?, diskette?, hothers other hne]

/-- The second sector of a diskette of two, when the first is about to be
written. -/
theorem storeAndFetch_run_second :
    let x : Diskette := { bytes := Array.replicate 274 0 }
    let actions : List Action :=
      [.mount 1 x, .select 1, .command Command.loadHead, .querySector,
        .command Command.enableWriting]
    let c := (ofDrives 2).run actions
    let data := List.replicate sectorSize 0x20
    c.diskette? 1 = some x ∧ x.size = 274
      ∧ ∃ c', c.storeAndFetch 1 0 1 data = some (data, c')
        ∧ c'.phase = .selected
        ∧ c'.diskette? 1 = some
            { x with
              bytes := overlay x.bytes 137 data.toArray
              committed := #[⟨137, 274⟩] }
        ∧ ∀ other, other ≠ 1 → c'.diskette? other = c.diskette? other :=
  ⟨rfl, Array.size_replicate,
    storeAndFetch_run rfl rfl (by decide) (by decide)
      (Nat.le_of_eq Array.size_replicate.symm) List.length_replicate⟩

end Controller

end Floppy

end S100
