import S100.Proofs.Floppy.WellFormed

/-!
# Where a drive has got to

A diskette that is put into a drive is found at the first track, before the
first sector. From then on a drive's position is a matter of its own history:
it turns by one sector at each query that is made while it is selected, and its
head takes the steps that it is told to while it is selected. `position_history`
says so for every run in which the diskette stays in the drive, whatever else
is done in it.

The history of a drive is read off a run by `along`, which goes through the
actions with the controller that each of them is done to: `toldBy` is what is
answered there to a query, `commandsBy` the commands that are given. What one
action makes of the position is `Moved`; nothing but a query and a command
makes anything of it.
-/

namespace S100

namespace Floppy

/-! ## Steps -/

inductive Step where
  | inward
  | outward
deriving DecidableEq, Repr

/-- The steps that a command byte tells the head to take, in order. -/
def steps (command : UInt8) : List Step :=
  (if Command.has command Command.stepIn then [.inward] else [])
    ++ (if Command.has command Command.stepOut then [.outward] else [])

/-- The track after a step. There is none beyond the last and the first. -/
def Step.walk (track : Nat) : Step → Nat
  | .inward => if track = tracks - 1 then track else track + 1
  | .outward => if track = 0 then track else track - 1

theorem stepTrack_eq {track : Nat} (h : track < tracks) (command : UInt8) :
    stepTrack command track = (steps command).foldl Step.walk track := by
  have hinward : Step.walk track .inward =
      if track + 1 < tracks then track + 1 else track := by
    simp only [Step.walk]
    split <;> split <;> omega
  have houtward (track : Nat) : Step.walk track .outward =
      if 0 < track then track - 1 else track := by
    simp only [Step.walk]
    split <;> split <;> omega
  unfold stepTrack steps
  cases Command.has command Command.stepIn <;>
    cases Command.has command Command.stepOut <;>
    simp [hinward, houtward]

/-- The position byte, bit by bit. -/
theorem sectorByte_eq {sector : Nat} (h : sector < sectorsPerTrack) :
    sectorByte sector = (0xC0 : UInt8) ||| UInt8.ofNat sector <<< 1 := by
  have hall : ∀ s < sectorsPerTrack,
      sectorByte s = (0xC0 : UInt8) ||| UInt8.ofNat s <<< 1 := by
    decide
  exact hall sector h

/-- It is told apart from the answer of a drive without a diskette. -/
theorem sectorByte_ne_none {sector : Nat} (h : sector < sectorsPerTrack) :
    sectorByte sector ≠ 0xFF := by
  have hall : ∀ s < sectorsPerTrack, sectorByte s ≠ 0xFF := by decide
  exact hall sector h

/-! ## Histories -/

/-- Whether another diskette, or none, is put into the drive. -/
def Action.exchanges (drive : Nat) : Action → Bool
  | .mount i _ | .eject i => i == drive
  | _ => false

namespace Controller

/-- What there is of something in a run, of which there is so much in each
action, done to the controller as it is then. -/
def along {α : Type} (f : Controller → Action → List α) (c : Controller) :
    List Action → List α
  | [] => []
  | a :: rest => f c a ++ (c.act a).along f rest

/-- What a query tells while the drive is selected. -/
def toldBy (drive : Nat) (c : Controller) : Action → List UInt8
  | .querySector => if c.selected = some drive then [c.querySector.1] else []
  | _ => []

/-- The command that is given while the drive is selected. -/
def commandsBy (drive : Nat) (c : Controller) : Action → List UInt8
  | .command value => if c.selected = some drive then [value] else []
  | _ => []

variable {c : Controller} {a : Action} {d d' : Drive} {i : Nat}

/-- What an action makes of the position of a drive that holds a diskette. -/
structure Moved (i : Nat) (c : Controller) (a : Action) (d d' : Drive) :
    Prop where
  loaded : d'.diskette.isSome = true
  told : (c.toldBy i a = [] ∧ d'.sector = d.sector)
    ∨ (c.toldBy i a = [sectorByte d.sector]
      ∧ d'.sector = (d.sector + 1) % sectorsPerTrack)
  track : d'.track =
    ((c.commandsBy i a).flatMap steps).foldl Step.walk d.track

/-- Nothing, if it is neither a query nor a command. -/
theorem Moved.rest (htold : c.toldBy i a = [])
    (hcommands : c.commandsBy i a = [])
    (hloaded : d'.diskette.isSome = true) (hsector : d'.sector = d.sector)
    (htrack : d'.track = d.track) : Moved i c a d d' where
  loaded := hloaded
  told := .inl ⟨htold, hsector⟩
  track := by
    rw [hcommands]
    exact htrack

/-- A query and a command go to the selected drive only. -/
theorem drive?_onSelected {c' : Controller} {f : Drive → Drive}
    (hd : c.drive? i = some d) (hdisk : d.diskette.isSome = true)
    (hempty : c.loaded? = none → c' = c)
    (hloaded : ∀ d, c.loaded? = some d →
      c'.drives = (c.modifySelected f).drives) :
    c'.drive? i = some (if c.selected = some i then f d else d) := by
  cases h : c.loaded? with
  | none =>
      have hi : c.selected ≠ some i := fun hi =>
        nomatch h.symm.trans (loaded_of_drive hi hd hdisk)
      rw [hempty h, hd, if_neg hi]
  | some d₀ =>
      have hdrive : c'.drive? i = (c.modifySelected f).drive? i :=
        congrArg (·[i]?) (hloaded d₀ h)
      rw [hdrive, drive?_modifySelected, hd]
      split <;> rfl

theorem moved_querySector (hd : c.drive? i = some d)
    (hdisk : d.diskette.isSome = true) :
    ∃ d', c.querySector.2.drive? i = some d'
      ∧ Moved i c .querySector d d' := by
  refine ⟨_, drive?_onSelected hd hdisk (fun h => ?_)
    (fun _ => drives_querySector), ?_⟩
  · simp only [querySector, h]
  · by_cases hi : c.selected = some i
    · have htold : c.querySector.1 = sectorByte d.sector := by
        simp only [querySector, loaded_of_drive hi hd hdisk]
      rw [if_pos hi]
      refine ⟨hdisk, .inr ⟨?_, rfl⟩, rfl⟩
      rw [toldBy, if_pos hi, htold]
    · rw [if_neg hi]
      exact .rest (if_neg hi) rfl hdisk rfl rfl

theorem moved_command (hd : c.drive? i = some d)
    (hdisk : d.diskette.isSome = true) (htrack : d.track < tracks)
    (value : UInt8) :
    ∃ d', (c.command value).drive? i = some d'
      ∧ Moved i c (.command value) d d' := by
  refine ⟨_, drive?_onSelected hd hdisk (fun h => ?_)
    (fun _ h => drives_command h value), ?_⟩
  · simp only [command, h]
  · by_cases hi : c.selected = some i
    · rw [if_pos hi]
      refine ⟨hdisk, .inl ⟨rfl, rfl⟩, ?_⟩
      rw [commandsBy, if_pos hi, List.flatMap_singleton]
      exact stepTrack_eq htrack value
    · rw [if_neg hi]
      exact .rest rfl (if_neg hi) hdisk rfl rfl

theorem moved_act (hd : c.drive? i = some d)
    (hdisk : d.diskette.isSome = true) (htrack : d.track < tracks)
    (ha : a.exchanges i = false) :
    ∃ d', (c.act a).drive? i = some d' ∧ Moved i c a d d' := by
  cases a with
  | querySector => exact moved_querySector hd hdisk
  | command value => exact moved_command hd hdisk htrack value
  | mount j x =>
      have hj : j ≠ i := beq_eq_false_iff_ne.mp ha
      refine ⟨d, ?_, .rest rfl rfl hdisk rfl rfl⟩
      rw [drive?_mount, if_neg hj, hd]
  | eject j =>
      have hj : j ≠ i := beq_eq_false_iff_ne.mp ha
      refine ⟨d, ?_, .rest rfl rfl hdisk rfl rfl⟩
      rw [drive?_eject, if_neg hj, hd]
  | writeData value =>
      obtain ⟨d', hd', hchange⟩ := change_act (.writeData value) hd
      refine ⟨d', hd', ?_⟩
      cases hchange with
      | rest => exact .rest rfl rfl hdisk rfl rfl
      | store =>
          refine .rest rfl rfl ?_ (sector_store ..) (track_store ..)
          rw [diskette_store, Option.isSome_map]
          exact hdisk
  | reset =>
      exact ⟨_, (drive?_reset i).trans (congrArg _ hd),
        .rest rfl rfl hdisk rfl rfl⟩
  | _ =>
      obtain ⟨d', hd', hchange⟩ := change_act _ hd
      refine ⟨d', hd', ?_⟩
      cases hchange
      exact .rest rfl rfl hdisk rfl rfl

/-- A drive that holds a diskette turns by one sector at each query and takes
the steps it is told to, all through a run that leaves the diskette in it. -/
theorem run_position {later : List Action} (hd : c.drive? i = some d)
    (hdisk : d.diskette.isSome = true) (hwf : d.WellFormed)
    (hlater : ∀ a ∈ later, a.exchanges i = false) :
    (∀ n told, (c.along (toldBy i) later)[n]? = some told →
        told = sectorByte ((d.sector + n) % sectorsPerTrack))
      ∧ ∃ d', (c.run later).drive? i = some d'
        ∧ d'.track = ((c.along (commandsBy i) later).flatMap steps).foldl
          Step.walk d.track := by
  induction later generalizing c d with
  | nil => exact ⟨nofun, d, hd, rfl⟩
  | cons a rest ih =>
      obtain ⟨d', hd', hmoved⟩ :=
        moved_act hd hdisk hwf.track_lt (hlater a (List.mem_cons_self ..))
      have hwf' : d'.WellFormed := by
        obtain ⟨d₀, hd₀, hchange⟩ := exists_change hd'
        rw [hd, Option.some.injEq] at hd₀
        exact (hd₀ ▸ hwf).change hchange
      obtain ⟨htold, d'', hd'', htrack⟩ := ih hd' hmoved.loaded hwf'
        fun b hb => hlater b (List.mem_cons_of_mem a hb)
      refine ⟨fun n told hn => ?_, d'', hd'', ?_⟩
      · rw [along] at hn
        rcases hmoved.told with ⟨hnone, hsector⟩ | ⟨hone, hsector⟩
        · rw [hnone, List.nil_append] at hn
          rw [← hsector]
          exact htold n told hn
        · rw [hone] at hn
          cases n with
          | zero =>
              have hfirst : sectorByte d.sector = told := Option.some.inj hn
              rw [Nat.add_zero, Nat.mod_eq_of_lt hwf.sector_lt, hfirst]
          | succ n =>
              rw [htold n told hn, hsector, Nat.mod_add_mod, Nat.add_assoc,
                Nat.add_comm 1]
      · rw [along, List.flatMap_append, List.foldl_append, ← hmoved.track]
        exact htrack

/-- From a diskette being put into a drive until another is, or it is taken
out, whatever is done in between: the drive tells at the first query that is
made while it is selected that the first sector comes by, and at each further
one the next, round after round; and its head is where the steps lead that it
was told to take while it was selected. -/
theorem position_history (c : Controller) {drive : Nat}
    (hdrive : drive < c.driveCount) (x : Diskette) {later : List Action}
    (hlater : ∀ a ∈ later, a.exchanges drive = false) :
    let mounted := c.act (.mount drive x)
    (∀ n told, (mounted.along (toldBy drive) later)[n]? = some told →
        told = (0xC0 : UInt8) ||| UInt8.ofNat (n % 32) <<< 1 ∧ told ≠ 0xFF)
      ∧ ∃ d, (mounted.run later).drive? drive = some d
        ∧ d.track = ((mounted.along (commandsBy drive) later).flatMap
          steps).foldl Step.walk 0 := by
  intro mounted
  obtain ⟨d, hd⟩ := exists_drive? hdrive
  have hmounted : mounted.drive? drive = some (d.insert x) := by
    rw [drive?_mount, if_pos rfl, hd]
    rfl
  obtain ⟨htold, hrun⟩ :=
    run_position hmounted rfl Drive.WellFormed.rewind hlater
  refine ⟨fun n told hn => ?_, hrun⟩
  have hlt : n % sectorsPerTrack < sectorsPerTrack := Nat.mod_lt _ (by decide)
  have hfirst : (d.insert x).sector + n = n := Nat.zero_add n
  rw [htold n told hn, hfirst]
  exact ⟨sectorByte_eq hlt, sectorByte_ne_none hlt⟩

/-- Two queries of the second drive with a reset and another drive's query
between them, and two commands, of which the first goes in and out again. -/
theorem position_history_second_drive :
    let x : Diskette := { bytes := #[] }
    let later : List Action :=
      [.select 1, .command 0x07, .querySector, .mount 0 x, .select 0,
        .command Command.stepIn, .querySector, .reset, .select 1,
        .querySector, .command Command.stepIn]
    let mounted := (ofDrives 2).act (.mount 1 x)
    1 < (ofDrives 2).driveCount
      ∧ (∀ a ∈ later, a.exchanges 1 = false)
      ∧ mounted.along (toldBy 1) later = [0xC0, 0xC2]
      ∧ mounted.along (commandsBy 1) later = [0x07, 0x01]
      ∧ ∃ d, (mounted.run later).drive? 1 = some d ∧ d.track = 1 := by
  intro x later mounted
  have hdrive : 1 < (ofDrives 2).driveCount := by decide
  have hlater : ∀ a ∈ later, a.exchanges 1 = false := by decide
  obtain ⟨htold, hrun⟩ := position_history (ofDrives 2) hdrive x hlater
  have hlength : (mounted.along (toldBy 1) later).length = 2 := by
    decide +kernel
  have hcommands : mounted.along (commandsBy 1) later = [0x07, 0x01] := by
    decide +kernel
  obtain ⟨d, hd, htrack⟩ := hrun
  refine ⟨hdrive, hlater, ?_, hcommands, d, hd, htrack.trans ?_⟩
  · generalize mounted.along (toldBy 1) later = told at hlength htold ⊢
    match told, hlength with
    | [first, second], _ =>
        rw [(htold 0 first rfl).1, (htold 1 second rfl).1]
        decide
  · rw [hcommands]
    decide

end Controller

end Floppy

end S100
