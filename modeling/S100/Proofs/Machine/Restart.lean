import S100.Proofs.Floppy.Renewal
import S100.Proofs.Machine.Requests

/-!
# What is left after a reset

A reset is to bring a machine back to where it was when the power came on,
but for its memory. `renewed` is a machine that is new in this way: it has
the memory, the wiring, the console and the switches of another, a processor
that has done nothing, and a controller of its own.

A machine after a reset cannot be told from one that is renewed with its heads
where they stood, and so nothing else of what was done to it before is left.
The heads are. `reset_but_for_heads` says when a renewed machine in which the
diskettes have just been mounted can be told from it: if and only if a head
over a diskette does not stand where it does on that machine.
-/

namespace S100.Altair

open Floppy (Controller)

/-- A new machine with the memory of another, all that is plugged into it,
and a floppy controller. -/
def renewed (m : Altair) (disks : Controller) : Altair where
  bus := { m.bus with ports.devices.disks := disks }
  startAddress := m.startAddress

/-- Find out where the head of a drive is: wire two ports for it, select the
drive, and take its status and its position. -/
def probe (drive : Nat) : List Request :=
  [.wire 0x08 (some .diskSelectStatus), .wire 0x09 (some .diskFunctionSector),
    .output 0x08 (UInt8.ofNat drive), .input 0x08, .input 0x09]

theorem answers_probe (m : Altair) (drive : Nat) :
    m.answers (probe drive) =
      let selected := m.disks.select (UInt8.ofNat drive)
      [.wired (m.bus.ports.wiring.get 0x08),
        .wired (m.bus.ports.wiring.get 0x09), .done, .byte selected.status,
        .byte selected.querySector.1] := by
  obtain ⟨cpu, ⟨memory, wiring, console, switches, disks⟩, startAddress⟩ := m
  have hbefore : (wiring.set 0x08 (some .diskSelectStatus)).get 0x09 =
      wiring.get 0x09 := by
    rw [Wiring.get_set]
    rfl
  have hstatus : ((wiring.set 0x08 (some .diskSelectStatus)).set 0x09
      (some .diskFunctionSector)).get 0x08 = some .diskSelectStatus := by
    rw [Wiring.get_set, Wiring.get_set]
    rfl
  have hposition : ((wiring.set 0x08 (some .diskSelectStatus)).set 0x09
      (some .diskFunctionSector)).get 0x09 = some .diskFunctionSector := by
    rw [Wiring.get_set]
    rfl
  simp only [probe, answers, respond, Ports.wire, mapPorts, Bus.output,
    Ports.output, Bus.input, Ports.input, hbefore, hstatus, hposition,
    Devices.output, Devices.input]
  rfl

variable {m : Altair}

/-- A reset comes to a renewed machine with the heads where they stand. -/
theorem sameButDisks_reset (m : Altair) :
    m.reset.SameButDisks m.disks.journal #[]
      (m.renewed m.disks.renewedInPlace) where
  cpu := rfl
  bus := ⟨rfl, rfl, rfl, rfl, m.disks.sameBut_reset⟩
  startAddress := rfl

theorem indistinguishable_inPlace (m : Altair) :
    Indistinguishable m.reset (m.renewed m.disks.renewedInPlace) := by
  refine SameButDisks.indistinguishable ?_
  have hnew : (m.renewed m.disks.renewedInPlace).disks.journal = #[] :=
    congrArg Controller.journal m.disks.renewedInPlace_eq
  rw [hnew]
  exact m.sameButDisks_reset

/-- Where a head stands over a diskette can be found out. -/
theorem rewound_of_indistinguishable (h : m.disks.WellFormed)
    (hsame : Indistinguishable m.reset (m.renewed m.disks.renewed)) :
    m.disks.Rewound := by
  intro i d hd hdisk
  have hi : i < 16 :=
    Nat.lt_of_lt_of_le (Controller.lt_of_drive? hd) h.drives_le
  have hraised : m.reset.disks.drive? i =
      some { d with headLoaded := false } := by
    show m.disks.reset.drive? i = _
    rw [Controller.drive?_reset, hd]
    rfl
  have hmounted : (m.renewed m.disks.renewed).disks.drive? i =
      some { diskette := d.diskette } := by
    show m.disks.renewed.drive? i = _
    rw [Controller.drive?_renewed ⟨h.drives_pos, h.drives_le⟩, hd]
    rfl
  have hquiet : (m.renewed m.disks.renewed).disks.interruptsEnabled = false :=
    congrArg Controller.interruptsEnabled m.disks.renewed_eq
  obtain ⟨hanswers, -⟩ := hsame (probe i)
  rw [answers_probe, answers_probe] at hanswers
  dsimp only at hanswers
  rw [Controller.status_select hi hraised hdisk rfl rfl,
    Controller.status_select hi hmounted hdisk rfl hquiet,
    Controller.querySector_select hi hraised hdisk,
    Controller.querySector_select hi hmounted hdisk] at hanswers
  simp only [List.cons.injEq, Answer.byte.injEq] at hanswers
  obtain ⟨-, -, -, htrack, hsector, -⟩ := hanswers
  exact ⟨Controller.eq_zero_of_restingStatus htrack,
    Controller.sectorByte_inj (h.drives i d hd).sector_lt (by decide) hsector⟩

/-- Whatever has been done to a machine with a controller of some drives, and
whatever writes it has still noted for the host: a reset makes of it what
nothing can tell from a new machine with the same memory and the same things
plugged in, in which the same diskettes have been mounted and the heads stand
where they stood. It cannot be told from one in which the diskettes have just
been mounted if, and only if, every head over a diskette stands at the first
track, before the first sector. -/
theorem reset_but_for_heads (start : Altair) (count : Nat)
    (used : List Floppy.Action) (journal : Array FileWrite) :
    let disks : Controller :=
      { (Controller.ofDrives count).run used with journal }
    let m := start.mapDisks fun _ => disks
    Indistinguishable m.reset (m.renewed disks.renewedInPlace)
    ∧ (Indistinguishable m.reset (m.renewed disks.renewed) ↔
        disks.Rewound) := by
  intro disks m
  have hordered : disks.WellFormed := by
    obtain ⟨-, h⟩ := Controller.wellFormed_run count used
    exact h.withJournal journal
  refine ⟨m.indistinguishable_inPlace, ?_⟩
  constructor
  · intro hsame
    exact rewound_of_indistinguishable (m := m) hordered hsame
  · intro hrewound
    have hinPlace := m.indistinguishable_inPlace
    rwa [show m.disks.renewedInPlace = disks.renewed from
      Controller.renewedInPlace_of_rewound hordered hrewound] at hinPlace

/-- A head that was stepped in is not at the first track after a reset, and it
is in a machine in which the diskette has just been mounted. -/
theorem reset_leaves_track :
    let start : Altair := { bus := { memory := .ofSize addressSpace } }
    let m := start.after
      [.mount 0 { bytes := #[] }, .output 0x08 0, .output 0x09 0x01]
    let requests : List Request := [.output 0x08 0, .input 0x08]
    m.reset.answers requests = [.done, .byte 0xFD]
    ∧ (m.renewed m.disks.renewed).answers requests = [.done, .byte 0xBD] := by
  decide +kernel

end S100.Altair
