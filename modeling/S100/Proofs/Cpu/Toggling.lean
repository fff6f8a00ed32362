import S100.Cpu.FrontPanel
import S100.Proofs.Cpu.Plant
import S100.Proofs.Memory.Loading

/-!
# Toggling in

Without a loader a program is put into memory by hand: its address is examined,
then its bytes are set on the switches one after the other and deposited. That
is `toggleIn`, and it leaves memory as a loader does that copies them in one
piece (`toggleIn_eq_load`), whatever the memory is populated with. Going over
them again with the panel (`lookOver`) shows them on the lights.

The bytes find their places by two different ways. A byte that is deposited
past the populated memory is dropped there; an image is cut off before it is
copied. `Memory.load_cons` says that it comes to the same for the first byte,
and the rest follows by induction on the bytes, the current address going
along.
-/

namespace S100

theorem toNat_add_one_le (w : UInt16) : (w + 1).toNat ≤ w.toNat + 1 := by
  rw [UInt16.toNat_add]
  exact Nat.mod_le _ _

namespace Cpu

/-! ## At the panel -/

/-- Deposit bytes, each at the address after the one before. -/
def depositAll (cpu : Cpu) : List UInt8 → Dialogue Cpu
  | [] => return cpu
  | value :: rest => do
    let cpu ← cpu.depositNext value
    cpu.depositAll rest

/-- Examine an address, and deposit bytes from there on. -/
def toggleIn (cpu : Cpu) (address : UInt16) (bytes : List UInt8) :
    Dialogue Cpu := do
  let cpu ← cpu.examine address
  cpu.depositAll bytes

/-- Examine an address, and then so many of the next. -/
def lookOver (cpu : Cpu) (address : UInt16) : Nat → Dialogue Cpu
  | 0 => cpu.examine address
  | count + 1 => do
    let cpu ← cpu.lookOver address count
    cpu.examineNext

variable {π : Type} [PortDevice π]

theorem run_depositAll (cpu : Cpu) (plant : Plant π) (bytes : List UInt8)
    (h : cpu.lights.address.toNat + bytes.length ≤ addressSpace) :
    (cpu.depositAll bytes).run plant =
      ({ cpu with
          lights := ⟨cpu.lights.address + UInt16.ofNat bytes.length,
            bytes.getLast?.getD cpu.lights.data⟩ },
        { plant with
          memory := plant.memory.load cpu.lights.address bytes.toArray }) := by
  induction bytes generalizing cpu plant with
  | nil =>
      rw [Memory.load_nil]
      show (cpu, plant) = _
      simp
  | cons value rest ih =>
      have hnext : (cpu.lights.address + 1).toNat + rest.length
          ≤ addressSpace := by
        rw [List.length_cons] at h
        have := toNat_add_one_le cpu.lights.address
        omega
      have hrest := ih { cpu with lights := ⟨cpu.lights.address + 1, value⟩ }
        { plant with memory := plant.memory.write cpu.lights.address value }
        hnext
      have hcount : cpu.lights.address + 1 + UInt16.ofNat rest.length =
          cpu.lights.address + UInt16.ofNat (value :: rest).length := by
        rw [List.length_cons, Nat.add_comm, UInt16.ofNat_add, ← UInt16.add_assoc]
        rfl
      have hlast : rest.getLast?.getD value =
          (value :: rest).getLast?.getD cpu.lights.data := by
        rw [List.getLast?_cons]
        rfl
      rw [hcount, hlast, Memory.load_cons plant.memory value h] at hrest
      exact hrest

theorem run_toggleIn (cpu : Cpu) (plant : Plant π) {address : UInt16}
    {bytes : List UInt8}
    (h : address.toNat + bytes.length ≤ addressSpace) :
    (cpu.toggleIn address bytes).run plant =
      ({ cpu with
          regs.pc := address, halted := false
          lights := ⟨UInt16.ofNat (address.toNat + bytes.length),
            bytes.getLast?.getD (plant.memory.read address)⟩ },
        { plant with
          memory := plant.memory.load address bytes.toArray }) := by
  have hpanel : address + UInt16.ofNat bytes.length =
      UInt16.ofNat (address.toNat + bytes.length) := by
    rw [UInt16.ofNat_add, UInt16.ofNat_toNat]
  rw [← hpanel]
  exact run_depositAll
    { cpu with
      regs.pc := address, halted := false
      lights := ⟨address, plant.memory.read address⟩ } plant bytes h

/-- What is shown when the panel has gone on from an address. -/
theorem run_lookOver (cpu : Cpu) (plant : Plant π) (address : UInt16)
    (count : Nat) :
    let shown := address + UInt16.ofNat count
    (cpu.lookOver address count).run plant =
      ({ cpu with
          regs.pc := address, halted := false
          lights := ⟨shown, plant.memory.read shown⟩ }, plant) := by
  induction count with
  | zero =>
      have haddress : address + UInt16.ofNat 0 = address := UInt16.add_zero _
      dsimp only
      rw [haddress]
      rfl
  | succ count ih =>
      dsimp only at ih ⊢
      rw [offset_succ, lookOver, Dialogue.run_bind, ih]
      rfl

/-- Bytes toggled in from an address on leave memory as it is when they are
loaded there, and the processor at their beginning, with nothing else of it
changed. Each of them is shown when the panel goes over them; where memory is
not populated it shows 0. -/
theorem toggleIn_eq_load (cpu : Cpu) (plant : Plant π) {address : UInt16}
    {bytes : List UInt8}
    (h : address.toNat + bytes.length ≤ addressSpace) :
    let held := (cpu.toggleIn address bytes).run plant
    held.2 = { plant with
        memory := plant.memory.load address bytes.toArray }
      ∧ held.1 = { cpu with
        regs.pc := address, halted := false
        lights := ⟨UInt16.ofNat (address.toNat + bytes.length),
          bytes.getLast?.getD (plant.memory.read address)⟩ }
      ∧ ∀ i (hi : i < bytes.length),
        let seen := (held.1.lookOver address i).run held.2
        seen.1.lights.address.toNat = address.toNat + i
          ∧ seen.1.lights.data =
            (if address.toNat + i < plant.memory.size then bytes[i] else 0)
          ∧ seen.1.regs.pc = address ∧ seen.2 = held.2 := by
  intro held
  have hheld : held = _ := run_toggleIn cpu plant h
  have hmemory (i : Nat) (hi : i < bytes.length) :=
    Memory.read_load_offset plant.memory h hi
  rw [hheld]
  refine ⟨rfl, rfl, fun i hi => ?_⟩
  dsimp only
  rw [run_lookOver]
  exact ⟨Memory.toNat_offset (by omega), hmemory i hi, rfl, rfl⟩

/-- Three bytes on a halted machine, of which the last finds no place. -/
theorem toggleIn_eq_load_straddling :
    let cpu : Cpu := { halted := true }
    let plant : Plant Ports :=
      { memory := { bytes := #[1, 2, 3], size_le := by decide }, ports := {} }
    let bytes : List UInt8 := [0xC3, 0x01, 0x10]
    let held := (cpu.toggleIn 1 bytes).run plant
    (1 : UInt16).toNat + bytes.length ≤ addressSpace
      ∧ held.2.memory.bytes = #[1, 0xC3, 0x01]
      ∧ held.1 = { regs.pc := 1, lights := ⟨4, 0x10⟩ }
      ∧ ((held.1.lookOver 1 1).run held.2).1.lights = ⟨2, 0x01⟩
      ∧ ((held.1.lookOver 1 2).run held.2).1.lights = ⟨3, 0⟩ := by
  intro cpu plant bytes held
  have hfits : (1 : UInt16).toNat + bytes.length ≤ addressSpace := by decide
  obtain ⟨hplant, hcpu, hseen⟩ := toggleIn_eq_load cpu plant hfits
  obtain ⟨haddress, hdata, -⟩ := hseen 1 (by decide)
  obtain ⟨haddress', hdata', -⟩ := hseen 2 (by decide)
  have hlights {lights : Lights} {address : UInt16} {data : UInt8}
      (ha : lights.address.toNat = address.toNat) (hd : lights.data = data) :
      lights = ⟨address, data⟩ := by
    cases lights
    rw [Lights.mk.injEq]
    exact ⟨UInt16.toNat_inj.mp ha, hd⟩
  refine ⟨hfits, ?_, hcpu, hlights haddress hdata, hlights haddress' hdata'⟩
  rw [hplant]
  decide

end Cpu

end S100
