import S100.Proofs.Checked.Backplane
import S100.Proofs.Checked.Processor
import S100.Proofs.Machine.Operations

/-!
# Emulation never traps

What is done to a machine while it runs is an `Operation`: a step, something
at the front panel, an image that the host loads, an access of the host to the
floppy controller. `perform` is what it comes to on a host, where it may trap,
and `Machine.perform` what it comes to here, where it cannot.

All that is asked of a machine is that its controller is in order, and every
operation leaves it so (`perform_eq`). The registers, the memory and its size,
the wiring, the console and the diskettes may be anything. A controller that
was made empty is in order whatever was done to it before, and so no sequence
of operations on any machine with such a controller traps
(`emulation_never_traps`).
-/

namespace S100

namespace Machine

/-- Something that is done to a machine while it is in use. -/
inductive Operation where
  | step
  | examine (address : UInt16)
  | examineNext
  | deposit (data : UInt8)
  | depositNext (data : UInt8)
  | reset
  | load (address : UInt16) (image : HostImage)
  | wire (port : UInt8) (function : Option PortFunction)
  | disk (action : Floppy.Action)

/-- Put another controller in the place of the one in the machine. -/
def withDisks (m : Machine) (disks : Floppy.Controller) : Machine :=
  m.mapDevices ({ · with disks })

def perform (m : Machine) : Operation → Machine
  | .step => m.step.2
  | .examine address => m.examine address
  | .examineNext => m.panel m.cpu.examineNext
  | .deposit data => m.panel (m.cpu.deposit data)
  | .depositNext data => m.panel (m.cpu.depositNext data)
  | .reset => m.reset
  | .load address image => m.load address image.bytes
  | .wire port function => m.mapPorts fun p => (p.wire port function).2
  | .disk action => m.withDisks (m.devices.disks.act action)

@[simp] theorem disks_withDisks (m : Machine) (disks : Floppy.Controller) :
    (m.withDisks disks).devices.disks = disks := by
  cases m <;> rfl

end Machine

namespace Checked

open Floppy

/-! ## Operations -/

/-- Hold a guarded dialogue of the front panel. -/
def panel (m : Machine) (g : Guarded Cpu) : Checked Machine := do
  let (cpu, bus) ← hold g.run m.bus
  return m.put cpu bus

def writeWordTo (m : Memory) (address value : UInt16) : Checked Memory := do
  let high ← highByte value
  return (m.write address (lowByte value)).write (address + 1) high

/-- A reset of the CP/M runner, which computes where the address of the
program area's end and the return address have their places. -/
def resetCpm (m : Cpm) : Checked Machine := do
  let disks := m.bus.ports.devices.disks.reset
  let memory := m.bus.memory.write 0x0000 Cpm.haltOpcode
    |>.write Cpm.systemEntry Cpm.returnOpcode
  let vector ← add 16 Cpm.systemEntry.toNat 1
  let memory ← writeWordTo memory (UInt16.ofNat vector) Cpm.programTop
  let top ← sub Cpm.programTop.toNat 2
  let memory ← writeWordTo memory (UInt16.ofNat top) 0
  let bus := { m.bus with memory, ports.devices.disks := disks }
  let cpu : Cpu := { regs.sp := UInt16.ofNat top }
  panel (.cpm { cpu, bus }) (liftM (cpu.examine Cpm.programStart))

/-- An operation on a host. -/
def perform (m : Machine) : Machine.Operation → Checked Machine
  | .step => do
    let ((_, cpu), bus) ← hold (step m.cpu).run m.attended
    return m.put cpu bus
  | .examine address => panel m (liftM (m.cpu.examine address))
  | .examineNext => panel m (liftM m.cpu.examineNext)
  | .deposit data => panel m (liftM (m.cpu.deposit data))
  | .depositNext data => panel m (liftM (m.cpu.depositNext data))
  | .reset =>
    match m with
    | .altair m => .ok (.altair m.reset)
    | .cpm m => resetCpm m
  | .load address image => do
    let (_, memory) ← load m.bus.memory address image
    return m.put m.cpu { m.bus with memory }
  | .wire port function => do
    let _ ← wired m.bus.ports.wiring port
    return m.mapPorts fun p => (p.wire port function).2
  | .disk action => do
    let disks ← act m.devices.disks action
    return m.withDisks disks

/-! ## What they come to -/

section

variable {m : Machine}

/-- The host's print does not reach the controller. -/
theorem disks_attended (m : Machine) :
    m.attended.ports.devices.disks = m.devices.disks := by
  cases m with
  | altair m => rfl
  | cpm m =>
      rw [Machine.attended]
      split <;> rfl

theorem disks_put (m : Machine) (cpu : Cpu) (bus : Backplane) :
    (m.put cpu bus).devices.disks = bus.ports.devices.disks := by
  rw [Machine.devices, Machine.bus_put]

theorem panel_lift_eq (h : m.devices.disks.WellFormed) (d : Dialogue Cpu) :
    panel m (liftM d) = .ok (m.panel d)
      ∧ (m.panel d).devices.disks.WellFormed := by
  have hbus : m.bus.ports.devices.disks.WellFormed := h
  obtain ⟨hheld, hkept⟩ := hold_eq (.lift d) hbus
  rw [Machine.panel_eq, disks_put]
  refine ⟨?_, hkept⟩
  rw [panel, hheld]
  rfl

theorem step_eq (h : m.devices.disks.WellFormed) :
    perform m .step = .ok m.step.2 ∧ m.step.2.devices.disks.WellFormed := by
  rw [← disks_attended] at h
  obtain ⟨hheld, hkept⟩ := hold_eq (safe_step m.cpu) h
  rw [Machine.step_eq, disks_put]
  refine ⟨?_, hkept⟩
  rw [perform, hheld]
  rfl

theorem writeWordTo_eq (memory : Memory) (address value : UInt16) :
    writeWordTo memory address value =
      .ok (memory.writeWord address value) := by
  rw [writeWordTo, highByte_eq]
  rfl

theorem reset_eq (h : m.devices.disks.WellFormed) :
    perform m .reset = .ok m.reset ∧ m.reset.devices.disks.WellFormed := by
  cases m with
  | altair m => exact ⟨rfl, h.act .reset⟩
  | cpm m =>
      rw [perform, resetCpm, add_eq (by decide), ok_bind, writeWordTo_eq,
        ok_bind, sub_eq (by decide), ok_bind, writeWordTo_eq, ok_bind]
      have hreset : m.bus.ports.devices.disks.reset.WellFormed := h.act .reset
      exact panel_lift_eq
        (m := .cpm
          { cpu := _
            bus := { m.bus with
              memory := _
              ports.devices.disks := m.bus.ports.devices.disks.reset } })
        hreset _

theorem perform_load_eq (h : m.devices.disks.WellFormed) (address : UInt16)
    (image : HostImage) :
    perform m (.load address image) = .ok (m.load address image.bytes)
      ∧ (m.load address image.bytes).devices.disks.WellFormed := by
  rw [perform, load_eq, ok_bind]
  cases m <;> exact ⟨rfl, h⟩

theorem perform_wire_eq (h : m.devices.disks.WellFormed) (port : UInt8)
    (function : Option PortFunction) :
    perform m (.wire port function) = .ok (m.perform (.wire port function))
      ∧ (m.perform (.wire port function)).devices.disks.WellFormed := by
  rw [perform, wired_eq, ok_bind]
  cases m <;> exact ⟨rfl, h⟩

theorem perform_disk_eq (h : m.devices.disks.WellFormed) (action : Action) :
    perform m (.disk action) = .ok (m.perform (.disk action))
      ∧ (m.perform (.disk action)).devices.disks.WellFormed := by
  rw [perform, act_eq h, ok_bind]
  refine ⟨rfl, ?_⟩
  rw [Machine.perform, Machine.disks_withDisks]
  exact h.act action

/-- No operation traps on a machine whose controller is in order, and the
controller is in order afterwards. -/
theorem perform_eq (h : m.devices.disks.WellFormed) (o : Machine.Operation) :
    perform m o = .ok (m.perform o)
      ∧ (m.perform o).devices.disks.WellFormed := by
  cases o with
  | step => exact step_eq h
  | examine address =>
      rw [Machine.perform, Machine.examine_eq]
      exact panel_lift_eq h _
  | examineNext | deposit | depositNext => exact panel_lift_eq h _
  | reset => exact reset_eq h
  | load address image => exact perform_load_eq h address image
  | wire port function => exact perform_wire_eq h port function
  | disk action => exact perform_disk_eq h action

theorem perform_all_eq (h : m.devices.disks.WellFormed)
    (operations : List Machine.Operation) :
    operations.foldlM perform m = .ok (operations.foldl Machine.perform m) := by
  induction operations generalizing m with
  | nil => rfl
  | cons o rest ih =>
      obtain ⟨hperform, hkept⟩ := perform_eq h o
      rw [List.foldlM_cons, hperform, ok_bind, List.foldl_cons]
      exact ih hkept

end

/-- Whatever is in a machine's registers and memory, however its ports are
wired and whatever was done to its floppy controller since that was made, no
sequence of steps, panel operations, loads and accesses to the controller
traps: no number is looked up that stands for nothing, no index or range lies
outside its array, and no sum, difference, product or shift is out of its
width. What comes of it on a host is what comes of it here. -/
theorem emulation_never_traps (machine : Machine) (count : Nat)
    (earlier : List Action) (operations : List Machine.Operation) :
    let m := machine.withDisks ((Controller.ofDrives count).run earlier)
    operations.foldlM perform m =
      .ok (operations.foldl Machine.perform m) := by
  refine perform_all_eq ?_ operations
  rw [Machine.disks_withDisks]
  exact (Controller.wellFormed_run count earlier).2

end Checked

end S100
