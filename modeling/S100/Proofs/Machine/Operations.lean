import S100.Machine
import S100.Proofs.Cpu.Steps

/-!
# What is done to a machine

A machine is stepped, run, examined and reset, its memory is loaded, the
front panel stores bytes, and the host types at the console and mounts
diskettes. `Machine.Action` lists all of this for both kinds of machine, and
`Machine.act` says what each comes to.

Most of it is a dialogue that the processor or the front panel holds with
the backplane (`panel_eq`). A step of the CP/M runner has one more part, for
the host may answer a system call first: `attended` is the backplane as the
processor then finds it, and `step_eq` says what is left of a step.
-/

namespace S100

/-- Type at a pair of buffers, or send down a line. -/
def Console.type (bytes : Bytes) : Console → Console
  | .buffered c => .buffered (c.type bytes)
  | .stream c => .stream (c.send bytes)

namespace Machine

/-- Exchange the processor and the backplane. -/
def put (cpu : Cpu) (bus : Backplane) : Machine → Machine
  | altair m => altair { m with cpu, bus }
  | cpm _ => cpm { cpu, bus }

@[simp] theorem cpu_put (cpu : Cpu) (bus : Backplane) (m : Machine) :
    (m.put cpu bus).cpu = cpu := by
  cases m <;> rfl

@[simp] theorem bus_put (cpu : Cpu) (bus : Backplane) (m : Machine) :
    (m.put cpu bus).bus = bus := by
  cases m <;> rfl

@[simp] theorem put_self (m : Machine) : m.put m.cpu m.bus = m := by
  cases m <;> rfl

/-! ## Steps -/

/-- The backplane when the host has answered the system call that is about
to be made. -/
def attended : Machine → Backplane
  | altair m => m.bus
  | cpm m => if m.atSystemEntry then (m.print m.systemOutput).bus else m.bus

theorem step_eq (m : Machine) :
    let held := m.cpu.step.run m.attended
    m.step = (held.1.1, m.put held.1.2 held.2) := by
  cases m with
  | altair m => rfl
  | cpm m =>
      simp only [step, Cpm.step, attended]
      split <;> rfl

theorem memory_attended (m : Machine) : m.attended.memory = m.bus.memory := by
  cases m with
  | altair m => rfl
  | cpm m =>
      rw [attended]
      split <;> rfl

/-- The instruction that a step executes is the one in memory. -/
theorem next?_attended (m : Machine) :
    m.cpu.next? m.attended =
      if m.cpu.halted then none
      else some (Instruction.decode (m.bus.memory.read m.cpu.regs.pc)) := by
  rw [← memory_attended]
  rfl

/-- The host answers no system call of a halted processor. -/
theorem attended_of_halted {m : Machine} (h : m.cpu.halted = true) :
    m.attended = m.bus := by
  cases m with
  | altair m => rfl
  | cpm m =>
      have hentry : m.atSystemEntry = false := by
        rw [Cpm.atSystemEntry, show m.cpu.halted = true from h]
        exact Bool.and_false _
      rw [attended, hentry]
      rfl

theorem step_of_halted {m : Machine} (h : m.cpu.halted = true) :
    m.step = (.halted, m) := by
  rw [step_eq, attended_of_halted h, Cpu.step_of_halted h]
  simp only [Dialogue.run, put_self]

/-! ## Actions -/

/-- Hold a dialogue of the front panel. -/
def panel (d : Dialogue Cpu) : Machine → Machine
  | altair m => altair (m.panel d)
  | cpm m => cpm (m.hold (do return ((), ← d))).2

/-- Type at the console. -/
def type (bytes : Bytes) (m : Machine) : Machine :=
  m.mapDevices fun d => { d with console := d.console.type bytes }

/-- Mount a diskette. Where there is no such drive, nothing happens. -/
def mount (drive : Nat) (diskette : Diskette) : Machine → Machine
  | altair m =>
    match m.mount drive diskette with
    | .ok m => altair m
    | .error _ => altair m
  | cpm m => (cpm m).mapDevices fun d =>
    { d with disks := (d.disks.mount drive diskette).getD d.disks }

inductive Action where
  | step
  | run (budget : Nat)
  | load (address : UInt16) (image : Bytes)
  | examine (address : UInt16)
  | examineNext
  | deposit (data : UInt8)
  | depositNext (data : UInt8)
  | type (bytes : Bytes)
  | mount (drive : Nat) (diskette : Diskette)
  | reset

def act (m : Machine) : Action → Machine
  | .step => m.step.2
  | .run budget => (S100.run budget m).machine
  | .load address image => m.load address image
  | .examine address => m.examine address
  | .examineNext => m.panel m.cpu.examineNext
  | .deposit data => m.panel (m.cpu.deposit data)
  | .depositNext data => m.panel (m.cpu.depositNext data)
  | .type bytes => m.type bytes
  | .mount drive diskette => m.mount drive diskette
  | .reset => m.reset

/-- One action after the other. -/
def after (m : Machine) (actions : List Action) : Machine :=
  actions.foldl act m

theorem panel_eq (d : Dialogue Cpu) (m : Machine) :
    m.panel d = m.put (d.run m.bus).1 (d.run m.bus).2 := by
  have hrun (bus : Backplane) :
      (do return ((), ← d) : Dialogue (Unit × Cpu)).run bus =
        (((), (d.run bus).1), (d.run bus).2) := Dialogue.run_bind _ _ _
  cases m with
  | altair m =>
      rw [panel, Altair.panel, Altair.hold, hrun]
      rfl
  | cpm m =>
      rw [panel, Cpm.hold, hrun]
      rfl

theorem examine_eq (address : UInt16) (m : Machine) :
    m.examine address = m.panel (m.cpu.examine address) := by
  cases m <;> rfl

@[simp] theorem cpu_load (address : UInt16) (image : Bytes) (m : Machine) :
    (m.load address image).cpu = m.cpu := by
  cases m <;> rfl

@[simp] theorem cpu_type (bytes : Bytes) (m : Machine) :
    (m.type bytes).cpu = m.cpu := by
  cases m <;> rfl

@[simp] theorem cpu_mount (drive : Nat) (diskette : Diskette) (m : Machine) :
    (m.mount drive diskette).cpu = m.cpu := by
  cases m with
  | altair m =>
      simp only [mount, Altair.mount]
      cases m.disks.mount drive diskette <;> rfl
  | cpm m => rfl

end Machine

end S100
