import S100.Proofs.Machine.Operations

/-!
# The halt latch

A halt instruction sets a latch, and while it is set a step is no step: the
machine is the same afterwards, whatever its kind (`step_of_halted`), and so
is a run. The panel and the host can still reach memory and devices, and the
panel's own work shows on the lights, but of the processor they change
nothing else (`Idle.act`).

Only `examine` and `reset` are different. `halt_latched` says all of this of
a machine that has reported a halt, after any actions but these two, and
what comes of each action then.
-/

namespace S100.Machine

/-- Whether an action lets a halted machine go on. -/
def Action.releases : Action → Bool
  | .examine _ | .reset => true
  | _ => false

/-! ## While the latch is set -/

/-- The processor is halted in the state of `cpu`, but for its lights. -/
structure Idle (cpu : Cpu) (m : Machine) : Prop where
  halted : cpu.halted = true
  same : m.cpu = { cpu with lights := m.cpu.lights }

namespace Idle

variable {cpu : Cpu} {m : Machine}

theorem cpu_halted (h : Idle cpu m) : m.cpu.halted = true := by
  rw [h.same]
  exact h.halted

theorem step (h : Idle cpu m) : m.step = (.halted, m) :=
  step_of_halted h.cpu_halted

theorem cycles (h : Idle cpu m) : m.cpu.step.cycles m.bus = [] := by
  rw [Cpu.step_of_halted h.cpu_halted]
  rfl

theorem run (h : Idle cpu m) (budget : Nat) :
    S100.run (budget + 1) m = ⟨.halted, 1, m⟩ := by
  have hstep : Steppable.step m = (.halted, m) := h.step
  rw [S100.run, runFrom, hstep]

/-- The front panel shows something else and leaves the rest alone. -/
theorem panel (h : Idle cpu m) {d : Dialogue Cpu}
    (hd : (d.run m.bus).1 =
      { m.cpu with lights := (d.run m.bus).1.lights }) :
    Idle cpu (m.panel d) where
  halted := h.halted
  same := by
    rw [panel_eq, cpu_put, hd, h.same]

/-- What leaves the processor alone. -/
theorem of_cpu_eq (h : Idle cpu m) {later : Machine}
    (hcpu : later.cpu = m.cpu) : Idle cpu later where
  halted := h.halted
  same := by
    rw [hcpu]
    exact h.same

theorem act (h : Idle cpu m) {a : Action} (ha : a.releases = false) :
    Idle cpu (m.act a) := by
  cases a with
  | step =>
      rw [Machine.act, h.step]
      exact h
  | run budget =>
      cases budget with
      | zero => exact h
      | succ budget =>
          rw [Machine.act, h.run]
          exact h
  | load address image => exact h.of_cpu_eq (cpu_load _ _ _)
  | examine address => cases ha
  | examineNext => exact h.panel rfl
  | deposit data => exact h.panel rfl
  | depositNext data => exact h.panel rfl
  | type bytes => exact h.of_cpu_eq (cpu_type _ _)
  | mount drive diskette => exact h.of_cpu_eq (cpu_mount _ _ _)
  | reset => cases ha

theorem after (h : Idle cpu m) {actions : List Action}
    (hquiet : ∀ a ∈ actions, a.releases = false) :
    Idle cpu (m.after actions) := by
  induction actions generalizing m with
  | nil => exact h
  | cons a actions ih =>
      exact ih (h.act (hquiet a List.mem_cons_self))
        fun b hb => hquiet b (List.mem_cons_of_mem a hb)

end Idle

/-! ## Setting and releasing it -/

/-- A machine that reports a halt is halted. -/
theorem idle_of_reports_halt {m : Machine} (h : m.step.1 = .halted) :
    Idle m.step.2.cpu m.step.2 where
  halted := by
    rw [step_eq] at h ⊢
    rw [cpu_put]
    exact Cpu.halted_of_reports_halt h
  same := rfl

theorem cpu_examine (address : UInt16) (m : Machine) :
    (m.examine address).cpu =
      { m.cpu with
        regs.pc := address
        halted := false
        lights := ⟨address, m.bus.memory.read address⟩ } := by
  rw [examine_eq, panel_eq, cpu_put]
  rfl

theorem bus_examine (address : UInt16) (m : Machine) :
    (m.examine address).bus = m.bus := by
  rw [examine_eq, panel_eq, bus_put]
  rfl

theorem running_after_reset (m : Machine) : m.reset.cpu.halted = false := by
  cases m with
  | altair m => rfl
  | cpm m => rfl

/-- The machine goes on exactly after the actions that release the latch. -/
theorem Idle.act_running_iff {cpu : Cpu} {m : Machine} (h : Idle cpu m)
    (a : Action) : (m.act a).cpu.halted = false ↔ a.releases = true := by
  cases hreleases : a.releases with
  | false =>
      rw [(h.act hreleases).cpu_halted]
      simp
  | true =>
      cases a with
      | examine address =>
          rw [Machine.act, cpu_examine]
          simp
      | reset =>
          rw [Machine.act, running_after_reset]
          simp
      | _ => cases hreleases

theorem regs_of_same {cpu later : Cpu}
    (h : later = { cpu with lights := later.lights }) :
    later.regs = cpu.regs := by
  rw [h]

/-- A machine has reported a halt, and anything has been done to it but to
examine an address or reset it. Then a step reports a halt again, makes no
cycle, and leaves the whole machine as it is; so does a run. Of the
processor only the lights can be different from what they were at the halt.
Exactly those two actions make the machine go on, and after the first it
goes on at the address that was examined, with all other registers as they
were at the halt. -/
theorem halt_latched {m : Machine} (hhalt : m.step.1 = .halted)
    (actions : List Action) (hquiet : ∀ a ∈ actions, a.releases = false) :
    let halted := m.step.2
    let later := halted.after actions
    later.step = (.halted, later)
    ∧ later.cpu.step.cycles later.bus = []
    ∧ (∀ budget, S100.run (budget + 1) later = ⟨.halted, 1, later⟩)
    ∧ later.cpu = { halted.cpu with lights := later.cpu.lights }
    ∧ (∀ a, (later.act a).cpu.halted = false ↔ a.releases = true)
    ∧ ∀ address,
        let released := later.act (.examine address)
        released.cpu =
            { halted.cpu with
              regs.pc := address
              halted := false
              lights := ⟨address, later.bus.memory.read address⟩ }
          ∧ released.bus = later.bus
          ∧ released.cpu.next? released.bus =
              some (Instruction.decode (later.bus.memory.read address)) := by
  intro halted later
  have h : Idle halted.cpu later := (idle_of_reports_halt hhalt).after hquiet
  refine ⟨h.step, h.cycles, h.run, h.same, h.act_running_iff,
    fun address => ?_⟩
  intro released
  have hcpu : released.cpu =
      { halted.cpu with
        regs.pc := address
        halted := false
        lights := ⟨address, later.bus.memory.read address⟩ } := by
    have hexamine := cpu_examine address later
    rwa [h.same] at hexamine
  have hbus : released.bus = later.bus := bus_examine address later
  refine ⟨hcpu, hbus, ?_⟩
  rw [hcpu, hbus]
  rfl

/-- A halt just below the entry of the operating system leaves the processor
at the entry, as if to ask for a string to be printed. Nothing is. -/
theorem halt_latched_at_system_entry :
    let bus : Backplane :=
      { memory := (Memory.ofSize addressSpace).write 0x0004 0x76 }
    let m := cpm { cpu := { regs.pc := 0x0004, regs.c := 9 }, bus }
    let later := m.step.2.after
      [.step, .deposit 0xC3, .type #[0x0D], .run 3, .examineNext]
    m.step.1 = .halted
    ∧ later.cpu.regs = { pc := 0x0005, c := 9 }
    ∧ later.step = (.halted, later)
    ∧ (later.act (.examine 0x0100)).cpu.halted = false := by
  intro bus m later
  have hread : bus.memory.read 0x0004 = 0x76 := by
    rw [Memory.read_write_of_full (Memory.size_ofSize _), if_pos rfl]
  have hnext : m.cpu.next? m.attended = some .hlt := by
    have hrunning : ¬m.cpu.halted = true := Bool.false_ne_true
    have hpc : m.bus.memory.read m.cpu.regs.pc = 0x76 := hread
    rw [next?_attended, if_neg hrunning, hpc]
    rfl
  have hstep := m.step_eq
  rw [Cpu.run_step_of_hlt hnext] at hstep
  have hhalt : m.step.1 = .halted := by rw [hstep]
  have hentry : m.step.2.cpu.regs = { pc := 0x0005, c := 9 } := by
    rw [hstep, cpu_put]
    rfl
  obtain ⟨hlater, -, -, hcpu, hruns, -⟩ := halt_latched hhalt
    [.step, .deposit 0xC3, .type #[0x0D], .run 3, .examineNext]
    (by simp [Action.releases])
  exact ⟨hhalt, (regs_of_same hcpu).trans hentry, hlater, (hruns _).mpr rfl⟩

end S100.Machine
