import S100.Proofs.Machine.Operations
import S100.Proofs.Run.Slices

/-!
# Runs within a budget

A run takes steps for as long as they only execute instructions. The first
step of which something else is reported ends it, and so does the end of its
budget, whichever comes first; `StopsAt` says which step that is. What a run
comes to is said here by that number alone (`run_of_stopsAt`,
`run_of_executed`): no loop is left.

So a budget can be divided: what is left of it is the budget of a run that
goes on from where the first part came back (`run_add`). A run that has met
an undefined opcode can also go on. The opcode has been passed over, and
nothing but the counter, the lights and the opcode that was fetched last has
changed, so that the next instruction is the one behind it
(`step_of_undefined`). `runs_compose` puts all of this together.
-/

namespace S100

section

variable {σ : Type} [Steppable σ] {m : σ} {a b k n : Nat}

/-! ## Where a run stops -/

/-- Step `k`, counted from one, is the first of which something else is
reported than that an instruction has been executed. -/
structure StopsAt (m : σ) (k : Nat) : Prop where
  pos : 0 < k
  stops : reportAfter (k - 1) m ≠ .executed
  first : ∀ j < k - 1, reportAfter j m = .executed

/-- What a run says that comes back with a step from an address. -/
def Outcome.ofResult (address : UInt16) : StepResult → Outcome
  | .executed => .budgetExhausted
  | .halted => .halted
  | .undefinedOpcode opcode => .undefinedOpcode opcode address

/-- What a run says that comes back with step `k`. -/
def outcomeAt (m : σ) (k : Nat) : Outcome :=
  .ofResult (Steppable.pc (stepped (k - 1) m)) (reportAfter (k - 1) m)

/-- A stop at a later step is one of the machine that has taken a step. -/
theorem StopsAt.tail (h : StopsAt m (k + 1)) (hk : 0 < k) :
    (Steppable.step m).1 = .executed ∧ StopsAt (Steppable.step m).2 k := by
  refine ⟨h.first 0 hk, hk, ?_, fun j hj => ?_⟩
  · have hstops := h.stops
    rwa [Nat.add_sub_cancel, ← Nat.sub_add_cancel hk, reportAfter_succ]
      at hstops
  · rw [← reportAfter_succ]
    exact h.first (j + 1) (by omega)

theorem outcomeAt_succ (hk : 0 < k) :
    outcomeAt m (k + 1) = outcomeAt (Steppable.step m).2 k := by
  obtain ⟨k, rfl⟩ := Nat.exists_eq_succ_of_ne_zero (Nat.ne_of_gt hk)
  rfl

/-- Some steps all execute instructions, or one of them is a first one that
does not. -/
theorem executed_or_stopsAt (m : σ) (n : Nat) :
    (∀ j < n, reportAfter j m = .executed) ∨ ∃ k ≤ n, StopsAt m k := by
  induction n with
  | zero => exact .inl fun j hj => absurd hj (Nat.not_lt_zero j)
  | succ n ih =>
      rcases ih with hexecuted | ⟨k, hk, hstops⟩
      · by_cases hlast : reportAfter n m = .executed
        · refine .inl fun j hj => ?_
          rcases Nat.lt_succ_iff_lt_or_eq.mp hj with hlt | rfl
          · exact hexecuted j hlt
          · exact hlast
        · exact .inr ⟨n + 1, Nat.le_refl _, Nat.succ_pos n, hlast, hexecuted⟩
      · exact .inr ⟨k, Nat.le_succ_of_le hk, hstops⟩

/-! ## What a run comes to -/

theorem run_zero (m : σ) : run 0 m = ⟨.budgetExhausted, 0, m⟩ := rfl

theorem run_succ_of_executed (h : (Steppable.step m).1 = .executed) :
    run (n + 1) m =
      { run n (Steppable.step m).2 with
        steps := 1 + (run n (Steppable.step m).2).steps } := by
  rw [run, runFrom, ← Prod.eta (Steppable.step m), h]
  exact runFrom_eq 1 n _

theorem run_succ_of_stopped (h : (Steppable.step m).1 ≠ .executed) :
    run (n + 1) m =
      ⟨.ofResult (Steppable.pc m) (Steppable.step m).1, 1,
        (Steppable.step m).2⟩ := by
  rw [run, runFrom]
  rcases hstep : Steppable.step m with ⟨result, m'⟩
  cases result with
  | executed => exact absurd (by rw [hstep]) h
  | halted => rfl
  | undefinedOpcode opcode => rfl

/-- Where all steps execute instructions, a run takes its whole budget. -/
theorem run_of_executed (h : ∀ j < n, reportAfter j m = .executed) :
    run n m = ⟨.budgetExhausted, n, stepped n m⟩ := by
  induction n generalizing m with
  | zero => rfl
  | succ n ih =>
      have htail : ∀ j < n, reportAfter j (Steppable.step m).2 = .executed :=
        fun j hj => h (j + 1) (by omega)
      have hexecuted : (Steppable.step m).1 = .executed := h 0 (by omega)
      rw [run_succ_of_executed hexecuted, ih htail, Nat.add_comm 1]
      rfl

/-- A run whose budget reaches that far comes back with the step that
stops it. -/
theorem run_of_stopsAt (h : StopsAt m k) (hk : k ≤ n) :
    run n m = ⟨outcomeAt m k, k, stepped k m⟩ := by
  induction n generalizing m k with
  | zero =>
      have hpos := h.pos
      omega
  | succ n ih =>
      obtain ⟨k, rfl⟩ := Nat.exists_eq_succ_of_ne_zero (Nat.ne_of_gt h.pos)
      by_cases hfirst : k = 0
      · subst hfirst
        exact run_succ_of_stopped h.stops
      · have hpos := Nat.pos_of_ne_zero hfirst
        obtain ⟨hexecuted, htail⟩ := h.tail hpos
        rw [run_succ_of_executed hexecuted, ih htail (by omega),
          Nat.succ_eq_add_one, outcomeAt_succ hpos, Nat.add_comm 1]
        rfl

/-- The budget decides only whether a run gets to the step that stops it. -/
theorem run_eq_of_stopsAt (h : StopsAt m k) (n : Nat) :
    run n m =
      ⟨if k ≤ n then outcomeAt m k else .budgetExhausted, min n k,
        stepped (min n k) m⟩ := by
  by_cases hk : k ≤ n
  · rw [if_pos hk, Nat.min_eq_right hk, run_of_stopsAt h hk]
  · rw [if_neg hk, Nat.min_eq_left (by omega)]
    exact run_of_executed fun j hj => h.first j (by omega)

/-- A run that has not used its budget up would not have gone on with more
of it, and one that has goes on as a run of its own. -/
theorem run_add (a b : Nat) (m : σ) :
    run (a + b) m =
      let first := run a m
      let second := run b first.machine
      if first.outcome = .budgetExhausted then
        { second with steps := first.steps + second.steps }
      else first := by
  induction a generalizing m with
  | zero => simp only [run_zero, Nat.zero_add, if_true]
  | succ a ih =>
      rw [Nat.succ_add]
      by_cases hexecuted : (Steppable.step m).1 = .executed
      · simp only [run_succ_of_executed hexecuted, ih, Nat.add_assoc]
        split
        · rfl
        · rfl
      · simp only [run_succ_of_stopped hexecuted]
        cases hresult : (Steppable.step m).1 with
        | executed => exact absurd hresult hexecuted
        | halted => rfl
        | undefinedOpcode opcode => rfl

/-- A run comes back over an undefined opcode with the step that met it, and
tells the address at which the machine stood before that step. -/
theorem last_of_undefined {opcode : UInt8} {address : UInt16}
    (h : (run n m).outcome = .undefinedOpcode opcode address) :
    let before := stepped ((run n m).steps - 1) m
    (Steppable.step before).1 = .undefinedOpcode opcode
      ∧ Steppable.pc before = address
      ∧ (run n m).machine = (Steppable.step before).2 := by
  rcases executed_or_stopsAt m n with hexecuted | ⟨k, hk, hstops⟩
  · rw [run_of_executed hexecuted] at h
    cases h
  · rw [run_of_stopsAt hstops hk] at h ⊢
    have houtcome : outcomeAt m k = .undefinedOpcode opcode address := h
    have hreport : reportAfter (k - 1) m = .undefinedOpcode opcode
        ∧ Steppable.pc (stepped (k - 1) m) = address := by
      unfold outcomeAt at houtcome
      cases hresult : reportAfter (k - 1) m with
      | executed => rw [hresult] at houtcome; cases houtcome
      | halted => rw [hresult] at houtcome; cases houtcome
      | undefinedOpcode other =>
          rw [hresult] at houtcome
          cases houtcome
          exact ⟨rfl, rfl⟩
    refine ⟨hreport.1, hreport.2, ?_⟩
    rw [← stepped_succ_last, Nat.sub_add_cancel hstops.pos]

end

/-! ## Past an undefined opcode -/

theorem Cpu.outcome_eq_undefined_iff {opcode reported : UInt8} :
    outcome opcode = .undefinedOpcode reported ↔
      opcode = reported ∧ Instruction.decode opcode = .undefined := by
  unfold outcome
  split <;> simp_all

namespace Machine

variable {m : Machine} {opcode : UInt8}

theorem step_of_running (h : m.cpu.halted = false) :
    let opcode := m.bus.memory.read m.cpu.regs.pc
    let executed := ((m.cpu.fetched opcode).execute
      (Instruction.decode opcode)).run m.attended
    m.step = (Cpu.outcome opcode, m.put executed.1 executed.2) := by
  rw [step_eq, Cpu.run_step_of_running h, ← memory_attended]
  rfl

/-- A step that meets an undefined opcode passes over it. All that the host
may have done before the step is to answer a system call. -/
theorem step_of_undefined (h : m.step.1 = .undefinedOpcode opcode) :
    m.cpu.halted = false
      ∧ m.bus.memory.read m.cpu.regs.pc = opcode
      ∧ Instruction.decode opcode = .undefined
      ∧ m.step.2 = m.put (m.cpu.fetched opcode) m.attended := by
  cases hhalted : m.cpu.halted with
  | true =>
      rw [step_of_halted hhalted] at h
      cases h
  | false =>
      rw [step_of_running hhalted, Cpu.outcome_eq_undefined_iff] at h
      obtain ⟨hread, hundefined⟩ := h
      rw [hread] at hundefined
      refine ⟨rfl, hread, hundefined, ?_⟩
      rw [step_of_running hhalted, hread, hundefined]
      rfl

/-- The cycles of a step begin with the one that fetches an opcode. -/
theorem cycles_of_running (h : m.cpu.halted = false) :
    ∃ rest, m.cpu.step.cycles m.attended =
      .read m.cpu.regs.pc (m.bus.memory.read m.cpu.regs.pc) :: rest := by
  rw [Cpu.step_of_running h, ← memory_attended]
  exact ⟨_, rfl⟩

end Machine

/-- A run comes to the smaller of its budget and the number of the first step
of which something else is reported than that an instruction has been
executed, and leaves the machine as that many steps do. It tells how that
step ended, if it got there, and otherwise that the budget is used up; and
there is such a step within the budget, or all steps within it execute
instructions. If the budget is used up, a second run goes on as one run with
both budgets would; no other run would have gone on with a larger one.

Where an undefined opcode is told of a machine, it stands in memory at the
address that is told. Of the processor, only the counter, the lights and the
opcode fetched last are different afterwards, and memory is the same. The
next instruction is the one at the next address, around the end of the
address space, and the next step begins with fetching it. -/
theorem runs_compose {σ : Type} [Steppable σ] (m : σ) (machine : Machine) :
    (∀ n, (∀ j < n, reportAfter j m = .executed) ∨ ∃ k ≤ n, StopsAt m k)
    ∧ (∀ n, (∀ j < n, reportAfter j m = .executed) →
      run n m = ⟨.budgetExhausted, n, stepped n m⟩)
    ∧ (∀ n k, StopsAt m k → run n m =
      ⟨if k ≤ n then outcomeAt m k else .budgetExhausted, min n k,
        stepped (min n k) m⟩)
    ∧ (∀ a b,
      let first := run a m
      let second := run b first.machine
      run (a + b) m =
        if first.outcome = .budgetExhausted then
          { second with steps := first.steps + second.steps }
        else first)
    ∧ ∀ n opcode address,
      let r := run n machine
      let before := stepped (r.steps - 1) machine
      let after := r.machine
      r.outcome = .undefinedOpcode opcode address →
      before.cpu.halted = false
      ∧ before.cpu.regs.pc = address
      ∧ before.bus.memory.read address = opcode
      ∧ Instruction.decode opcode = .undefined
      ∧ after.cpu =
        { before.cpu with
          regs.pc := address + 1, lights := ⟨address, opcode⟩, opcode }
      ∧ after.bus.memory = before.bus.memory
      ∧ after.cpu.next? after.attended =
        some (Instruction.decode (before.bus.memory.read (address + 1)))
      ∧ ∃ rest, after.cpu.step.cycles after.attended =
        .read (address + 1) (before.bus.memory.read (address + 1)) :: rest := by
  refine ⟨executed_or_stopsAt m, fun n => run_of_executed,
    fun n k h => run_eq_of_stopsAt h n, fun a b => run_add a b m, ?_⟩
  intro n opcode address r before after h
  obtain ⟨hreport, hpc, hafter⟩ := last_of_undefined h
  have hpc : before.cpu.regs.pc = address := hpc
  obtain ⟨hrunning, hread, hundefined, hstep⟩ :=
    Machine.step_of_undefined hreport
  have hput : after = before.put (before.cpu.fetched opcode) before.attended :=
    hafter.trans hstep
  have hcpu : after.cpu = before.cpu.fetched opcode := by
    rw [hput, Machine.cpu_put]
  have hmemory : after.bus.memory = before.bus.memory := by
    rw [hput, Machine.bus_put, Machine.memory_attended]
  have hgoing : after.cpu.halted = false := by
    rw [hcpu]
    exact hrunning
  have hnext : after.cpu.regs.pc = address + 1 := by
    rw [hcpu, Cpu.fetched, hpc]
  refine ⟨hrunning, hpc, ?_, hundefined, ?_, hmemory, ?_, ?_⟩
  · rw [← hpc]
    exact hread
  · rw [hcpu, Cpu.fetched, hpc]
  · rw [Machine.next?_attended, hgoing, hnext, hmemory]
    rfl
  · obtain ⟨rest, hrest⟩ := Machine.cycles_of_running hgoing
    rw [hnext, hmemory] at hrest
    exact ⟨rest, hrest⟩

/-- The last address holds an undefined opcode. A run of the CP/M runner comes
back over it, and goes on with the halt at the first address. -/
theorem runs_compose_around :
    ∃ m : Machine, m.kind = .cpm ∧ m.cpu.regs.pc = 0xFFFF
      ∧ (run 5 m).outcome = .undefinedOpcode 0x10 0xFFFF
      ∧ (run 5 m).steps = 1
      ∧ (run 5 m).machine.cpu.regs.pc = 0x0000
      ∧ (run 5 m).machine.cpu.next? (run 5 m).machine.attended =
        some .hlt := by
  obtain ⟨memory, hread⟩ : ∃ memory : Memory, ∀ address, memory.read address =
      if 0x0000 = address then 0x76
      else if 0xFFFF = address then 0x10 else 0 := by
    have hfull : (Memory.ofSize addressSpace).size = addressSpace :=
      Memory.size_ofSize _
    refine ⟨((Memory.ofSize addressSpace).write 0xFFFF 0x10).write 0x0000 0x76,
      fun address => ?_⟩
    simp only [Memory.read_write_of_full, Memory.size_write, hfull,
      Memory.read_ofSize]
  let m := Machine.cpm { cpu := { regs.pc := 0xFFFF }, bus := { memory } }
  have hreport : reportAfter 0 m = .undefinedOpcode 0x10 := by
    have hopcode : m.bus.memory.read m.cpu.regs.pc = 0x10 := hread 0xFFFF
    show m.step.1 = _
    rw [Machine.step_of_running rfl, hopcode]
    rfl
  have hstops : StopsAt m 1 :=
    ⟨Nat.one_pos, by rw [hreport]; nofun, fun j hj => absurd hj (by omega)⟩
  obtain ⟨-, -, hrun, -, hresume⟩ := runs_compose m m
  have hr : run 5 m = ⟨.undefinedOpcode 0x10 0xFFFF, 1, stepped 1 m⟩ := by
    rw [hrun 5 1 hstops, if_pos (by decide), outcomeAt, hreport]
    rfl
  have hafter := hresume 5 0x10 0xFFFF (by rw [hr])
  refine ⟨m, rfl, rfl, ?_⟩
  rw [hr] at hafter ⊢
  obtain ⟨-, -, -, -, hcpu, -, hnext, -⟩ := hafter
  refine ⟨rfl, rfl, ?_, ?_⟩
  · rw [hcpu]
    rfl
  · rw [hnext]
    exact congrArg (fun opcode => some (Instruction.decode opcode))
      (hread 0x0000)

end S100
