import S100.Cpu.Step

/-!
# A step and its parts

A step of a halted processor is no step at all. Any other step fetches an
opcode and executes it. Here that is said of the dialogue
(`step_of_halted`, `step_of_running`), and of what comes of holding it
(`run_step_of_running`), so that a statement about steps comes down to one
about the execution of an instruction. `reports_halt_iff` says of which
steps a halt is reported.
-/

namespace S100.Cpu

open Instruction

variable {σ : Type} [Bus σ] {cpu : Cpu}

/-- The processor when it has fetched an opcode. -/
def fetched (cpu : Cpu) (opcode : UInt8) : Cpu :=
  { cpu with
    regs.pc := cpu.regs.pc + 1, lights := ⟨cpu.regs.pc, opcode⟩, opcode }

theorem step_of_halted (h : cpu.halted = true) :
    cpu.step = .done (.halted, cpu) := by
  rw [step, if_pos h]
  rfl

theorem step_of_running (h : cpu.halted = false) :
    cpu.step = .read cpu.regs.pc fun opcode => do
      let cpu ← (cpu.fetched opcode).execute (decode opcode)
      return (outcome opcode, cpu) := by
  rw [step, if_neg (by simp [h])]
  rfl

theorem run_step_of_running (h : cpu.halted = false) (bus : σ) :
    let opcode := (Bus.read bus cpu.regs.pc).1
    let executed := ((cpu.fetched opcode).execute (decode opcode)).run
      (Bus.read bus cpu.regs.pc).2
    cpu.step.run bus = ((outcome opcode, executed.1), executed.2) := by
  rw [step_of_running h]
  exact Dialogue.run_bind _ _ _

/-! ## The next instruction -/

/-- The instruction that a step executes. -/
def next? (cpu : Cpu) (bus : σ) : Option Instruction :=
  if cpu.halted then none else some (decode (Bus.read bus cpu.regs.pc).1)

theorem outcome_eq_halted_iff (opcode : UInt8) :
    outcome opcode = .halted ↔ decode opcode = .hlt := by
  unfold outcome
  split <;> simp_all

/-- A halt is reported by a processor that is halted or is told to. -/
theorem reports_halt_iff (bus : σ) :
    (cpu.step.run bus).1.1 = .halted ↔
      cpu.halted = true ∨ cpu.next? bus = some .hlt := by
  cases hhalted : cpu.halted with
  | true =>
      rw [step_of_halted hhalted]
      exact iff_of_true rfl (.inl rfl)
  | false =>
      rw [run_step_of_running hhalted, next?, hhalted]
      simp only [outcome_eq_halted_iff, Bool.false_eq_true, false_or, if_false,
        Option.some.injEq]

theorem halted_of_next? {bus : σ} {i : Instruction}
    (h : cpu.next? bus = some i) : cpu.halted = false := by
  cases hhalted : cpu.halted with
  | true =>
      rw [next?, if_pos hhalted] at h
      cases h
  | false => rfl

theorem decode_of_next? {bus : σ} {i : Instruction}
    (h : cpu.next? bus = some i) :
    decode (Bus.read bus cpu.regs.pc).1 = i := by
  rw [next?, if_neg (by simp [halted_of_next? h])] at h
  exact Option.some.inj h

/-- A step that executes a defined instruction, other than a halt. -/
theorem run_step_of_next? {bus : σ} {i : Instruction}
    (h : cpu.next? bus = some i) (hhlt : i ≠ .hlt)
    (hundefined : i ≠ .undefined) :
    let executed :=
      ((cpu.fetched (Bus.read bus cpu.regs.pc).1).execute i).run
        (Bus.read bus cpu.regs.pc).2
    cpu.step.run bus = ((.executed, executed.1), executed.2) := by
  have hdecode := decode_of_next? h
  have houtcome : outcome (Bus.read bus cpu.regs.pc).1 = .executed := by
    rw [outcome, hdecode]
    split
    · exact absurd rfl hhlt
    · exact absurd rfl hundefined
    · rfl
  rw [run_step_of_running (halted_of_next? h), houtcome, hdecode]

theorem run_step_of_hlt {bus : σ} (h : cpu.next? bus = some .hlt) :
    cpu.step.run bus =
      ((.halted,
        { cpu.fetched (Bus.read bus cpu.regs.pc).1 with halted := true }),
        (Bus.read bus cpu.regs.pc).2) := by
  have hdecode := decode_of_next? h
  rw [run_step_of_running (halted_of_next? h), hdecode,
    (outcome_eq_halted_iff _).mpr hdecode]
  rfl

/-- Where a halt is reported, the processor is halted. -/
theorem halted_of_reports_halt {bus : σ}
    (h : (cpu.step.run bus).1.1 = .halted) :
    (cpu.step.run bus).1.2.halted = true := by
  rcases (reports_halt_iff bus).mp h with hhalted | hnext
  · rw [step_of_halted hhalted]
    exact hhalted
  · rw [run_step_of_hlt hnext]

end S100.Cpu
