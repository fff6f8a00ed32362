import S100.Proofs.Cpu.Instructions

/-!
# The processor is the reference

`step_eq_reference` puts the instructions together: whatever the plant, one
step of the processor is reported, and leaves processor and plant, as the
reference says. The reference takes an opcode apart and the processor looks
it up, so the cases are those of the fields, and `decode_eq_ofFields` says
that they lead to the same instruction.
-/

namespace S100

open Reference Instruction

/-- Instructions whose execution leaves nothing to report. -/
def Instruction.isQuiet : Instruction → Bool
  | .hlt => false
  | .undefined => false
  | _ => true

namespace Cpu

variable {π : Type} [PortDevice π] {cpu : Cpu} {plant : Plant π} {s : State π}

/-- An instruction that the reference carries out leads where it says, and
has nothing to report. One that it does not know is not known. -/
def Does (cpu : Cpu) (plant : Plant π) (i : Instruction) :
    Option (State π) → Prop
  | some s => after (cpu.execute i) plant = s ∧ i.isQuiet
  | none => i = .undefined

theorem does_some {i : Instruction} (hafter : after (cpu.execute i) plant = s)
    (hquiet : i.isQuiet) : Does cpu plant i (some s) :=
  ⟨hafter, hquiet⟩

theorem does_transfer (h : cpu.view plant = s) {p q : Nat} (hp : p < 4)
    (hq : q < 2) :
    Does cpu plant (ofTransfer p q) (some (s.transferRow p q)) := by
  have hq' : q = 0 ∨ q = 1 := by omega
  rcases eq_of_lt_four hp with rfl | rfl | rfl | rfl
  · rcases hq' with rfl | rfl
    · exact does_some (after_stax h (p := 0) (by omega)) rfl
    · exact does_some (after_ldax h (p := 0) (by omega)) rfl
  · rcases hq' with rfl | rfl
    · exact does_some (after_stax h (p := 1) (by omega)) rfl
    · exact does_some (after_ldax h (p := 1) (by omega)) rfl
  · rcases hq' with rfl | rfl
    · exact does_some (after_shld h) rfl
    · exact does_some (after_lhld h) rfl
  · rcases hq' with rfl | rfl
    · exact does_some (after_sta h) rfl
    · exact does_some (after_lda h) rfl

theorem isQuiet_ofAccumulator {y : Nat} (hy : y < 8) :
    (ofAccumulator y).isQuiet := by
  rcases eq_of_lt_eight hy with
    rfl | rfl | rfl | rfl | rfl | rfl | rfl | rfl <;> rfl

theorem does_row0 (h : cpu.view plant = s) (hf : usedBits s.flags = s.flags)
    {y z : Nat} (hy : y < 8) (hz : z < 8) :
    Does cpu plant (ofRow0 y z) (s.row0 y z) := by
  have hp : y / 2 < 4 := by omega
  have hq : y % 2 < 2 := by omega
  rcases eq_of_lt_eight hz with rfl | rfl | rfl | rfl | rfl | rfl | rfl | rfl
  · by_cases hy0 : y = 0
    · simp only [ofRow0, State.row0, if_pos hy0]
      exact does_some h rfl
    · simp only [ofRow0, State.row0, if_neg hy0]
      rfl
  · by_cases hq0 : y % 2 = 0
    · simp only [ofRow0, State.row0, if_pos hq0]
      exact does_some (after_lxi h hp) rfl
    · simp only [ofRow0, State.row0, if_neg hq0]
      exact does_some (after_dad h hf hp) rfl
  · exact does_transfer h hp hq
  · by_cases hq0 : y % 2 = 0
    · simp only [ofRow0, State.row0, if_pos hq0]
      exact does_some (after_inx h hp) rfl
    · simp only [ofRow0, State.row0, if_neg hq0]
      exact does_some (after_dcx h hp) rfl
  · exact does_some (after_inr h hy) rfl
  · exact does_some (after_dcr h hy) rfl
  · exact does_some (after_mvi h hy) rfl
  · exact does_some (after_accumulator h hf hy) (isQuiet_ofAccumulator hy)

theorem does_odd (h : cpu.view plant = s) {y : Nat} (hy : y < 8) :
    Does cpu plant (ofOdd y) (s.oddRow y) := by
  rcases eq_of_lt_eight hy with rfl | rfl | rfl | rfl | rfl | rfl | rfl | rfl
  · exact does_some (after_jmp h) rfl
  · rfl
  · exact does_some (after_output h) rfl
  · exact does_some (after_input h) rfl
  · exact does_some (after_xthl h) rfl
  · exact does_some (after_xchg h) rfl
  · subst h
    exact does_some rfl rfl
  · subst h
    exact does_some rfl rfl

/-- The returns and jumps among opcodes `11pp1001`. -/
theorem does_unpaired (h : cpu.view plant = s) {y : Nat} (hy : y < 8)
    (hq : y % 2 = 1) : Does cpu plant (ofRow3 y 1) (s.row3 y 1) := by
  have hy' : y = 1 ∨ y = 3 ∨ y = 5 ∨ y = 7 := by omega
  rcases hy' with rfl | rfl | rfl | rfl
  · exact does_some (after_ret h) rfl
  · rfl
  · exact does_some (after_pchl h) rfl
  · exact does_some (after_sphl h) rfl

theorem does_row3 (h : cpu.view plant = s) (hf : usedBits s.flags = s.flags)
    {y z : Nat} (hy : y < 8) (hz : z < 8) :
    Does cpu plant (ofRow3 y z) (s.row3 y z) := by
  have hp : y / 2 < 4 := by omega
  rcases eq_of_lt_eight hz with rfl | rfl | rfl | rfl | rfl | rfl | rfl | rfl
  · exact does_some (after_retIf h hy) rfl
  · by_cases hq0 : y % 2 = 0
    · simp only [ofRow3, State.row3, if_pos hq0]
      exact does_some (after_pop h hp) rfl
    · exact does_unpaired h hy (by omega)
  · exact does_some (after_jumpIf h hy) rfl
  · exact does_odd h hy
  · exact does_some (after_callIf h hy) rfl
  · by_cases hq0 : y % 2 = 0
    · simp only [ofRow3, State.row3, if_pos hq0]
      exact does_some (after_push h hf hp) rfl
    · by_cases hp0 : y / 2 = 0
      · simp only [ofRow3, State.row3, if_neg hq0, if_pos hp0]
        exact does_some (after_call h) rfl
      · simp only [ofRow3, State.row3, if_neg hq0, if_neg hp0]
        rfl
  · exact does_some (after_aluImmediate h hy) rfl
  · exact does_some (after_rst h hy) rfl

theorem outcome_of_isQuiet {opcode : UInt8}
    (hquiet : (decode opcode).isQuiet) : outcome opcode = .executed := by
  unfold outcome
  split
  next hhlt =>
    rw [hhlt] at hquiet
    cases hquiet
  next hundefined =>
    rw [hundefined] at hquiet
    cases hquiet
  · rfl

/-- What is reported follows from what is done. -/
theorem outcome_of_does {opcode : UInt8} {i : Instruction}
    {next : Option (State π)} (hdecode : decode opcode = i)
    (hdoes : Does cpu plant i next) :
    (outcome opcode, after (cpu.execute (decode opcode)) plant) =
      (cpu.view plant).report opcode.toNat next := by
  subst hdecode
  cases next with
  | some next =>
      obtain ⟨rfl, hquiet⟩ := hdoes
      rw [outcome_of_isQuiet hquiet]
      rfl
  | none =>
      have hundefined : decode opcode = .undefined := hdoes
      simp only [outcome, hundefined, State.report, UInt8.ofNat_toNat]
      rfl

/-- The opcode fetched, the rest of a step is the reference's. -/
theorem execute_eq_reference (h : cpu.view plant = s.skip 1)
    (hf : usedBits s.flags = s.flags) {opcode : UInt8}
    (hopcode : opcode.toNat = s.memory s.pc) :
    (outcome opcode, after (cpu.execute (decode opcode)) plant) = s.step := by
  have hlt := opcode.toNat_lt
  have hy : opcode.toNat / 8 % 8 < 8 := by omega
  have hz : opcode.toNat % 8 < 8 := by omega
  have hfields := decode_eq_ofFields opcode
  rw [State.step, ← hopcode, ← h]
  rcases show opcode.toNat / 64 = 0 ∨ opcode.toNat / 64 = 1
      ∨ opcode.toNat / 64 = 2 ∨ opcode.toNat / 64 = 3 by omega
    with hx | hx | hx | hx
  · rw [hx] at hfields
    simp only [hx]
    exact outcome_of_does hfields (does_row0 h hf hy hz) |>.trans (by rw [h])
  · rw [hx] at hfields
    simp only [hx]
    by_cases hhalt : opcode.toNat / 8 % 8 = 6 ∧ opcode.toNat % 8 = 6
    · have hhlt : decode opcode = .hlt := by
        rw [hfields, hhalt.1, hhalt.2]
        rfl
      simp only [outcome, hhlt]
      rw [if_pos hhalt]
      rfl
    · have hmov : decode opcode = .mov (operandAt (opcode.toNat / 8 % 8))
          (operandAt (opcode.toNat % 8)) :=
        hfields.trans (if_neg hhalt)
      rw [if_neg hhalt]
      exact outcome_of_does hmov (does_some (after_mov rfl hy hz) rfl)
  · rw [hx] at hfields
    simp only [hx]
    exact outcome_of_does hfields (does_some (after_alu rfl hy hz) rfl)
  · rw [hx] at hfields
    simp only [hx]
    exact outcome_of_does hfields (does_row3 h hf hy hz) |>.trans (by rw [h])

/-- One step of a processor that is not halted is one step of the
reference, on every plant. -/
theorem step_eq_reference (cpu : Cpu) (plant : Plant π)
    (hrunning : cpu.halted = false) (hflags : cpu.regs.f &&& 0x2A = 0) :
    let held := cpu.step.run plant
    (held.1.1, held.1.2.view held.2) = (cpu.view plant).step := by
  have hf : usedBits cpu.regs.f.toNat = cpu.regs.f.toNat := by
    revert hflags
    generalize cpu.regs.f = flags
    revert flags
    exact forall_byte (by decide +kernel)
  obtain ⟨opcode, cpu', hrun, hopcode, h'⟩ :=
    fetch_view (rfl : cpu.view plant = cpu.view plant)
  have hview : ({ cpu' with opcode } : Cpu).view plant =
      (cpu.view plant).skip 1 := h'
  have hstep := execute_eq_reference hview hf hopcode
  simp only [step, hrunning, Bool.false_eq_true, if_false, Dialogue.run_bind,
    hrun]
  exact hstep

/-- An output instruction whose port number has to be fetched around the
end of the address space. -/
theorem step_eq_reference_output :
    let cpu : Cpu := { regs := { a := 0x41, f := 0x44, pc := 0xFFFF } }
    let plant : Plant Ports :=
      { memory := ((Memory.ofSize addressSpace).write 0xFFFF 0xD3).write 0 0x11
        ports := {} }
    let held := cpu.step.run plant
    cpu.halted = false ∧ cpu.regs.f &&& 0x2A = 0
      ∧ (held.1.1, held.1.2.view held.2) = (cpu.view plant).step :=
  ⟨rfl, by decide, step_eq_reference _ _ rfl (by decide)⟩

end Cpu

end S100
