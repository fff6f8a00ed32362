import S100.Proofs.Cpu.Stack
import S100.Proofs.Cpu.Steps

/-!
# Instructions that use the stack

What one instruction puts on the stack another takes from it: a pair of
registers is pushed and popped, and a call is followed by a return. Two
instructions that follow one another are held by `Cpu.stepTwice`. Where the
two bytes of the stack are populated, and the second instruction is not
overwritten by them, a pair arrives where it is popped
(`run_stepTwice_push_pop`) and what is called returns to the address after the
call (`run_stepTwice_call_ret`).

`stack_lifo` puts this together with what is known of the words themselves.
-/

namespace S100

/-! ## Pairs on the stack -/

namespace Registers

/-- The bits that are forced on the way in are dropped on the way out. -/
theorem pushed_flags_and_mask (flags : UInt8) :
    (flags &&& Flag.mask ||| 0x02) &&& Flag.mask = flags &&& Flag.mask := by
  revert flags
  exact forall_byte (by decide +kernel)

theorem getPair_setPopped_pushed (r : Registers) {pair pair' : Pair}
    (h : pair ≠ .psw) (h' : pair' ≠ .psw) :
    (r.setPopped pair' (r.pushed pair)).getPair pair' = r.getPair pair := by
  have hpushed : r.pushed pair = r.getPair pair := by
    cases pair <;> first | rfl | exact absurd rfl h
  have hpopped (value : UInt16) :
      r.setPopped pair' value = r.setPair pair' value := by
    cases pair' <;> first | rfl | exact absurd rfl h'
  rw [hpushed, hpopped, getPair_setPair]

theorem getPair_withPc (r : Registers) (pc : UInt16) (pair : Pair) :
    { r with pc }.getPair pair = r.getPair pair := by
  cases pair <;> rfl

theorem setPopped_pushed_psw (r : Registers) :
    r.setPopped .psw (r.pushed .psw) = r.setFlags r.f := by
  simp only [setPopped, pushed, setFlags, highByte_word, lowByte_word,
    pushed_flags_and_mask]

end Registers

/-! ## Two instructions -/

namespace Instruction

/-- Where an instruction calls, if it does: at the address that follows it, or
at one of eight places in the first 64 bytes. -/
def callTarget? (flags : UInt8) (operand : UInt16) : Instruction → Option UInt16
  | call => some operand
  | callIf condition => if condition.holds flags then some operand else none
  | rst vector => some (UInt16.ofNat (8 * vector.val))
  | _ => none

/-- Whether an instruction returns. -/
def returns (flags : UInt8) : Instruction → Bool
  | ret => true
  | retIf condition => condition.holds flags
  | _ => false

end Instruction

namespace Cpu

open Instruction

/-- Two steps, with what is reported of each. -/
def stepTwice (cpu : Cpu) : Dialogue (StepResult × StepResult × Cpu) := do
  let (first, cpu) ← cpu.step
  let (second, cpu) ← cpu.step
  return (first, second, cpu)

variable {π : Type} [PortDevice π] {cpu : Cpu} {plant : Plant π}

/-- A step that executes a defined instruction, other than a halt. -/
theorem run_step_of_decode {i : Instruction}
    (hrunning : cpu.halted = false)
    (hdecode : decode (plant.memory.read cpu.regs.pc) = i)
    (hhlt : i ≠ .hlt) (hundefined : i ≠ .undefined) :
    cpu.step.run plant =
      let executed :=
        ((cpu.fetched (plant.memory.read cpu.regs.pc)).execute i).run plant
      ((.executed, executed.1), executed.2) := by
  have hnext : cpu.next? plant = some i := by
    rw [next?, hrunning]
    exact congrArg some hdecode
  exact run_step_of_next? hnext hhlt hundefined

theorem run_step_push (cpu : Cpu) (plant : Plant π) {pair : Pair}
    (hrunning : cpu.halted = false)
    (hpush : decode (plant.memory.read cpu.regs.pc) = .push pair) :
    let sp := cpu.regs.sp
    let value := cpu.regs.pushed pair
    cpu.step.run plant =
      ((.executed,
        { cpu with
          regs.pc := cpu.regs.pc + 1, regs.sp := sp - 2
          lights := ⟨sp - 2, lowByte value⟩
          opcode := plant.memory.read cpu.regs.pc }),
        { plant with memory := plant.memory.pushed sp value }) := by
  rw [run_step_of_decode hrunning hpush nofun nofun]
  cases pair <;> rfl

theorem run_step_pop (cpu : Cpu) (plant : Plant π) {pair : Pair}
    (hrunning : cpu.halted = false)
    (hpop : decode (plant.memory.read cpu.regs.pc) = .pop pair) :
    let sp := cpu.regs.sp
    let value := plant.memory.readWord sp
    cpu.step.run plant =
      ((.executed,
        { cpu with
          regs := { cpu.regs.setPopped pair value with
            pc := cpu.regs.pc + 1, sp := sp + 2 }
          lights := ⟨sp + 1, plant.memory.read (sp + 1)⟩
          opcode := plant.memory.read cpu.regs.pc }), plant) := by
  rw [run_step_of_decode hrunning hpop nofun nofun]
  cases pair <;> rfl

theorem run_fetchWord (cpu : Cpu) (plant : Plant π) :
    let pc := cpu.regs.pc
    cpu.fetchWord.run plant =
      ((plant.memory.readWord pc,
        { cpu with
          regs.pc := pc + 2
          lights := ⟨pc + 1, plant.memory.read (pc + 1)⟩ }), plant) := by
  have hnext : cpu.regs.pc + 2 = cpu.regs.pc + 1 + 1 := by grind
  dsimp only
  rw [hnext]
  rfl

theorem run_callTo (cpu : Cpu) (plant : Plant π) (target : UInt16) :
    let sp := cpu.regs.sp
    (cpu.callTo target).run plant =
      ({ cpu with
          regs.pc := target, regs.sp := sp - 2
          lights := ⟨sp - 2, lowByte cpu.regs.pc⟩ },
        { plant with memory := plant.memory.pushed sp cpu.regs.pc }) :=
  rfl

/-- What is pushed by a call is the address after it and its operand. -/
theorem run_step_call (cpu : Cpu) (plant : Plant π) {i : Instruction}
    {target : UInt16} (hrunning : cpu.halted = false)
    (hdecode : decode (plant.memory.read cpu.regs.pc) = i)
    (hcall : i.callTarget? cpu.regs.f
      (plant.memory.readWord (cpu.regs.pc + 1)) = some target) :
    let sp := cpu.regs.sp
    let after := cpu.regs.pc + 1 + UInt16.ofNat i.operandBytes
    cpu.step.run plant =
      ((.executed,
        { cpu with
          regs.pc := target, regs.sp := sp - 2
          lights := ⟨sp - 2, lowByte after⟩
          opcode := plant.memory.read cpu.regs.pc }),
        { plant with memory := plant.memory.pushed sp after }) := by
  cases i with
  | call =>
      rw [run_step_of_decode hrunning hdecode nofun nofun, execute,
        Dialogue.run_bind, run_fetchWord]
      cases hcall
      dsimp only
      rw [run_callTo]
      rfl
  | callIf condition =>
      by_cases hholds : condition.holds cpu.regs.f = true
      · have htarget := Option.some.inj ((if_pos hholds).symm.trans hcall)
        rw [run_step_of_decode hrunning hdecode nofun nofun, execute,
          Dialogue.run_bind, run_fetchWord, ← htarget]
        dsimp only
        split
        · rw [run_callTo]
          rfl
        · rename_i hnot
          exact absurd hholds hnot
      · exact absurd ((if_neg hholds).symm.trans hcall) nofun
  | rst vector =>
      have hafter : cpu.regs.pc + 1 + UInt16.ofNat (rst vector).operandBytes =
          cpu.regs.pc + 1 :=
        UInt16.add_zero _
      rw [run_step_of_decode hrunning hdecode nofun nofun, hafter, execute,
        run_callTo]
      cases hcall
      rfl
  | _ => cases hcall

theorem run_step_ret (cpu : Cpu) (plant : Plant π) {i : Instruction}
    (hrunning : cpu.halted = false)
    (hdecode : decode (plant.memory.read cpu.regs.pc) = i)
    (hreturns : i.returns cpu.regs.f = true) :
    let sp := cpu.regs.sp
    cpu.step.run plant =
      ((.executed,
        { cpu with
          regs.pc := plant.memory.readWord sp, regs.sp := sp + 2
          lights := ⟨sp + 1, plant.memory.read (sp + 1)⟩
          opcode := plant.memory.read cpu.regs.pc }), plant) := by
  dsimp only
  cases i with
  | ret =>
      rw [run_step_of_decode hrunning hdecode nofun nofun]
      rfl
  | retIf condition =>
      rw [run_step_of_decode hrunning hdecode nofun nofun]
      have hholds : (cpu.fetched (plant.memory.read cpu.regs.pc)).holds
          condition = true := hreturns
      rw [execute, if_pos hholds]
      rfl
  | _ => cases hreturns

/-! ## Pairs of instructions -/

theorem run_stepTwice {first second : StepResult} {middle after : Cpu}
    {between left : Plant π}
    (hfirst : cpu.step.run plant = ((first, middle), between))
    (hsecond : middle.step.run between = ((second, after), left)) :
    cpu.stepTwice.run plant = ((first, second, after), left) := by
  rw [stepTwice, Dialogue.run_bind, hfirst]
  dsimp only
  rw [Dialogue.run_bind, hsecond]
  rfl

/-- A pair that is pushed and popped as another. -/
theorem run_stepTwice_push_pop {pair pair' : Pair}
    (hrunning : cpu.halted = false)
    (hpopulated : plant.memory.PopulatedBelow cpu.regs.sp 2)
    (hkept : ¬ LiesBelow cpu.regs.sp 2 (cpu.regs.pc + 1))
    (hpush : decode (plant.memory.read cpu.regs.pc) = .push pair)
    (hpop : decode (plant.memory.read (cpu.regs.pc + 1)) = .pop pair') :
    ∃ lights opcode,
      let value := cpu.regs.pushed pair
      cpu.stepTwice.run plant =
        ((.executed, .executed,
          { cpu with
            regs := { cpu.regs.setPopped pair' value with
              pc := cpu.regs.pc + 2 }
            lights, opcode }),
          { plant with
            memory := plant.memory.pushed cpu.regs.sp value }) := by
  have hback : cpu.regs.sp - 2 + 2 = cpu.regs.sp := by grind
  have hnext : cpu.regs.pc + 1 + 1 = cpu.regs.pc + 2 := by grind
  rw [← Memory.read_pushed_of_not_liesBelow hkept] at hpop
  have hvalue := Memory.readWord_pushed (cpu.regs.pushed pair) hpopulated
  have hpopped := run_step_pop
    { cpu with
      regs.pc := cpu.regs.pc + 1, regs.sp := cpu.regs.sp - 2
      lights := ⟨cpu.regs.sp - 2, lowByte (cpu.regs.pushed pair)⟩
      opcode := plant.memory.read cpu.regs.pc }
    { plant with
      memory := plant.memory.pushed cpu.regs.sp (cpu.regs.pushed pair) }
    hrunning hpop
  dsimp only at hpopped
  rw [hvalue, hback, hnext] at hpopped
  have hpushed := run_step_push cpu plant hrunning hpush
  cases pair' <;> exact ⟨_, _, run_stepTwice hpushed hpopped⟩

/-- Whatever calls, where something that returns is called, leaves only the
bytes below the stack pointer changed. -/
theorem run_stepTwice_call_ret {target : UInt16}
    (hrunning : cpu.halted = false)
    (hpopulated : plant.memory.PopulatedBelow cpu.regs.sp 2)
    (hkept : ¬ LiesBelow cpu.regs.sp 2 target)
    (hcall : (decode (plant.memory.read cpu.regs.pc)).callTarget? cpu.regs.f
      (plant.memory.readWord (cpu.regs.pc + 1)) = some target)
    (hret : (decode (plant.memory.read target)).returns cpu.regs.f = true) :
    ∃ lights opcode,
      let caller := decode (plant.memory.read cpu.regs.pc)
      let after := cpu.regs.pc + 1 + UInt16.ofNat caller.operandBytes
      cpu.stepTwice.run plant =
        ((.executed, .executed,
          { cpu with regs.pc := after, lights, opcode }),
          { plant with
            memory := plant.memory.pushed cpu.regs.sp after }) := by
  have hback : cpu.regs.sp - 2 + 2 = cpu.regs.sp := by grind
  have hcalled := run_step_call cpu plant hrunning rfl hcall
  dsimp only at hcalled ⊢
  generalize cpu.regs.pc + 1 + UInt16.ofNat
    (decode (plant.memory.read cpu.regs.pc)).operandBytes = after at hcalled ⊢
  have hafter := Memory.readWord_pushed after hpopulated
  have hreturned := run_step_ret
    { cpu with
      regs.pc := target, regs.sp := cpu.regs.sp - 2
      lights := ⟨cpu.regs.sp - 2, lowByte after⟩
      opcode := plant.memory.read cpu.regs.pc }
    { plant with memory := plant.memory.pushed cpu.regs.sp after }
    hrunning rfl (by
      dsimp only
      rw [Memory.read_pushed_of_not_liesBelow hkept]
      exact hret)
  dsimp only at hreturned
  rw [hafter, hback] at hreturned
  exact ⟨_, _, run_stepTwice hcalled hreturned⟩

/-- The stack is last in, first out. Where words are pushed and popped, as
many of the one as of the other and none before it is there, each pop gives
what the matching push took, and everything is left as it was but the bytes
below the stack pointer that the words were in. A pair that is pushed and
popped as another is moved to it, of the flags byte the five flags, and what is
called returns to the address after the call. -/
theorem stack_lifo (cpu : Cpu) (plant : Plant π) :
    let sp := cpu.regs.sp
    let pc := cpu.regs.pc
    let m := plant.memory
    (∀ (actions : List StackAction) (popped : List UInt16) (limit : Nat),
        StackAction.play [] actions = some (popped, []) →
        StackAction.depth 0 actions ≤ limit → limit ≤ 32768 →
        m.PopulatedBelow sp (2 * limit) →
      ∃ lights memory,
        (cpu.playStack actions).run plant =
            ((popped, { cpu with lights }), { plant with memory })
          ∧ memory.size = m.size
          ∧ ∀ address, ¬ LiesBelow sp (2 * StackAction.depth 0 actions) address →
            memory.read address = m.read address)
      ∧ (∀ pair pair', cpu.halted = false →
          m.PopulatedBelow sp 2 → ¬ LiesBelow sp 2 (pc + 1) →
          decode (m.read pc) = .push pair →
          decode (m.read (pc + 1)) = .pop pair' →
        ∃ after : Cpu,
          cpu.stepTwice.run plant = ((.executed, .executed, after),
              { plant with memory := m.pushed sp (cpu.regs.pushed pair) })
            ∧ after = { cpu with
              regs := { cpu.regs.setPopped pair' (cpu.regs.pushed pair) with
                pc := pc + 2 }
              lights := after.lights, opcode := after.opcode }
            ∧ (pair ≠ .psw → pair' ≠ .psw →
              after.regs.getPair pair' = cpu.regs.getPair pair)
            ∧ (pair = .psw → pair' = .psw →
              after.regs.a = cpu.regs.a
                ∧ after.regs.f = cpu.regs.f &&& Flag.mask
                ∧ ∀ flag, after.regs.hasFlag flag = cpu.regs.hasFlag flag))
      ∧ (∀ target, cpu.halted = false →
          m.PopulatedBelow sp 2 → ¬ LiesBelow sp 2 target →
          (decode (m.read pc)).callTarget? cpu.regs.f (m.readWord (pc + 1)) =
            some target →
          (decode (m.read target)).returns cpu.regs.f = true →
        let after := pc + 1 + UInt16.ofNat (decode (m.read pc)).operandBytes
        ∃ lights opcode,
          cpu.stepTwice.run plant =
            ((.executed, .executed,
              { cpu with regs.pc := after, lights, opcode }),
              { plant with memory := m.pushed sp after })) := by
  intro sp pc m
  refine ⟨fun actions popped limit hplay hdepth hlimit hpopulated =>
      run_playStack_nil cpu plant hplay hdepth hlimit hpopulated,
    fun pair pair' hrunning hpopulated hkept hpush hpop => ?_,
    fun target hrunning hpopulated hkept hcall hret =>
      run_stepTwice_call_ret hrunning hpopulated hkept hcall hret⟩
  obtain ⟨lights, opcode, hrun⟩ :=
    run_stepTwice_push_pop hrunning hpopulated hkept hpush hpop
  refine ⟨_, hrun, rfl, fun hpair hpair' => ?_, ?_⟩
  · exact (Registers.getPair_withPc _ _ pair').trans
      (Registers.getPair_setPopped_pushed cpu.regs hpair hpair')
  · rintro rfl rfl
    rw [Registers.setPopped_pushed_psw]
    exact ⟨rfl, rfl, fun flag => flag.isSet_and_mask cpu.regs.f⟩

/-- With the stack pointer at 1, the first word that is pushed is stored at
both ends of the address space. -/
theorem stack_lifo_around_zero :
    let cpu : Cpu := { regs := { b := 0x12, c := 0x34, sp := 1, pc := 0x100 } }
    let holding (program : Bytes) : Plant Ports :=
      { memory := (Memory.ofSize addressSpace).load 0x100 program, ports := {} }
    let moving := holding #[0xC5, 0xD1]
    let calling := holding #[0xCD, 0x04, 0x01, 0x00, 0xC9]
    let actions : List StackAction := [.push 0x1234, .push 0x5678, .pop, .pop]
    (StackAction.play [] actions = some ([0x5678, 0x1234], [])
        ∧ StackAction.depth 0 actions ≤ 2
        ∧ moving.memory.PopulatedBelow cpu.regs.sp 4
        ∧ ∃ lights memory,
          (cpu.playStack actions).run moving =
              (([0x5678, 0x1234], { cpu with lights }),
                { moving with memory })
            ∧ ∀ address, ¬ LiesBelow 1 4 address →
              memory.read address = moving.memory.read address)
      ∧ (decode (moving.memory.read 0x100) = .push .bc
        ∧ decode (moving.memory.read 0x101) = .pop .de
        ∧ (cpu.stepTwice.run moving).1.2.2.regs.getPair .de = 0x1234)
      ∧ (decode (calling.memory.read 0x100) = .call
        ∧ decode (calling.memory.read 0x104) = .ret
        ∧ (cpu.stepTwice.run calling).1.2.2.regs.pc = 0x103) := by
  intro cpu holding moving calling actions
  have hfull (program : Bytes) : (holding program).memory.size = addressSpace :=
    (Memory.size_load _ _ _).trans (Memory.size_ofSize addressSpace)
  have hpopulated (program : Bytes) (top : UInt16) (count : Nat) :
      (holding program).memory.PopulatedBelow top count :=
    fun address _ => Memory.lt_size_of_full (hfull program) address
  have hread (program : Bytes) (address : UInt16) :
      (holding program).memory.read address =
        if 0x100 ≤ address.toNat ∧ address.toNat < 0x100 + program.size then
          byteAt program (address.toNat - 0x100)
        else 0 := by
    refine (Memory.read_load_of_full
      (Memory.size_ofSize addressSpace) _ _ _).trans ?_
    rw [Memory.read_ofSize]
    rfl
  have hpush : decode (moving.memory.read 0x100) = .push .bc := by
    rw [hread]
    decide
  have hpop : decode (moving.memory.read 0x101) = .pop .de := by
    rw [hread]
    decide
  have hcall : decode (calling.memory.read 0x100) = .call := by
    rw [hread]
    decide
  have hret : decode (calling.memory.read 0x104) = .ret := by
    rw [hread]
    decide
  have htarget : calling.memory.readWord 0x101 = 0x104 := by
    rw [Memory.readWord, hread, hread]
    decide
  obtain ⟨hstack, hpairs, -⟩ := stack_lifo cpu moving
  obtain ⟨-, -, hcalls⟩ := stack_lifo cpu calling
  obtain ⟨lights, memory, hrun, -, hsame⟩ :=
    hstack actions [0x5678, 0x1234] 2 rfl (by decide) (by decide)
      (hpopulated _ _ _)
  obtain ⟨after, hmoved, -, hpair, -⟩ :=
    hpairs .bc .de rfl (hpopulated _ _ _) (by decide) hpush hpop
  obtain ⟨lights', opcode', hcalled⟩ :=
    hcalls 0x104 rfl (hpopulated _ _ _) (by decide)
      (by rw [hcall]; exact congrArg some htarget) (by rw [hret]; rfl)
  refine ⟨⟨rfl, by decide, hpopulated _ _ _, lights, memory, hrun, hsame⟩,
    ⟨hpush, hpop, ?_⟩, hcall, hret, ?_⟩
  · rw [hmoved]
    exact (hpair (by decide) (by decide)).trans (by decide)
  · rw [hcalled]
    dsimp only
    rw [hcall]
    rfl

end Cpu

end S100
