import S100.Proofs.Cpu.Steps
import S100.Proofs.Run.Slices

/-!
# What the processor never looks at

The lights, the last opcode and the interrupt-enable latch can be seen from
outside. No instruction depends on them: the latch delivers no interrupts,
and what an instruction needs of a cycle it takes from the bus and not from
the lights. `SameCore` is what two processors have in common that may be
different in all three.

Two dialogues are `Alike` if they make the same cycles whatever they are
answered. The parts that instructions are put together from are alike for
processors with the same core, so each instruction is
(`SameCore.execute`), and so is a step. `observables_never_feed_back` says
it of any number of steps on any system.
-/

namespace S100

namespace Dialogue

variable {α β γ δ : Type} {R : α → β → Prop} {S : γ → δ → Prop}

/-- Whatever they are answered, the two dialogues make the same cycles, and
they come to results that are related. -/
inductive Alike (R : α → β → Prop) : Dialogue α → Dialogue β → Prop where
  | done {a : α} {b : β} : R a b → Alike R (.done a) (.done b)
  | read {address : UInt16} {next : UInt8 → Dialogue α}
      {next' : UInt8 → Dialogue β} :
      (∀ data, Alike R (next data) (next' data)) →
      Alike R (.read address next) (.read address next')
  | write {address : UInt16} {data : UInt8} {next : Dialogue α}
      {next' : Dialogue β} : Alike R next next' →
      Alike R (.write address data next) (.write address data next')
  | input {port : UInt8} {next : UInt8 → Dialogue α}
      {next' : UInt8 → Dialogue β} :
      (∀ data, Alike R (next data) (next' data)) →
      Alike R (.input port next) (.input port next')
  | output {port data : UInt8} {next : Dialogue α} {next' : Dialogue β} :
      Alike R next next' →
      Alike R (.output port data next) (.output port data next')

namespace Alike

variable {d : Dialogue α} {e : Dialogue β}

theorem bind {f : α → Dialogue γ} {g : β → Dialogue δ} (h : Alike R d e)
    (hnext : ∀ a b, R a b → Alike S (f a) (g b)) :
    Alike S (d >>= f) (e >>= g) := by
  induction h with
  | done hab => exact hnext _ _ hab
  | read _ ih => exact .read ih
  | write _ ih => exact .write ih
  | input _ ih => exact .input ih
  | output _ ih => exact .output ih

variable {σ : Type} [Bus σ]

/-- Held with the same system, they leave it in the same state. -/
theorem run (h : Alike R d e) (bus : σ) :
    R (d.run bus).1 (e.run bus).1 ∧ (d.run bus).2 = (e.run bus).2 := by
  induction h generalizing bus with
  | done hab => exact ⟨hab, rfl⟩
  | read _ ih => exact ih _ _
  | write _ ih => exact ih _
  | input _ ih => exact ih _ _
  | output _ ih => exact ih _

theorem cycles (h : Alike R d e) (bus : σ) : d.cycles bus = e.cycles bus := by
  induction h generalizing bus with
  | done _ => rfl
  | read _ ih => exact congrArg (_ :: ·) (ih _ _)
  | write _ ih => exact congrArg (_ :: ·) (ih _)
  | input _ ih => exact congrArg (_ :: ·) (ih _ _)
  | output _ ih => exact congrArg (_ :: ·) (ih _)

end Alike

end Dialogue

open Dialogue

namespace Cpu

/-! ## Processors with the same core -/

/-- The two processors differ at most in what can only be seen from
outside: lights, last opcode and interrupt-enable latch. -/
structure SameCore (cpu cpu' : Cpu) : Prop where
  regs : cpu.regs = cpu'.regs
  halted : cpu.halted = cpu'.halted

/-- The same value, and processors with the same core. -/
def SameResult {α : Type} (p q : α × Cpu) : Prop :=
  p.1 = q.1 ∧ SameCore p.2 q.2

/-- Go on from the same value. -/
theorem alike_bind {α γ δ : Type} {S : γ → δ → Prop}
    {d e : Dialogue (α × Cpu)} {f : α × Cpu → Dialogue γ}
    {g : α × Cpu → Dialogue δ} (h : Alike SameResult d e)
    (hnext : ∀ a cpu cpu', SameCore cpu cpu' →
      Alike S (f (a, cpu)) (g (a, cpu'))) :
    Alike S (d >>= f) (e >>= g) := by
  refine h.bind ?_
  rintro ⟨a, cpu⟩ ⟨_, cpu'⟩ ⟨rfl, hcore⟩
  exact hnext a cpu cpu' hcore

namespace SameCore

variable {cpu cpu' : Cpu}

/-- What an instruction makes of the registers depends on nothing else. -/
theorem withRegs (h : SameCore cpu cpu') (f : Registers → Registers) :
    SameCore { cpu with regs := f cpu.regs }
      { cpu' with regs := f cpu'.regs } :=
  ⟨congrArg f h.regs, h.halted⟩

theorem holds (h : SameCore cpu cpu') (condition : Condition) :
    cpu.holds condition = cpu'.holds condition :=
  congrArg (fun regs : Registers => condition.holds regs.f) h.regs

theorem jumpTo (h : SameCore cpu cpu') (address : UInt16) :
    SameCore (cpu.jumpTo address) (cpu'.jumpTo address) :=
  h.withRegs fun r => { r with pc := address }

/-! ### Cycles -/

theorem readAt (h : SameCore cpu cpu') (address : UInt16) :
    Alike SameResult (cpu.readAt address) (cpu'.readAt address) :=
  .read fun _ => .done ⟨rfl, h.regs, h.halted⟩

theorem writeAt (h : SameCore cpu cpu') (address : UInt16) (data : UInt8) :
    Alike SameCore (cpu.writeAt address data) (cpu'.writeAt address data) :=
  .write (.done ⟨h.regs, h.halted⟩)

theorem inputFrom (h : SameCore cpu cpu') (port : UInt8) :
    Alike SameResult (cpu.inputFrom port) (cpu'.inputFrom port) :=
  .input fun _ => .done ⟨rfl, h.regs, h.halted⟩

theorem outputTo (h : SameCore cpu cpu') (port data : UInt8) :
    Alike SameCore (cpu.outputTo port data) (cpu'.outputTo port data) :=
  .output (.done ⟨h.regs, h.halted⟩)

theorem readWordAt (h : SameCore cpu cpu') (address : UInt16) :
    Alike SameResult (cpu.readWordAt address) (cpu'.readWordAt address) :=
  alike_bind (h.readAt address) fun _ _ _ h =>
    alike_bind (h.readAt (address + 1)) fun _ _ _ h => .done ⟨rfl, h⟩

theorem writeWordAt (h : SameCore cpu cpu') (address value : UInt16) :
    Alike SameCore (cpu.writeWordAt address value)
      (cpu'.writeWordAt address value) :=
  (h.writeAt address (lowByte value)).bind fun _ _ h =>
    h.writeAt (address + 1) (highByte value)

theorem fetch (h : SameCore cpu cpu') :
    Alike SameResult cpu.fetch cpu'.fetch := by
  unfold Cpu.fetch
  rw [← h.regs]
  exact alike_bind (h.readAt cpu.regs.pc) fun _ _ _ h =>
    .done ⟨rfl, h.withRegs fun r => { r with pc := r.pc + 1 }⟩

theorem fetchWord (h : SameCore cpu cpu') :
    Alike SameResult cpu.fetchWord cpu'.fetchWord :=
  alike_bind h.fetch fun _ _ _ h =>
    alike_bind h.fetch fun _ _ _ h => .done ⟨rfl, h⟩

theorem load (h : SameCore cpu cpu') (source : Operand) :
    Alike SameResult (cpu.load source) (cpu'.load source) := by
  cases source with
  | reg register => exact .done ⟨congrArg (·.get register) h.regs, h⟩
  | mem =>
      simp only [Cpu.load, ← h.regs]
      exact h.readAt cpu.regs.hl

theorem store (h : SameCore cpu cpu') (target : Operand) (value : UInt8) :
    Alike SameCore (cpu.store target value) (cpu'.store target value) := by
  cases target with
  | reg register => exact .done (h.withRegs (·.set register value))
  | mem =>
      simp only [Cpu.store, ← h.regs]
      exact h.writeAt cpu.regs.hl value

/-! ### The stack -/

theorem pushWord (h : SameCore cpu cpu') (value : UInt16) :
    Alike SameCore (cpu.pushWord value) (cpu'.pushWord value) := by
  unfold Cpu.pushWord
  rw [← h.regs]
  refine (h.writeAt (cpu.regs.sp - 1) (highByte value)).bind fun _ _ h => ?_
  refine (h.writeAt (cpu.regs.sp - 2) (lowByte value)).bind fun _ _ h => ?_
  exact .done (h.withRegs fun r => { r with sp := cpu.regs.sp - 2 })

theorem popWord (h : SameCore cpu cpu') :
    Alike SameResult cpu.popWord cpu'.popWord := by
  unfold Cpu.popWord
  rw [← h.regs]
  exact alike_bind (h.readWordAt cpu.regs.sp) fun _ _ _ h =>
    .done ⟨rfl, h.withRegs fun r => { r with sp := cpu.regs.sp + 2 }⟩

theorem callTo (h : SameCore cpu cpu') (address : UInt16) :
    Alike SameCore (cpu.callTo address) (cpu'.callTo address) := by
  unfold Cpu.callTo
  rw [← h.regs]
  exact (h.pushWord cpu.regs.pc).bind fun _ _ h => .done (h.jumpTo address)

theorem ret (h : SameCore cpu cpu') : Alike SameCore cpu.ret cpu'.ret :=
  alike_bind h.popWord fun address _ _ h => .done (h.jumpTo address)

/-! ### Instructions -/

theorem operate (h : SameCore cpu cpu') (operation : Operation)
    (value : UInt8) :
    SameCore (cpu.operate operation value) (cpu'.operate operation value) := by
  unfold Cpu.operate
  rw [← h.regs]
  exact ⟨rfl, h.halted⟩

theorem storeKeepingCarry (h : SameCore cpu cpu') (target : Operand)
    (result : Flagged) :
    Alike SameCore (cpu.storeKeepingCarry target result)
      (cpu'.storeKeepingCarry target result) := by
  refine SameCore.store ?_ target result.value
  exact h.withRegs fun r =>
    r.setFlags (r.f &&& Flag.carry.bit ||| result.flags)

theorem execute (h : SameCore cpu cpu') (i : Instruction) :
    Alike SameCore (cpu.execute i) (cpu'.execute i) := by
  cases i with
  | nop => exact .done h
  | undefined => exact .done h
  | hlt => exact .done ⟨h.regs, rfl⟩
  | di => exact .done ⟨h.regs, h.halted⟩
  | ei => exact .done ⟨h.regs, h.halted⟩
  | mov target source =>
      exact alike_bind (h.load source) fun value _ _ h => h.store target value
  | mvi target =>
      exact alike_bind h.fetch fun value _ _ h => h.store target value
  | lxi target =>
      exact alike_bind h.fetchWord fun value _ _ h =>
        .done (h.withRegs (·.setWord target value))
  | stax pointer =>
      simp only [Cpu.execute, ← h.regs]
      exact h.writeAt _ _
  | ldax pointer =>
      simp only [Cpu.execute, ← h.regs]
      exact alike_bind (h.readAt _) fun a _ _ h =>
        .done (h.withRegs ({ · with a }))
  | sta =>
      refine alike_bind h.fetchWord fun address _ _ h => ?_
      dsimp only
      rw [← h.regs]
      exact h.writeAt _ _
  | lda =>
      exact alike_bind h.fetchWord fun address _ _ h =>
        alike_bind (h.readAt address) fun a _ _ h =>
          .done (h.withRegs ({ · with a }))
  | shld =>
      refine alike_bind h.fetchWord fun address _ _ h => ?_
      dsimp only
      rw [← h.regs]
      exact h.writeWordAt _ _
  | lhld =>
      exact alike_bind h.fetchWord fun address _ _ h =>
        alike_bind (h.readWordAt address) fun value _ _ h =>
          .done (h.withRegs (·.setPair .hl value))
  | xchg =>
      exact .done (h.withRegs fun r =>
        { r with d := r.h, e := r.l, h := r.d, l := r.e })
  | alu operation source =>
      exact alike_bind (h.load source) fun value _ _ h =>
        .done (h.operate operation value)
  | aluImmediate operation =>
      exact alike_bind h.fetch fun value _ _ h =>
        .done (h.operate operation value)
  | inr target =>
      exact alike_bind (h.load target) fun _ _ _ h =>
        h.storeKeepingCarry target _
  | dcr target =>
      exact alike_bind (h.load target) fun _ _ _ h =>
        h.storeKeepingCarry target _
  | inx target =>
      exact .done (h.withRegs fun r => r.setWord target (r.getWord target + 1))
  | dcx target =>
      exact .done (h.withRegs fun r => r.setWord target (r.getWord target - 1))
  | stc => exact .done (h.withRegs (·.setCarry true))
  | cma => exact .done (h.withRegs fun r => { r with a := ~~~r.a })
  | cmc => exact .done (h.withRegs fun r => r.setCarry !r.hasFlag .carry)
  | daa | dad | rlc | rrc | ral | rar =>
      simp only [Cpu.execute, setRotated, ← h.regs]
      exact .done ⟨rfl, h.halted⟩
  | jmp =>
      exact alike_bind h.fetchWord fun address _ _ h => .done (h.jumpTo address)
  | jumpIf condition =>
      refine alike_bind h.fetchWord fun address _ _ h => ?_
      dsimp only
      rw [← h.holds]
      split
      · exact .done (h.jumpTo address)
      · exact .done h
  | call =>
      exact alike_bind h.fetchWord fun address _ _ h => h.callTo address
  | callIf condition =>
      refine alike_bind h.fetchWord fun address _ _ h => ?_
      dsimp only
      rw [← h.holds]
      split
      · exact h.callTo address
      · exact .done h
  | ret => exact h.ret
  | retIf condition =>
      simp only [Cpu.execute, ← h.holds]
      split
      · exact h.ret
      · exact .done h
  | rst vector => exact h.callTo _
  | pchl => exact .done (h.withRegs fun r => { r with pc := r.hl })
  | push pair =>
      simp only [Cpu.execute, ← h.regs]
      exact h.pushWord _
  | pop pair =>
      exact alike_bind h.popWord fun value _ _ h =>
        .done (h.withRegs (·.setPopped pair value))
  | xthl =>
      simp only [Cpu.execute, ← h.regs]
      refine alike_bind (h.readWordAt _) fun value _ _ h => ?_
      dsimp only
      rw [← h.regs]
      exact (h.writeWordAt _ _).bind fun _ _ h =>
        .done (h.withRegs (·.setPair .hl value))
  | sphl => exact .done (h.withRegs fun r => { r with sp := r.hl })
  | input =>
      exact alike_bind h.fetch fun port _ _ h =>
        alike_bind (h.inputFrom port) fun a _ _ h =>
          .done (h.withRegs ({ · with a }))
  | output =>
      refine alike_bind h.fetch fun port _ _ h => ?_
      dsimp only
      rw [← h.regs]
      exact h.outputTo port _

theorem step (h : SameCore cpu cpu') :
    Alike SameResult cpu.step cpu'.step := by
  unfold Cpu.step
  rw [← h.halted]
  split
  · exact .done ⟨rfl, h⟩
  · refine alike_bind h.fetch fun opcode cpu cpu' h => ?_
    have hfetched : SameCore { cpu with opcode } { cpu' with opcode } :=
      ⟨h.regs, h.halted⟩
    exact (hfetched.execute (Instruction.decode opcode)).bind fun _ _ h =>
      .done ⟨rfl, h⟩

end SameCore

end Cpu

/-! ## Any number of steps -/

/-- A processor and the system that it is on. -/
structure Computer (σ : Type) where
  cpu : Cpu
  bus : σ

namespace Computer

variable {σ : Type} [Bus σ]

instance : Steppable (Computer σ) where
  step c :=
    let ((result, cpu), bus) := c.cpu.step.run c.bus
    (result, ⟨cpu, bus⟩)
  pc c := c.cpu.regs.pc

/-- The cycles of the next step. -/
def cycles (c : Computer σ) : List Cycle :=
  c.cpu.step.cycles c.bus

/-- The same but for what can only be seen from outside. -/
structure Same (c c' : Computer σ) : Prop where
  core : c.cpu.SameCore c'.cpu
  bus : c.bus = c'.bus

variable {c c' : Computer σ}

theorem Same.step (h : Same c c') :
    (Steppable.step c).1 = (Steppable.step c').1
      ∧ Same (Steppable.step c).2 (Steppable.step c').2 := by
  obtain ⟨cpu, bus⟩ := c
  obtain ⟨cpu', _⟩ := c'
  obtain ⟨hcore, rfl⟩ := h
  obtain ⟨⟨hresult, hcore'⟩, hbus⟩ := hcore.step.run bus
  exact ⟨hresult, hcore', hbus⟩

theorem Same.cycles (h : Same c c') : c.cycles = c'.cycles := by
  unfold Computer.cycles
  rw [← h.bus]
  exact h.core.step.cycles c.bus

theorem Same.stepped (h : Same c c') (n : Nat) :
    Same (S100.stepped n c) (S100.stepped n c') := by
  induction n generalizing c c' with
  | zero => exact h
  | succ n ih => exact ih h.step.2

end Computer

/-- Two processors with the same registers and halt latch, and with any
lights, last opcodes and interrupt-enable latches, are on systems in the
same state. After any number of steps they still have the same registers
and halt latch, their systems are in the same state, and in the next step
they make the same cycles and report the same. -/
theorem observables_never_feed_back {σ : Type} [Bus σ] (regs : Registers)
    (halted : Bool) (bus : σ) (enabled enabled' : Bool)
    (lights lights' : Lights) (opcode opcode' : UInt8) (n : Nat) :
    let c : Computer σ :=
      stepped n ⟨⟨regs, enabled, halted, lights, opcode⟩, bus⟩
    let c' : Computer σ :=
      stepped n ⟨⟨regs, enabled', halted, lights', opcode'⟩, bus⟩
    (Steppable.step c).1 = (Steppable.step c').1
    ∧ c.cycles = c'.cycles
    ∧ c.cpu.regs = c'.cpu.regs
    ∧ c.cpu.halted = c'.cpu.halted
    ∧ c.bus = c'.bus := by
  intro c c'
  have hstart : Computer.Same (σ := σ)
      ⟨⟨regs, enabled, halted, lights, opcode⟩, bus⟩
      ⟨⟨regs, enabled', halted, lights', opcode'⟩, bus⟩ :=
    ⟨⟨rfl, rfl⟩, rfl⟩
  have h : Computer.Same c c' := hstart.stepped n
  exact ⟨h.step.1, h.cycles, h.core.regs, h.core.halted, h.bus⟩

end S100
