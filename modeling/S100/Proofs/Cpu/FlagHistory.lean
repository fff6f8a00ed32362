import S100.Cpu.FrontPanel
import S100.Proofs.Cpu.Arithmetic
import S100.Proofs.Cpu.Steps

/-!
# What the flags remember

Sign, zero and parity describe one byte: the result of the last instruction
that has one. To say so, a record is kept beside the processor: the last
result, and whether flags have been taken from the stack meanwhile
(`Recorded`). `Cpu.resultOf` names the result of each instruction in the
arithmetic of bytes and without a word about flags.

All that an instruction can do to the flags byte is listed by `FlagChange`,
and `flagChange_execute` goes through the instructions once. What the flags
remember is then carried along any run, with the front panel and the host
at work between the steps (`Recorded.remembered_act`), and `flags_remember`
says it of every run from power-on or a reset.
-/

namespace S100

/-! ## Results -/

/-- The result of an operation on the accumulator. -/
def Operation.result (operation : Operation) (a b : UInt8) (carry : Bool) :
    UInt8 :=
  match operation with
  | .add => a + b
  | .adc => a + b + carry.toUInt8
  | .sub | .cmp => a - b
  | .sbb => a - b - carry.toUInt8
  | .ana => a &&& b
  | .xra => a ^^^ b
  | .ora => a ||| b

theorem toNat_toUInt8 (b : Bool) : b.toUInt8.toNat = b.toNat := by
  cases b <;> rfl

theorem Arithmetic.value_add (a b : UInt8) (carry : Bool) :
    (add a b carry).value = a + b + carry.toUInt8 := by
  apply UInt8.toNat_inj.mp
  simp only [add, UInt8.toNat_ofNat', UInt8.toNat_add, toNat_toUInt8]
  omega

theorem Arithmetic.value_sub (a b : UInt8) (carry : Bool) :
    (sub a b carry).value = a - b - carry.toUInt8 := by
  have ha := a.toNat_lt
  have hb := b.toNat_lt
  have hc := carry.toNat_lt
  apply UInt8.toNat_inj.mp
  simp only [sub, UInt8.toNat_ofNat', UInt8.toNat_sub, toNat_toUInt8]
  omega

theorem Operation.value_apply (operation : Operation) (a b : UInt8)
    (carry : Bool) :
    (operation.apply a b carry).value = operation.result a b carry := by
  cases operation with
  | add => exact (Arithmetic.value_add a b false).trans (UInt8.add_zero _)
  | adc => exact Arithmetic.value_add a b carry
  | sub => exact (Arithmetic.value_sub a b false).trans (UInt8.sub_zero _)
  | sbb => exact Arithmetic.value_sub a b carry
  | ana => rfl
  | xra => rfl
  | ora => rfl
  | cmp => exact (Arithmetic.value_sub a b false).trans (UInt8.sub_zero _)

theorem Operation.flags_apply (operation : Operation) (a b : UInt8)
    (carry : Bool) :
    ∃ auxCarry carryOut, (operation.apply a b carry).flags =
      resultFlags (operation.result a b carry) auxCarry carryOut := by
  rw [← value_apply]
  cases operation <;> exact ⟨_, _, rfl⟩

/-- Whether the instruction takes the flags from the stack. -/
def Instruction.popsFlags : Instruction → Bool
  | .pop .psw => true
  | _ => false

namespace Cpu

/-- The result of an instruction, if it is one of those that set the flags
by their result. What decimal adjustment results in is left in the
accumulator. -/
def resultOf (cpu : Cpu) : Instruction → Dialogue (Option UInt8)
  | .alu operation source => do
    let (value, cpu) ← cpu.load source
    return some
      (operation.result cpu.regs.a value (cpu.regs.hasFlag .carry))
  | .aluImmediate operation => do
    let (value, cpu) ← cpu.fetch
    return some
      (operation.result cpu.regs.a value (cpu.regs.hasFlag .carry))
  | .inr target => do
    let (value, _) ← cpu.load target
    return some (value + 1)
  | .dcr target => do
    let (value, _) ← cpu.load target
    return some (value - 1)
  | .daa => do
    let cpu ← cpu.execute .daa
    return some cpu.regs.a
  | _ => return none

/-- The result of the instruction that a step executes. -/
def stepResult (cpu : Cpu) : Dialogue (Option UInt8) :=
  if cpu.halted then return none
  else do
    let (opcode, cpu) ← cpu.fetch
    { cpu with opcode }.resultOf (Instruction.decode opcode)

end Cpu

/-! ## Changes of the flags byte -/

/-- A flags byte with the carry set or cleared. -/
def withCarry (flags : UInt8) (carry : Bool) : UInt8 :=
  (bif carry then flags ||| Flag.carry.bit else flags &&& ~~~Flag.carry.bit)
    &&& Flag.mask

/-- What can become of a flags byte in an instruction that has the given
result, if any, and takes the flags from the stack or does not. -/
inductive FlagChange (before : UInt8) : Option UInt8 → Bool → UInt8 → Prop
  | kept : FlagChange before none false before
  | carried (carry : Bool) :
      FlagChange before none false (withCarry before carry)
  | told (value : UInt8) (auxCarry carry : Bool) :
      FlagChange before (some value) false (resultFlags value auxCarry carry)
  | popped (byte : UInt8) :
      FlagChange before none true (byte &&& Flag.mask)

theorem FlagChange.of_eq {before after : UInt8} (h : after = before) :
    FlagChange before none false after :=
  h ▸ .kept

/-- Flags of a result, with the carry that was there before. -/
theorem keepingCarry (flags value : UInt8) (auxCarry : Bool) :
    (flags &&& Flag.carry.bit ||| resultFlags value auxCarry false)
        &&& Flag.mask =
      resultFlags value auxCarry (Flag.carry.isSet flags) := by
  apply UInt8.toNat_inj.mp
  rw [toNat_keepingCarry, toNat_resultFlags, isSet_carry]

theorem resultFlags_and_mask (value : UInt8) (auxCarry carry : Bool) :
    resultFlags value auxCarry carry &&& Flag.mask =
      resultFlags value auxCarry carry :=
  flagsByte_and_mask _ _ _ _ _

namespace Cpu

variable {σ : Type} [Bus σ] (cpu : Cpu) (bus : σ)

theorem regs_load (source : Operand) :
    ((cpu.load source).run bus).1.2.regs = cpu.regs := by
  cases source with
  | reg register => rfl
  | mem => rfl

theorem f_store (target : Operand) (value : UInt8) :
    ((cpu.store target value).run bus).1.regs.f = cpu.regs.f := by
  cases target with
  | reg register => cases register <;> rfl
  | mem => rfl

theorem flagChange_operate (operation : Operation) (value : UInt8) :
    FlagChange cpu.regs.f
      (some (operation.result cpu.regs.a value (cpu.regs.hasFlag .carry)))
      false (cpu.operate operation value).regs.f := by
  obtain ⟨auxCarry, carry, hflags⟩ :=
    operation.flags_apply cpu.regs.a value (cpu.regs.hasFlag .carry)
  have hf : (cpu.operate operation value).regs.f =
      (operation.apply cpu.regs.a value
        (cpu.regs.hasFlag .carry)).flags &&& Flag.mask := by
    unfold operate
    split <;> rfl
  rw [hf, hflags, resultFlags_and_mask]
  exact .told _ _ _

/-- An operation on one byte that says nothing about carry. -/
theorem flagChange_onByte (target : Operand) {f : UInt8 → Flagged}
    (hf : ∀ value, ∃ auxCarry,
      (f value).flags = resultFlags (f value).value auxCarry false) :
    let loaded := (cpu.load target).run bus
    FlagChange cpu.regs.f (some (f loaded.1.1).value) false
      ((loaded.1.2.storeKeepingCarry target (f loaded.1.1)).run
        loaded.2).1.regs.f := by
  intro loaded
  obtain ⟨auxCarry, hflags⟩ := hf loaded.1.1
  have hkeep := keepingCarry cpu.regs.f (f loaded.1.1).value auxCarry
  rw [storeKeepingCarry, f_store, regs_load, hflags, Registers.setFlags, hkeep]
  exact .told _ _ _

/-- All that an instruction can do to the flags. -/
theorem flagChange_execute (instruction : Instruction) :
    FlagChange cpu.regs.f ((cpu.resultOf instruction).run bus).1
      instruction.popsFlags
      ((cpu.execute instruction).run bus).1.regs.f := by
  cases instruction with
  | alu operation source =>
      have h := flagChange_operate ((cpu.load source).run bus).1.2
        operation ((cpu.load source).run bus).1.1
      rw [regs_load] at h
      simp only [resultOf, execute, Dialogue.run_bind, regs_load]
      exact h
  | aluImmediate operation =>
      exact flagChange_operate (cpu.fetch.run bus).1.2 operation
        (cpu.fetch.run bus).1.1
  | inr target =>
      have h := flagChange_onByte cpu bus target
        (f := Arithmetic.increment) fun _ => ⟨_, rfl⟩
      simp only [resultOf, execute, Dialogue.run_bind]
      exact h
  | dcr target =>
      have h := flagChange_onByte cpu bus target
        (f := Arithmetic.decrement) fun _ => ⟨_, rfl⟩
      simp only [resultOf, execute, Dialogue.run_bind]
      exact h
  | daa =>
      have hf : ((cpu.execute .daa).run bus).1.regs.f =
          (Arithmetic.decimalAdjust cpu.regs.a cpu.regs.f).flags
            &&& Flag.mask := rfl
      rw [hf, Arithmetic.decimalAdjust, resultFlags_and_mask]
      exact .told _ _ _
  | dad source => exact .carried _
  | rlc => exact .carried _
  | rrc => exact .carried _
  | ral => exact .carried _
  | rar => exact .carried _
  | stc => exact .carried _
  | cmc => exact .carried _
  | pop pair =>
      cases pair with
      | psw => exact .popped _
      | _ => exact .kept
  -- what is left keeps the flags; it must only be seen to
  | mov target source =>
      refine .of_eq ?_
      rw [execute, Dialogue.run_bind, f_store, regs_load]
  | mvi target => exact .of_eq (f_store _ _ target _)
  | lxi target => cases target <;> exact .kept
  | inx target => cases target <;> exact .kept
  | dcx target => cases target <;> exact .kept
  | jumpIf condition =>
      have hf (cpu : Cpu) (address : UInt16) :
          (if cpu.holds condition then cpu.jumpTo address
            else cpu).regs.f = cpu.regs.f := by
        split <;> rfl
      exact .of_eq (hf (cpu.fetchWord.run bus).1.2 _)
  | callIf condition =>
      have hf (cpu : Cpu) (address : UInt16) (bus : σ) :
          ((if cpu.holds condition then cpu.callTo address
            else return cpu).run bus).1.regs.f = cpu.regs.f := by
        split <;> rfl
      exact .of_eq (hf (cpu.fetchWord.run bus).1.2 _ _)
  | retIf condition =>
      refine .of_eq ?_
      rw [execute]
      split <;> rfl
  | _ => exact .kept

theorem flagChange_step :
    FlagChange cpu.regs.f (cpu.stepResult.run bus).1
      ((cpu.next? bus).any Instruction.popsFlags)
      (cpu.step.run bus).1.2.regs.f := by
  rw [stepResult, next?]
  cases hhalted : cpu.halted with
  | true =>
      rw [step_of_halted hhalted]
      exact .kept
  | false =>
      rw [run_step_of_running hhalted, if_neg Bool.false_ne_true,
        if_neg Bool.false_ne_true]
      exact flagChange_execute (cpu.fetched (Bus.read bus cpu.regs.pc).1)
        (Bus.read bus cpu.regs.pc).2
        (Instruction.decode (Bus.read bus cpu.regs.pc).1)

/-- The flags are pushed with bit 1 set. -/
theorem cycles_push_psw (h : cpu.next? bus = some (.push .psw)) :
    cpu.step.cycles bus =
      [.read cpu.regs.pc (Bus.read bus cpu.regs.pc).1,
        .write (cpu.regs.sp - 1) cpu.regs.a,
        .write (cpu.regs.sp - 2) (cpu.regs.f &&& Flag.mask ||| 0x02)] := by
  rw [next?] at h
  split at h
  · cases h
  · rename_i hhalted
    rw [Option.some.injEq] at h
    rw [step_of_running (by simpa using hhalted)]
    simp only [Dialogue.cycles, Dialogue.cycles_bind, h]
    simp [execute, pushWord, writeAt, fetched, Dialogue.cycles,
      Registers.pushed]

end Cpu

/-! ## What is remembered -/

/-- The flags are those of the result, and all clear when there is none. -/
structure Tells (flags : UInt8) (result : Option UInt8) : Prop where
  sign : Flag.sign.isSet flags = result.any (·.toNat.testBit 7)
  zero : Flag.zero.isSet flags = result.any (· == 0)
  parity : Flag.parity.isSet flags =
    result.any fun value =>
      (List.range 8).countP value.toNat.testBit % 2 == 0

namespace Tells

variable {flags : UInt8} {result : Option UInt8}

theorem not_zero_and_sign (h : Tells flags result) :
    ¬(Flag.zero.isSet flags = true ∧ Flag.sign.isSet flags = true) := by
  rw [h.zero, h.sign]
  cases result with
  | none => simp
  | some value =>
      rintro ⟨hzero, hsign⟩
      obtain rfl : value = 0 := by simpa using hzero
      exact absurd hsign (by decide)

theorem parity_of_zero (h : Tells flags result)
    (hzero : Flag.zero.isSet flags = true) :
    Flag.parity.isSet flags = true := by
  rw [h.zero] at hzero
  rw [h.parity]
  cases result with
  | none => simp at hzero
  | some value =>
      obtain rfl : value = 0 := by simpa using hzero
      decide

/-- The flags of a value are its sign, its being zero and its parity. -/
theorem of_resultFlags (value : UInt8) (auxCarry carry : Bool) :
    Tells (resultFlags value auxCarry carry) (some value) where
  sign := by
    simp only [resultFlags, isSet_flagsByte]
    revert value
    exact forall_byte (by decide +kernel)
  zero := by simp only [resultFlags, isSet_flagsByte, Option.any]
  parity := by
    simp only [resultFlags, isSet_flagsByte, evenParity_eq_count]
    rfl

end Tells

theorem and_mask_and_unused (flags : UInt8) :
    flags &&& Flag.mask &&& 0x2A = 0 := by
  rw [UInt8.and_assoc]
  exact UInt8.and_zero

theorem and_mask_of_unused (flags : UInt8) (h : flags &&& 0x2A = 0) :
    flags &&& Flag.mask = flags := by
  revert flags
  exact forall_byte (by decide +kernel)

theorem pushed_of_unused (flags : UInt8) (h : flags &&& 0x2A = 0) :
    (flags ||| 0x02) &&& 0x2A = 0x02 := by
  revert flags
  exact forall_byte (by decide +kernel)

theorem isSet_withCarry (flags : UInt8) (carry : Bool) {flag : Flag}
    (hflag : flag ≠ .carry) :
    flag.isSet (withCarry flags carry) = flag.isSet flags := by
  cases flag with
  | carry => exact absurd rfl hflag
  | _ => cases carry <;> revert flags <;> exact forall_byte (by decide +kernel)

/-- What the flags remember of the instructions since a reset: the last
result, as long as they have not been taken from the stack. The meaningless
bits are clear all the time. -/
structure Remembered (flags : UInt8) (result : Option UInt8) (popped : Bool) :
    Prop where
  unused : flags &&& 0x2A = 0
  tells : popped = false → Tells flags result

namespace Remembered

theorem clear : Remembered 0 none false where
  unused := rfl
  tells _ := ⟨rfl, rfl, rfl⟩

theorem change {before after : UInt8} {result later : Option UInt8}
    {popped pops : Bool} (h : Remembered before result popped)
    (hchange : FlagChange before later pops after) :
    Remembered after (later.or result) (popped || pops) := by
  cases hchange with
  | kept =>
      rw [Bool.or_false]
      exact h
  | carried carry =>
      refine ⟨and_mask_and_unused _, fun hpopped => ?_⟩
      have htells := h.tells (by simpa using hpopped)
      refine ⟨?_, ?_, ?_⟩
      · rw [isSet_withCarry _ _ (by decide)]
        exact htells.sign
      · rw [isSet_withCarry _ _ (by decide)]
        exact htells.zero
      · rw [isSet_withCarry _ _ (by decide)]
        exact htells.parity
  | told value auxCarry carry =>
      refine ⟨?_, fun _ => Tells.of_resultFlags value auxCarry carry⟩
      rw [← resultFlags_and_mask]
      exact and_mask_and_unused _
  | popped byte =>
      refine ⟨and_mask_and_unused _, fun hpopped => ?_⟩
      rw [Bool.or_true] at hpopped
      cases hpopped

end Remembered

/-! ## Runs -/

/-- What can happen to a processor and its bus. The host may change what is
on the bus in any way; a machine that resets says where its stack is to
be. -/
inductive Event (σ : Type) where
  | step
  | examine (address : UInt16)
  | examineNext
  | deposit (data : UInt8)
  | depositNext (data : UInt8)
  | host (change : σ → σ)
  | reset (sp : UInt16)

/-- A processor and its bus, with a record of what has happened since the
last reset. -/
structure Recorded (σ : Type) where
  cpu : Cpu
  bus : σ
  /-- The result of the last instruction that has one. -/
  result : Option UInt8 := none
  /-- Whether flags have been taken from the stack. -/
  popped : Bool := false

namespace Recorded

variable {σ : Type} [Bus σ]

def powerOn (sp : UInt16) (bus : σ) : Recorded σ where
  cpu := { regs.sp := sp }
  bus := bus

def step (r : Recorded σ) : Recorded σ where
  cpu := (r.cpu.step.run r.bus).1.2
  bus := (r.cpu.step.run r.bus).2
  result := (r.cpu.stepResult.run r.bus).1.or r.result
  popped := r.popped || (r.cpu.next? r.bus).any Instruction.popsFlags

def panel (r : Recorded σ) (d : Dialogue Cpu) : Recorded σ :=
  { r with cpu := (d.run r.bus).1, bus := (d.run r.bus).2 }

def act (r : Recorded σ) : Event σ → Recorded σ
  | .step => r.step
  | .examine address => r.panel (r.cpu.examine address)
  | .examineNext => r.panel r.cpu.examineNext
  | .deposit data => r.panel (r.cpu.deposit data)
  | .depositNext data => r.panel (r.cpu.depositNext data)
  | .host change => { r with bus := change r.bus }
  | .reset sp => powerOn sp r.bus

def run (r : Recorded σ) (events : List (Event σ)) : Recorded σ :=
  events.foldl act r

theorem remembered_act {r : Recorded σ}
    (h : Remembered r.cpu.regs.f r.result r.popped) (event : Event σ) :
    let after := r.act event
    Remembered after.cpu.regs.f after.result after.popped := by
  cases event with
  | step => exact h.change (r.cpu.flagChange_step r.bus)
  | examine address => exact h
  | examineNext => exact h
  | deposit data => exact h
  | depositNext data => exact h
  | host change => exact h
  | reset sp => exact .clear

theorem remembered_run {r : Recorded σ}
    (h : Remembered r.cpu.regs.f r.result r.popped)
    (events : List (Event σ)) :
    let after := r.run events
    Remembered after.cpu.regs.f after.result after.popped := by
  induction events generalizing r with
  | nil => exact h
  | cons event later ih => exact ih (remembered_act h event)

end Recorded

/-- After anything that can happen since power-on or a reset, the meaningless bits of
the flags byte are clear; if the flags are pushed next, they are pushed with
bit 1 set and bits 3 and 5 clear; and as long as none have been taken from
the stack, sign, zero and parity are those of the last result. -/
theorem flags_remember {σ : Type} [Bus σ] (sp : UInt16) (bus : σ)
    (events : List (Event σ)) :
    let r := (Recorded.powerOn sp bus).run events
    let flags := r.cpu.regs.f
    flags &&& 0x2A = 0
    ∧ (r.cpu.next? r.bus = some (.push .psw) →
        r.cpu.step.cycles r.bus =
          [.read r.cpu.regs.pc (Bus.read r.bus r.cpu.regs.pc).1,
            .write (r.cpu.regs.sp - 1) r.cpu.regs.a,
            .write (r.cpu.regs.sp - 2) (flags ||| 0x02)]
        ∧ (flags ||| 0x02) &&& 0x2A = 0x02)
    ∧ (r.popped = false →
        Tells flags r.result
        ∧ ¬(Flag.zero.isSet flags = true ∧ Flag.sign.isSet flags = true)
        ∧ (Flag.zero.isSet flags = true →
          Flag.parity.isSet flags = true)) := by
  intro r flags
  have h : Remembered flags r.result r.popped :=
    Recorded.remembered_run .clear events
  refine ⟨h.unused, fun hpush => ⟨?_, ?_⟩, fun hpopped => ?_⟩
  · have hcycles := Cpu.cycles_push_psw r.cpu r.bus hpush
    rwa [and_mask_of_unused _ h.unused] at hcycles
  · exact pushed_of_unused flags h.unused
  · have htells := h.tells hpopped
    exact ⟨htells, htells.not_zero_and_sign, htells.parity_of_zero⟩

end S100
