import S100.Cpu.Step
import S100.Memory
import S100.Proofs.Cpu.Decoding

/-!
# What a step does on the bus

Two steps may leave the same state and still not be the same to a device: a
cycle more or less, or two of them exchanged, and a port has been read
twice or the stack written the wrong way round. So the cycles of a step are
given here one by one, whatever the bus (`cycles_step`): first the bytes of
the instruction, from the program counter on, then what
`Instruction.dataCycles` lists, and nothing else.

The bytes that are read are whatever the bus answers, each in the state in
which the cycles before have left it (`Genuine`). Nor does anything but the
cycles change the bus, which is so of every dialogue (`genuine_cycles`,
`run_eq_foldl`).

The lights are set in each of the four kinds of cycle and nowhere else, so
they show the last one. This goes from the parts of a dialogue to the
whole (`Shows.bind`).
-/

namespace S100

variable {σ : Type} [Bus σ] {α β : Type}

/-! ## Cycles in a row -/

namespace Cycle

/-- What the lights show of a cycle. The number of a port is on both halves
of the address. -/
def lights : Cycle → Lights
  | read address data | write address data => ⟨address, data⟩
  | input port data | output port data => ⟨word port port, data⟩

/-- The state that a cycle leaves the bus in. -/
def next (bus : σ) : Cycle → σ
  | read address _ => (Bus.read bus address).2
  | write address data => Bus.write bus address data
  | input port _ => (Bus.input bus port).2
  | output port data => Bus.output bus port data

/-- What a cycle takes in is what the bus answers. -/
def Answered (bus : σ) : Cycle → Prop
  | read address data => (Bus.read bus address).1 = data
  | input port data => (Bus.input bus port).1 = data
  | write _ _ | output _ _ => True

/-- The cycles could be made on this bus one after another. -/
def Genuine (bus : σ) : List Cycle → Prop
  | [] => True
  | cycle :: rest => cycle.Answered bus ∧ Genuine (cycle.next bus) rest

/-- What the lights show after some cycles. -/
def shown (before : Lights) (cycles : List Cycle) : Lights :=
  cycles.foldl (fun _ cycle => cycle.lights) before

theorem shown_append (before : Lights) (first second : List Cycle) :
    shown before (first ++ second) = shown (shown before first) second :=
  List.foldl_append

/-- Only the last cycle is seen. -/
theorem getLast?_lights (before : Lights) {cycles : List Cycle}
    (h : cycles ≠ []) :
    cycles.getLast?.map lights = some (shown before cycles) := by
  obtain rfl | ⟨rest, last, rfl⟩ := List.eq_nil_or_concat cycles
  · exact absurd rfl h
  · rw [List.concat_eq_append, List.getLast?_concat, shown_append]
    rfl

end Cycle

open S100.Cycle

namespace Dialogue

theorem genuine_cycles (d : Dialogue α) (bus : σ) :
    Genuine bus (d.cycles bus) := by
  induction d generalizing bus with
  | done a => trivial
  | read address next ih => exact ⟨rfl, ih _ _⟩
  | write address data next ih => exact ⟨trivial, ih _⟩
  | input port next ih => exact ⟨rfl, ih _ _⟩
  | output port data next ih => exact ⟨trivial, ih _⟩

/-- A dialogue leaves the bus as its cycles do. -/
theorem run_eq_foldl (d : Dialogue α) (bus : σ) :
    (d.run bus).2 = (d.cycles bus).foldl Cycle.next bus := by
  induction d generalizing bus with
  | done a => rfl
  | read address next ih => exact ih _ _
  | write address data next ih => exact ih _
  | input port next ih => exact ih _ _
  | output port data next ih => exact ih _

end Dialogue

namespace Cpu

open Dialogue

variable {cpu : Cpu}

/-! ## The lights -/

/-- The processor that results from a dialogue has the last cycle of it on
its lights, and without a cycle the lights from before. -/
def Shows (σ : Type) [Bus σ] (before : Lights) (d : Dialogue α)
    (result : α → Cpu) : Prop :=
  ∀ bus : σ, (result (d.run bus).1).lights = shown before (d.cycles bus)

theorem Shows.bind {before : Lights} {d : Dialogue α} {result : α → Cpu}
    {f : α → Dialogue β} {result' : β → Cpu} (hd : Shows σ before d result)
    (hf : ∀ a, Shows σ (result a).lights (f a) result') :
    Shows σ before (d >>= f) result' := by
  intro bus
  rw [run_bind, cycles_bind, shown_append, ← hd bus]
  exact hf _ _

theorem Shows.done {before : Lights} {a : α} {result : α → Cpu}
    (h : (result a).lights = before) : Shows σ before (.done a) result :=
  fun _ => h

theorem shows_fetch (cpu : Cpu) : Shows σ cpu.lights cpu.fetch Prod.snd :=
  fun _ => rfl

theorem shows_fetchWord (cpu : Cpu) :
    Shows σ cpu.lights cpu.fetchWord Prod.snd :=
  fun _ => rfl

theorem shows_load (cpu : Cpu) (source : Operand) :
    Shows σ cpu.lights (cpu.load source) Prod.snd := by
  cases source <;> exact fun _ => rfl

theorem shows_store (cpu : Cpu) (target : Operand) (value : UInt8) :
    Shows σ cpu.lights (cpu.store target value) id := by
  cases target <;> exact fun _ => rfl

theorem shows_callTo (cpu : Cpu) (address : UInt16) :
    Shows σ cpu.lights (cpu.callTo address) id :=
  fun _ => rfl

theorem shows_ret (cpu : Cpu) : Shows σ cpu.lights cpu.ret id :=
  fun _ => rfl

theorem shows_execute (cpu : Cpu) (i : Instruction) :
    Shows σ cpu.lights (cpu.execute i) id := by
  cases i with
  | mov target source =>
      exact (shows_load cpu source).bind fun p => shows_store p.2 target p.1
  | mvi target =>
      exact (shows_fetch cpu).bind fun p => shows_store p.2 target p.1
  | alu operation source =>
      exact (shows_load cpu source).bind fun _ => .done rfl
  | inr target =>
      exact (shows_load cpu target).bind fun p => shows_store _ target _
  | dcr target =>
      exact (shows_load cpu target).bind fun p => shows_store _ target _
  | jumpIf condition =>
      refine (shows_fetchWord cpu).bind fun p => .done ?_
      show (ite _ _ _ : Cpu).lights = _
      split <;> rfl
  | callIf condition =>
      refine (shows_fetchWord cpu).bind fun p => ?_
      show Shows σ _ (ite _ _ _) id
      split
      · exact shows_callTo _ p.1
      · exact .done rfl
  | retIf condition =>
      show Shows σ _ (ite _ _ _) id
      split
      · exact shows_ret cpu
      · exact .done rfl
  | _ => exact fun _ => rfl

theorem shows_step (cpu : Cpu) : Shows σ cpu.lights cpu.step Prod.snd := by
  show Shows σ _ (ite _ _ _) _
  split
  · exact .done rfl
  · refine (shows_fetch cpu).bind fun p => ?_
    exact (shows_execute { p.2 with opcode := p.1 } _).bind fun _ => .done rfl

/-! ## The cycles of an instruction -/

/-- The reads of bytes that follow one another from an address on. -/
def fetches (address : UInt16) : List UInt8 → List Cycle
  | [] => []
  | data :: rest => .read address data :: fetches (address + 1) rest

/-- The high byte goes first, and the low byte below it. -/
def pushing (sp value : UInt16) : List Cycle :=
  [.write (sp - 1) (highByte value), .write (sp - 2) (lowByte value)]

def popping (sp : UInt16) (low high : UInt8) : List Cycle :=
  [.read sp low, .read (sp + 1) high]

end Cpu

namespace Operand

/-- The cycle in which an operand is read, if it is not a register. -/
def reading (regs : Registers) (data : UInt8) : Operand → List Cycle
  | reg _ => []
  | mem => [.read regs.hl data]

def writing (regs : Registers) (data : UInt8) : Operand → List Cycle
  | reg _ => []
  | mem => [.write regs.hl data]

/-- The value of an operand, given what is in memory. -/
def value (regs : Registers) (data : UInt8) : Operand → UInt8
  | reg register => regs.get register
  | mem => data

end Operand

namespace Instruction

open Cpu

/-- The cycles of an instruction after its own bytes have been read: the
registers are those before it, `low` and `high` the bytes that follow the
opcode, and `first` and `second` the data that are read. -/
def dataCycles (regs : Registers) (low high first second : UInt8) :
    Instruction → List Cycle
  | mov target source =>
    source.reading regs first ++ target.writing regs (source.value regs first)
  | mvi target => target.writing regs low
  | alu _ source => source.reading regs first
  | inr target =>
    target.reading regs first ++
      target.writing regs (target.value regs first + 1)
  | dcr target =>
    target.reading regs first ++
      target.writing regs (target.value regs first - 1)
  | stax pointer => [.write (regs.getPair pointer) regs.a]
  | ldax pointer => [.read (regs.getPair pointer) first]
  | sta => [.write (word high low) regs.a]
  | lda => [.read (word high low) first]
  | shld =>
    [.write (word high low) regs.l, .write (word high low + 1) regs.h]
  | lhld =>
    [.read (word high low) first, .read (word high low + 1) second]
  | push pair => pushing regs.sp (regs.pushed pair)
  | call => pushing regs.sp (regs.pc + 3)
  | callIf condition =>
    if condition.holds regs.f then pushing regs.sp (regs.pc + 3) else []
  | rst _ => pushing regs.sp (regs.pc + 1)
  | pop _ | ret => popping regs.sp first second
  | retIf condition =>
    if condition.holds regs.f then popping regs.sp first second else []
  | xthl =>
    [.read regs.sp first, .read (regs.sp + 1) second,
      .write regs.sp regs.l, .write (regs.sp + 1) regs.h]
  | input => [.input low first]
  | output => [.output low regs.a]
  | _ => []

end Instruction

namespace Cpu

open Dialogue Instruction

variable {cpu : Cpu}

/-- Storing H and L, L first. -/
theorem cycles_writeWordAt_hl (cpu : Cpu) (address : UInt16) (bus : σ) :
    (cpu.writeWordAt address cpu.regs.hl).cycles bus =
      [.write address cpu.regs.l, .write (address + 1) cpu.regs.h] := by
  show [Cycle.write address (lowByte cpu.regs.hl),
    .write (address + 1) (highByte cpu.regs.hl)] = _
  rw [Registers.hl, lowByte_word, highByte_word]

/-- The address after an instruction of three bytes, reached one by one. -/
theorem add_three (address : UInt16) : address + 1 + 1 + 1 = address + 3 := by
  rw [UInt16.add_assoc, UInt16.add_assoc]
  rfl

/-- An address is fetched byte by byte, and nothing but the program counter
and the lights is changed by it. -/
theorem cycles_fetchWord_bind (cpu : Cpu) (f : UInt16 × Cpu → Dialogue α)
    (bus : σ) :
    ∃ (low high : UInt8) (lights : Lights) (bus' : σ),
      (cpu.fetchWord >>= f).cycles bus =
      fetches cpu.regs.pc [low, high] ++
        (f (word high low,
          { cpu with lights, regs.pc := cpu.regs.pc + 1 + 1 })).cycles bus' :=
  ⟨_, _, _, _, rfl⟩

theorem cycles_readWordAt_bind (cpu : Cpu) (address : UInt16)
    (f : UInt16 × Cpu → Dialogue α) (bus : σ) :
    ∃ (low high : UInt8) (lights : Lights) (bus' : σ),
      (cpu.readWordAt address >>= f).cycles bus =
      [.read address low, .read (address + 1) high] ++
        (f (word high low, { cpu with lights })).cycles bus' :=
  ⟨_, _, _, _, rfl⟩

/-- What an instruction does on the bus when its opcode has been fetched. -/
theorem cycles_execute {regs : Registers}
    (h : cpu.regs = { regs with pc := regs.pc + 1 }) (i : Instruction)
    (bus : σ) :
    ∃ low high first second, (cpu.execute i).cycles bus =
      fetches (regs.pc + 1) ([low, high].take i.operandBytes)
        ++ i.dataCycles regs low high first second := by
  obtain ⟨_, interruptsEnabled, halted, lights, opcode⟩ := cpu
  obtain rfl := h
  -- A byte that is read stands in the list of cycles and is found there; one
  -- that is not read does not matter.
  cases i with
  | mov target source =>
      cases source with
      | reg => cases target <;> exact ⟨0, 0, 0, 0, rfl⟩
      | mem => cases target <;> exact ⟨0, 0, _, 0, rfl⟩
  | mvi target => cases target <;> exact ⟨_, 0, 0, 0, rfl⟩
  | alu _ operand | inr operand | dcr operand =>
      cases operand with
      | reg => exact ⟨0, 0, 0, 0, rfl⟩
      | mem => exact ⟨0, 0, _, 0, rfl⟩
  | aluImmediate => exact ⟨_, 0, 0, 0, rfl⟩
  | lxi | jmp | jumpIf | sta => exact ⟨_, _, 0, 0, rfl⟩
  | lda => exact ⟨_, _, _, 0, rfl⟩
  | lhld => exact ⟨_, _, _, _, rfl⟩
  | shld =>
      obtain ⟨low, high, _, bus', hcycles⟩ := cycles_fetchWord_bind _ _ bus
      exact ⟨low, high, 0, 0, hcycles.trans
        (congrArg (_ ++ ·) (cycles_writeWordAt_hl _ _ bus'))⟩
  | call =>
      obtain ⟨low, high, _, _, hcycles⟩ := cycles_fetchWord_bind _ _ bus
      refine ⟨low, high, 0, 0, hcycles.trans ?_⟩
      rw [dataCycles, ← add_three regs.pc]
      rfl
  | ldax => exact ⟨0, 0, _, 0, rfl⟩
  | pop | ret => exact ⟨0, 0, _, _, rfl⟩
  | xthl =>
      obtain ⟨low, high, _, bus', hcycles⟩ := cycles_readWordAt_bind _ _ _ bus
      exact ⟨0, 0, low, high, hcycles.trans
        (congrArg (_ ++ ·) (cycles_writeWordAt_hl _ _ bus'))⟩
  | input => exact ⟨_, 0, _, 0, rfl⟩
  | output => exact ⟨_, 0, 0, 0, rfl⟩
  | callIf condition =>
      obtain ⟨low, high, _, bus', hcycles⟩ := cycles_fetchWord_bind _ _ bus
      refine ⟨low, high, 0, 0, hcycles.trans ?_⟩
      rw [dataCycles, ← add_three regs.pc]
      exact congrArg (_ ++ ·)
        (apply_ite (fun d : Dialogue Cpu => d.cycles bus') _ _ _)
  | retIf condition =>
      exact ⟨0, 0, _, _,
        apply_ite (fun d : Dialogue Cpu => d.cycles bus) _ _ _⟩
  | _ => exact ⟨0, 0, 0, 0, rfl⟩

/-- The cycles of a step of a processor that is not halted. -/
theorem cycles_step_of_running (h : cpu.halted = false) (bus : σ) :
    ∃ opcode low high first second,
      let i := decode opcode
      cpu.step.cycles bus =
        fetches cpu.regs.pc (opcode :: [low, high].take i.operandBytes)
          ++ i.dataCycles cpu.regs low high first second := by
  let opcode := (Bus.read bus cpu.regs.pc).1
  let fetched : Cpu :=
    { cpu with
      regs.pc := cpu.regs.pc + 1, lights := ⟨cpu.regs.pc, opcode⟩, opcode }
  have hregs : fetched.regs = { cpu.regs with pc := cpu.regs.pc + 1 } := rfl
  obtain ⟨low, high, first, second, hexecute⟩ :=
    cycles_execute hregs (decode opcode) (Bus.read bus cpu.regs.pc).2
  refine ⟨opcode, low, high, first, second, ?_⟩
  have hstep : cpu.step.cycles bus = .read cpu.regs.pc opcode ::
      ((fetched.execute (decode opcode)).cycles
        (Bus.read bus cpu.regs.pc).2 ++ []) := by
    simp only [step, h, Bool.false_eq_true, if_false, cycles_bind]
    rfl
  rw [hstep, hexecute, List.append_nil]
  rfl

/-- The cycles of a step, on every bus: none if the processor is halted.
Otherwise an opcode is read at the program counter, and from there on the
bytes that follow such an opcode; then come the data cycles of the
instruction, and the last of all the cycles is on the lights. What is read
is what the bus answers, and the bus is left as the cycles leave it. The
instruction is told from the fields of the opcode. -/
theorem cycles_step (cpu : Cpu) (bus : σ) :
    let cycles := cpu.step.cycles bus
    let held := cpu.step.run bus
    Genuine bus cycles ∧ held.2 = cycles.foldl Cycle.next bus
      ∧ (cpu.halted = true → cycles = [])
      ∧ (cpu.halted = false →
        (∃ opcode low high first second,
          let i := ofFields (opcode.toNat / 64) (opcode.toNat / 8 % 8)
            (opcode.toNat % 8)
          cycles =
            fetches cpu.regs.pc (opcode :: [low, high].take i.operandBytes)
              ++ i.dataCycles cpu.regs low high first second)
        ∧ cycles.getLast?.map Cycle.lights = some held.1.2.lights) := by
  intro cycles held
  refine ⟨cpu.step.genuine_cycles bus, cpu.step.run_eq_foldl bus,
    fun hhalted => ?_, fun hrunning => ?_⟩
  · simp only [cycles, step, hhalted, if_true]
    rfl
  · obtain ⟨opcode, low, high, first, second, hcycles⟩ :=
      cycles_step_of_running hrunning bus
    have hsome : cycles ≠ [] := fun hnil =>
      List.cons_ne_nil _ _ (hcycles.symm.trans hnil)
    refine ⟨⟨opcode, low, high, first, second, ?_⟩, ?_⟩
    · rw [← decode_eq_ofFields]
      exact hcycles
    · rw [getLast?_lights cpu.lights hsome]
      exact congrArg some (shows_step cpu bus).symm

/-- An exchange with the top of a stack that lies around the end of the
address space, the high byte on the instruction itself. -/
example :
    let cpu : Cpu := { regs := { h := 0x12, l := 0x34, sp := 0xFFFF } }
    let memory : Memory := { bytes := #[0xE3], size_le := by decide }
    cpu.step.cycles memory =
      [.read 0 0xE3, .read 0xFFFF 0, .read 0 0xE3, .write 0xFFFF 0x34,
        .write 0 0x12] := by
  rfl

end Cpu

end S100
