import S100.Altair
import S100.Proofs.Cpu.Steps
import S100.Proofs.Memory.Loading

/-!
# Single instructions of an Altair

A program in machine code is followed instruction by instruction. `Holds` says
that it stands in memory, so that `Cpu.next?` is known where the counter is,
and `Altair.Executes` what a step then makes of the registers and of the
backplane. The lights and the opcode that was fetched are left out: no
instruction looks at them.
-/

namespace S100

namespace Memory

variable {m : Memory} {address : UInt16} {bytes : List UInt8}

/-- Some bytes stand in memory, from an address on. -/
def Holds (m : Memory) (address : UInt16) (bytes : List UInt8) : Prop :=
  ∀ i (hi : i < bytes.length),
    m.read (address + UInt16.ofNat i) = bytes[i]

theorem holds_load (h : address.toNat + bytes.length ≤ m.size) :
    (m.load address bytes.toArray).Holds address bytes := by
  intro i hi
  have hspace : m.size ≤ addressSpace := m.size_le
  rw [read_load_offset m (by omega) hi, if_pos (by omega)]

theorem Holds.readWord (h : m.Holds address bytes) (i : Nat)
    (hi : i + 1 < bytes.length) :
    m.readWord (address + UInt16.ofNat i) =
      word bytes[i + 1] bytes[i] := by
  rw [Memory.readWord, ← offset_succ, h _ hi, h i]

/-- Bytes stay where an image that is loaded behind them does not reach. -/
theorem Holds.load (h : m.Holds address bytes) {behind : UInt16}
    (hbehind : address.toNat + bytes.length ≤ behind.toNat) (image : Bytes) :
    (m.load behind image).Holds address bytes := by
  intro i hi
  have hspace : behind.toNat < addressSpace := behind.toNat_lt
  rw [read_load, if_neg, h i hi]
  rintro ⟨-, hreached, -⟩
  rw [toNat_offset (by omega)] at hreached
  omega

end Memory

/-! ## One instruction -/

namespace Altair

theorem step_eq (m : Altair) :
    let held := m.cpu.step.run m.bus
    m.step = (held.1.1, { m with cpu := held.1.2, bus := held.2 }) := rfl

/-- A step executes an instruction, and leaves these registers and this
backplane. -/
structure Executes (m : Altair) (regs : Registers) (bus : Backplane) :
    Prop where
  reported : m.step.1 = .executed
  running : m.step.2.cpu.halted = false
  regs : m.step.2.cpu.regs = regs
  bus : m.step.2.bus = bus

variable {m : Altair}

theorem Executes.of_next? {i : Instruction} {regs : Registers}
    {bus : Backplane} (h : m.cpu.next? m.bus = some i) (hhlt : i ≠ .hlt)
    (hundefined : i ≠ .undefined)
    (hrun : ∀ opcode,
      let executed := ((m.cpu.fetched opcode).execute i).run m.bus
      executed.1.regs = regs ∧ executed.1.halted = m.cpu.halted
        ∧ executed.2 = bus) :
    m.Executes regs bus := by
  obtain ⟨hregs, hhalted, hbus⟩ := hrun (m.bus.memory.read m.cpu.regs.pc)
  have hstep := m.step_eq
  rw [Cpu.run_step_of_next? h hhlt hundefined] at hstep
  rw [← hregs, ← hbus]
  refine ⟨by rw [hstep], ?_, by rw [hstep]; rfl, by rw [hstep]; rfl⟩
  rw [hstep]
  exact hhalted.trans (Cpu.halted_of_next? h)

theorem pc_three (pc : UInt16) : pc + 1 + 1 + 1 = pc + 3 := by
  grind

theorem executes_lxi {target : WordRegister}
    (h : m.cpu.next? m.bus = some (.lxi target)) :
    m.Executes
      ({ m.cpu.regs with pc := m.cpu.regs.pc + 3 }.setWord target
        (m.bus.memory.readWord (m.cpu.regs.pc + 1))) m.bus := by
  rw [← pc_three]
  exact .of_next? h nofun nofun fun _ => ⟨rfl, rfl, rfl⟩

/-- Load the accumulator from the address in H and L. -/
theorem executes_mov_a_mem
    (h : m.cpu.next? m.bus = some (.mov (.reg .a) .mem)) :
    m.Executes
      { m.cpu.regs with
        a := m.bus.memory.read m.cpu.regs.hl, pc := m.cpu.regs.pc + 1 }
      m.bus :=
  .of_next? h nofun nofun fun _ => ⟨rfl, rfl, rfl⟩

/-- Combining the accumulator with itself only sets the flags. -/
theorem executes_ora_a
    (h : m.cpu.next? m.bus = some (.alu .ora (.reg .a))) :
    m.Executes
      { m.cpu.regs with
        f := resultFlags m.cpu.regs.a false false, pc := m.cpu.regs.pc + 1 }
      m.bus := by
  refine .of_next? h nofun nofun fun _ => ⟨?_, rfl, rfl⟩
  show { m.cpu.regs with
    a := m.cpu.regs.a ||| m.cpu.regs.a
    f := resultFlags (m.cpu.regs.a ||| m.cpu.regs.a) false false &&& Flag.mask
    pc := m.cpu.regs.pc + 1 } = _
  rw [UInt8.or_self, resultFlags, flagsByte_and_mask]

theorem executes_jumpIf {condition : Condition}
    (h : m.cpu.next? m.bus = some (.jumpIf condition)) :
    m.Executes
      { m.cpu.regs with
        pc := if condition.holds m.cpu.regs.f then
            m.bus.memory.readWord (m.cpu.regs.pc + 1)
          else m.cpu.regs.pc + 3 } m.bus := by
  rw [← pc_three]
  refine .of_next? h nofun nofun fun _ => ⟨?_, ?_, rfl⟩
  · show Cpu.regs (if condition.holds m.cpu.regs.f then _ else _) = _
    split
    · rfl
    · rfl
  · show Cpu.halted (if condition.holds m.cpu.regs.f then _ else _) = _
    split
    · rfl
    · rfl

theorem executes_jmp (h : m.cpu.next? m.bus = some .jmp) :
    m.Executes
      { m.cpu.regs with pc := m.bus.memory.readWord (m.cpu.regs.pc + 1) }
      m.bus :=
  .of_next? h nofun nofun fun _ => ⟨rfl, rfl, rfl⟩

theorem executes_inx {target : WordRegister}
    (h : m.cpu.next? m.bus = some (.inx target)) :
    m.Executes
      ({ m.cpu.regs with pc := m.cpu.regs.pc + 1 }.setWord target
        (m.cpu.regs.getWord target + 1)) m.bus := by
  refine .of_next? h nofun nofun fun _ => ⟨?_, rfl, rfl⟩
  cases target <;> rfl

theorem executes_output (h : m.cpu.next? m.bus = some .output) :
    m.Executes { m.cpu.regs with pc := m.cpu.regs.pc + 1 + 1 }
      { m.bus with
        ports := m.bus.ports.output
          (m.bus.memory.read (m.cpu.regs.pc + 1)) m.cpu.regs.a } :=
  .of_next? h nofun nofun fun _ => ⟨rfl, rfl, rfl⟩

end Altair

end S100
