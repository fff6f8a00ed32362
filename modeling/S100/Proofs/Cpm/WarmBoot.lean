import S100.Proofs.Cpm.SystemCalls
import S100.Proofs.Cpu.Steps

/-!
# What a program finds

A program that is about to run counts on page zero, on its own bytes, and
on the word that its stack begins with: the warm boot address, so that a
return with nothing else on the stack halts the machine.

A reset puts all of that in place but the program, which is there from
before (`placed?`, `read_reset`). The word on the stack is inside the
program area, at its upper end. A program that ends below it leaves it
alone, and is left alone by every reset. One that is a byte or two longer
is loaded over it: then it is not the warm boot address that the stack
begins with, and a reset takes these bytes away from the program again.
`loadProgram_contract` says what holds of every program that is loaded.
-/

namespace S100

namespace Cpm

variable {m m' : Cpm} {program : Bytes}

/-! ## A reset -/

/-- The byte that a reset puts at an address, if it puts one there. -/
def placed? (address : UInt16) : Option UInt8 :=
  if address = 0x0000 then some 0x76
  else if address = 0x0005 then some 0xC9
  else if address = 0x0006 then some 0x00
  else if address = 0x0007 then some 0xFE
  else if address = 0xFDFE then some 0x00
  else if address = 0xFDFF then some 0x00
  else none

theorem placed?_eq_none {address : UInt16} (hlow : 0x0008 ≤ address.toNat)
    (hstack : address.toNat ≠ 0xFDFE ∧ address.toNat ≠ 0xFDFF) :
    placed? address = none := by
  have hne (n : UInt16) (h : address.toNat ≠ n.toNat) : address ≠ n := by
    rintro rfl
    exact h rfl
  have hzero (n : UInt16) (h : n.toNat < 0x0008) : address ≠ n :=
    hne n (by omega)
  rw [placed?, if_neg (hzero 0x0000 (by decide)),
    if_neg (hzero 0x0005 (by decide)), if_neg (hzero 0x0006 (by decide)),
    if_neg (hzero 0x0007 (by decide)), if_neg (hne 0xFDFE hstack.1),
    if_neg (hne 0xFDFF hstack.2)]

@[simp] theorem size_reset (m : Cpm) :
    m.reset.bus.memory.size = m.bus.memory.size := by
  have hmemory : m.reset.bus.memory =
      (installPageZero m.bus.memory).writeWord (programTop - 2) 0 := rfl
  simp only [hmemory, installPageZero, Memory.size_writeWord,
    Memory.size_write]

theorem read_reset (hfull : m.bus.memory.size = addressSpace)
    (address : UInt16) :
    m.reset.bus.memory.read address =
      (placed? address).getD (m.bus.memory.read address) := by
  have hmemory : m.reset.bus.memory =
      (((((m.bus.memory.write 0x0000 0x76).write 0x0005 0xC9).write 0x0006
        0x00).write 0x0007 0xFE).write 0xFDFE 0x00).write 0xFDFF 0x00 := rfl
  rw [hmemory]
  simp only [Memory.read_write_of_full, Memory.size_write, hfull, placed?]
  grind

/-- What a program counts on, beside its own bytes and its stack. -/
structure Ready (m : Cpm) : Prop where
  warmBoot : m.bus.memory.read 0x0000 = 0x76
  systemCall : m.bus.memory.read 0x0005 = 0xC9
  top : m.bus.memory.readWord 0x0006 = 0xFE00
  pc : m.cpu.regs.pc = 0x0100
  sp : m.cpu.regs.sp = 0xFDFE
  running : m.cpu.halted = false

theorem ready_reset (hfull : m.bus.memory.size = addressSpace) :
    m.reset.Ready where
  warmBoot := read_reset hfull 0x0000
  systemCall := read_reset hfull 0x0005
  top := by
    rw [Memory.readWord, read_reset hfull, read_reset hfull]
    exact (by decide : word 0xFE 0x00 = 0xFE00)
  pc := rfl
  sp := rfl
  running := rfl

/-- The stack begins with the warm boot address. -/
theorem stack_reset (hfull : m.bus.memory.size = addressSpace) :
    m.reset.bus.memory.readWord 0xFDFE = 0x0000 := by
  rw [Memory.readWord, read_reset hfull, read_reset hfull]
  exact (by decide : word 0x00 0x00 = 0x0000)

/-! ## Loading a program -/

/-- How long a program may be that leaves the word on the stack alone. -/
def clearSize : Nat := 0xFCFE

/-- The address of a byte of the program. -/
def programAddress (i : Nat) : UInt16 :=
  programStart + UInt16.ofNat i

theorem toNat_programAddress {i : Nat} (hi : i < 0xFD00) :
    (programAddress i).toNat = 0x0100 + i := by
  have hstart : programStart.toNat = 0x0100 := rfl
  rw [programAddress, UInt16.toNat_add, UInt16.toNat_ofNat', hstart]
  omega

theorem loadProgram_eq_ok_iff (hfull : m.bus.memory.size = addressSpace) :
    m.loadProgram program = .ok m' ↔
      program.size ≤ 0xFD00
        ∧ m' = { m with
            bus.memory := m.bus.memory.load programStart program } := by
  have hstart : programStart.toNat = 0x0100 := rfl
  have htop : programTop.toNat = 0xFE00 := rfl
  have hspace : addressSpace = 0x10000 := rfl
  unfold loadProgram
  by_cases hlarge : programTop.toNat < programStart.toNat + program.size
  · rw [if_pos hlarge]
    constructor
    · nofun
    · omega
  · have hload : m.bus.memory.loadImage "program" programStart program =
        .ok (m.bus.memory.load programStart program) :=
      Memory.loadImage_of_fits _ (by omega)
    rw [if_neg hlarge, hload]
    constructor
    · rintro ⟨⟩
      exact ⟨by omega, rfl⟩
    · rintro ⟨-, rfl⟩
      rfl

theorem size_loaded (hfull : m.bus.memory.size = addressSpace)
    (h : m.reset.loadProgram program = .ok m') :
    m'.bus.memory.size = addressSpace := by
  have hreset := (size_reset m).trans hfull
  obtain ⟨-, rfl⟩ := (loadProgram_eq_ok_iff hreset).mp h
  exact (Memory.size_load _ _ _).trans hreset

/-- The memory that a program is loaded into after a reset. -/
theorem read_loaded (hfull : m.bus.memory.size = addressSpace)
    (h : m.reset.loadProgram program = .ok m') (address : UInt16) :
    m'.bus.memory.read address =
      if 0x0100 ≤ address.toNat
          ∧ address.toNat < 0x0100 + program.size then
        byteAt program (address.toNat - 0x0100)
      else (placed? address).getD (m.bus.memory.read address) := by
  have hreset := (size_reset m).trans hfull
  obtain ⟨-, rfl⟩ := (loadProgram_eq_ok_iff hreset).mp h
  rw [← read_reset hfull]
  exact Memory.read_load_of_full hreset _ _ _

theorem ready_loaded (hfull : m.bus.memory.size = addressSpace)
    (h : m.reset.loadProgram program = .ok m') : m'.Ready := by
  have hcpu : m'.cpu = m.reset.cpu := by
    obtain ⟨-, rfl⟩ :=
      (loadProgram_eq_ok_iff ((size_reset m).trans hfull)).mp h
    rfl
  have hlow (address : UInt16) (hlt : address.toNat < 0x0100) :
      m'.bus.memory.read address = m.reset.bus.memory.read address := by
    rw [read_loaded hfull h, if_neg (by omega), read_reset hfull]
  have hready := ready_reset hfull
  exact {
    warmBoot := (hlow 0x0000 (by decide)).trans hready.warmBoot
    systemCall := (hlow 0x0005 (by decide)).trans hready.systemCall
    top := by
      rw [Memory.readWord, hlow 0x0006 (by decide),
        hlow (0x0006 + 1) (by decide)]
      exact hready.top
    pc := by rw [hcpu]; rfl
    sp := by rw [hcpu]; rfl
    running := by rw [hcpu]; rfl }

/-- The two bytes on the stack are those of the program, where it reaches
so far, and 0 where it does not. -/
theorem stack_loaded (hfull : m.bus.memory.size = addressSpace)
    (h : m.reset.loadProgram program = .ok m') :
    m'.bus.memory.readWord 0xFDFE =
      word (byteAt program (clearSize + 1)) (byteAt program clearSize) := by
  have hbyte (i : Nat) (hi : i < 0xFD00)
      (hplaced : placed? (programAddress i) = some 0x00) :
      m'.bus.memory.read (programAddress i) = byteAt program i := by
    rw [read_loaded hfull h, toNat_programAddress hi, hplaced]
    split
    · rw [Nat.add_sub_cancel_left]
    · rw [byteAt_of_le (by omega)]
      rfl
  have hlow := hbyte clearSize (by decide) rfl
  have hhigh := hbyte (clearSize + 1) (by decide) rfl
  rw [← hlow, ← hhigh]
  rfl

/-- What a reset leaves of a program, as it is in memory by then. -/
theorem read_program_reset (hfull : m.bus.memory.size = addressSpace)
    {i : Nat} (hi : i < 0xFD00) :
    m.reset.bus.memory.read (programAddress i) =
      if i < clearSize then m.bus.memory.read (programAddress i) else 0 := by
  have haddress := toNat_programAddress hi
  have hclear : clearSize = 0xFCFE := rfl
  rw [read_reset hfull]
  split
  · rw [placed?_eq_none (by omega) (by omega), Option.getD_none]
  · obtain rfl | rfl : i = 0xFCFE ∨ i = 0xFCFF := by omega
    · rfl
    · rfl

/-! ## Returning to the warm boot address -/

/-- A machine that is about to return, page zero being in place, with
nothing on the stack but what it begins with. -/
structure Returning (m : Cpm) : Prop where
  running : m.cpu.halted = false
  opcode : m.bus.memory.read m.cpu.regs.pc = 0xC9
  sp : m.cpu.regs.sp = 0xFDFE
  warmBoot : m.bus.memory.read 0x0000 = 0x76

/-- A step of a processor that is not halted is that of its instruction,
whatever the host prints before. -/
theorem step_of_running (h : m.cpu.halted = false) :
    let opcode := m.bus.memory.read m.cpu.regs.pc
    let executed := ((m.cpu.fetched opcode).execute
      (Instruction.decode opcode)).run (m.print m.answer).bus
    m.step = (Cpu.outcome opcode, ⟨executed.1, executed.2⟩) := by
  rw [step_eq]
  show ((m.cpu.step.run (m.print m.answer).bus).1.1, Cpm.mk
    (m.cpu.step.run (m.print m.answer).bus).1.2
    (m.cpu.step.run (m.print m.answer).bus).2) = _
  rw [Cpu.run_step_of_running h]
  rfl

theorem Returning.step (h : m.Returning) :
    m.step.1 = .executed ∧ m.step.2.cpu.halted = false
      ∧ m.step.2.cpu.regs.pc = m.bus.memory.readWord 0xFDFE
      ∧ m.step.2.bus.memory = m.bus.memory := by
  rw [step_of_running h.running, h.opcode, ← h.sp]
  exact ⟨rfl, h.running, rfl, rfl⟩

/-- If that is the warm boot address, the machine halts there. -/
theorem Returning.halts (h : m.Returning)
    (hstack : m.bus.memory.readWord 0xFDFE = 0x0000) :
    m.step.1 = .executed ∧ m.step.2.cpu.regs.pc = 0x0000
      ∧ m.step.2.step.1 = .halted := by
  obtain ⟨hresult, hrunning, hpc, hmemory⟩ := h.step
  rw [hstack] at hpc
  refine ⟨hresult, hpc, ?_⟩
  rw [step_of_running hrunning, hpc, hmemory, h.warmBoot]
  rfl

/-! ## Every program -/

/-- A reset machine takes a program if it is not longer than the program
area. Then page zero and the program are in place and the processor is at
its beginning, and the stack begins with the warm boot address, if the
program ends below it; otherwise with the last bytes of the program.
Any later reset puts page zero, the processor and the stack in the same
state, and leaves every byte of the program as it is, but the last ones of
a program that does not end below the stack. While the stack begins with
the warm boot address, a return with nothing else on it halts. -/
theorem loadProgram_contract (hfull : m.bus.memory.size = addressSpace)
    (program : Bytes) :
    ((∃ m', m.reset.loadProgram program = .ok m') ↔ program.size ≤ 0xFD00)
      ∧ (∀ m', m.reset.loadProgram program = .ok m' → m'.Ready
        ∧ m'.bus.memory.size = addressSpace
        ∧ (∀ i (hi : i < program.size),
          m'.bus.memory.read (programAddress i) = program[i])
        ∧ m'.bus.memory.readWord 0xFDFE =
          if program.size ≤ clearSize then 0x0000
          else word (byteAt program (clearSize + 1))
            (byteAt program clearSize))
      ∧ (∀ later : Cpm, later.bus.memory.size = addressSpace →
        later.reset.Ready ∧ later.reset.bus.memory.readWord 0xFDFE = 0x0000
          ∧ ∀ i < program.size, program.size ≤ 0xFD00 →
            later.reset.bus.memory.read (programAddress i) =
              if i < clearSize then later.bus.memory.read (programAddress i)
              else 0)
      ∧ (∀ later : Cpm, later.Returning →
        later.bus.memory.readWord 0xFDFE = 0x0000 →
        later.step.1 = .executed ∧ later.step.2.cpu.regs.pc = 0x0000
          ∧ later.step.2.step.1 = .halted) := by
  have hreset := (size_reset m).trans hfull
  refine ⟨⟨?_, ?_⟩, fun m' h => ⟨ready_loaded hfull h, ?_, ?_, ?_⟩, ?_,
    fun later h => h.halts⟩
  · rintro ⟨m', h⟩
    exact ((loadProgram_eq_ok_iff hreset).mp h).1
  · intro hsize
    exact ⟨_, (loadProgram_eq_ok_iff hreset).mpr ⟨hsize, rfl⟩⟩
  · exact size_loaded hfull h
  · intro i hi
    have hsize := ((loadProgram_eq_ok_iff hreset).mp h).1
    rw [read_loaded hfull h, toNat_programAddress (by omega),
      if_pos (by omega), Nat.add_sub_cancel_left, byteAt_of_lt hi]
  · rw [stack_loaded hfull h]
    split
    · rw [byteAt_of_le (by omega), byteAt_of_le (by omega)]
      rfl
    · rfl
  · intro later hlater
    exact ⟨ready_reset hlater, stack_reset hlater, fun i hi hsize =>
      read_program_reset hlater (by omega)⟩

/-- The longest program that leaves the stack alone. -/
theorem loadProgram_contract_longest :
    let m : Cpm := { bus := { memory := .ofSize addressSpace } }
    let program : Bytes := Array.replicate clearSize 0xC9
    m.bus.memory.size = addressSpace
      ∧ ∃ m', m.reset.loadProgram program = .ok m' ∧ m'.Ready
        ∧ m'.bus.memory.readWord 0xFDFE = 0x0000
        ∧ m'.reset.Ready ∧ m'.reset.bus.memory.readWord 0xFDFE = 0x0000
        ∧ ∀ i < program.size,
          m'.reset.bus.memory.read (programAddress i) =
            m'.bus.memory.read (programAddress i) := by
  intro m program
  have hfull : m.bus.memory.size = addressSpace := Memory.size_ofSize _
  have hsize : program.size = clearSize := Array.size_replicate
  have hclear : clearSize = 0xFCFE := rfl
  obtain ⟨haccepted, hloaded, hlater, -⟩ := loadProgram_contract hfull program
  obtain ⟨m', h⟩ := haccepted.mpr (by omega)
  obtain ⟨hready, hfull', -, hstack⟩ := hloaded m' h
  obtain ⟨hready', hstack', hkept⟩ := hlater m' hfull'
  rw [if_pos (by omega)] at hstack
  refine ⟨hfull, m', h, hready, hstack, hready', hstack', fun i hi => ?_⟩
  rw [hkept i hi (by omega), if_pos (by omega)]

/-- A program that fills the program area begins with a return. It is taken,
but it does not return to the warm boot address, and it is not whole any
more when the machine has been reset. -/
theorem loadProgram_over_stack :
    let program : Bytes := #[0xC9] ++ Array.replicate 0xFCFF 0x01
    ∃ m', (ofDevices {}).loadProgram program = .ok m'
      ∧ m'.cpu.regs.sp = 0xFDFE
      ∧ m'.bus.memory.readWord 0xFDFE = 0x0101
      ∧ m'.step.1 = .executed ∧ m'.step.2.cpu.regs.pc = 0x0101
      ∧ byteAt program clearSize = 0x01
      ∧ m'.reset.bus.memory.read (programAddress clearSize) = 0x00 := by
  intro program
  let m : Cpm := { bus := { memory := .ofSize addressSpace } }
  have hfull : m.bus.memory.size = addressSpace := Memory.size_ofSize _
  have hreset := (size_reset m).trans hfull
  have hsize : program.size = 0xFD00 := by
    rw [Array.size_append, Array.size_replicate]
    rfl
  have hfirst : byteAt program 0 = 0xC9 := by
    rw [byteAt_of_lt (by omega), Array.getElem_append_left (by decide)]
    rfl
  have hbyte (i : Nat) (hi : 0 < i ∧ i < 0xFD00) : byteAt program i = 0x01 := by
    rw [byteAt_of_lt (by omega), Array.getElem_append_right (by simp; omega),
      Array.getElem_replicate]
  obtain ⟨m', h⟩ : ∃ m', m.reset.loadProgram program = .ok m' :=
    ⟨_, (loadProgram_eq_ok_iff hreset).mpr ⟨by omega, rfl⟩⟩
  have hready := ready_loaded hfull h
  have hstack : m'.bus.memory.readWord 0xFDFE = 0x0101 := by
    rw [stack_loaded hfull h, hbyte _ (by decide), hbyte _ (by decide)]
    decide
  have hreturning : m'.Returning := by
    refine ⟨hready.running, ?_, hready.sp, hready.warmBoot⟩
    rw [hready.pc, read_loaded hfull h, if_pos (by rw [hsize]; decide)]
    exact hfirst
  obtain ⟨hresult, -, hpc, -⟩ := hreturning.step
  have hlost := read_program_reset (size_loaded hfull h) (i := clearSize)
    (by decide)
  exact ⟨m', h, hready.sp, hstack, hresult, hpc.trans hstack,
    hbyte _ (by decide), hlost⟩

end Cpm

end S100
