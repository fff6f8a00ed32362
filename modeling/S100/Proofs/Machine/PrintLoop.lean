import S100.Proofs.Cpm.SystemCalls
import S100.Proofs.Machine.Instructions
import S100.Proofs.Run.Composition

/-!
# A program that prints a string

Fifteen bytes of machine code print what stands at 0x0010, up to the first
zero byte, and halt. `PrintLoop.program` is run here from the first step to
the last, on an Altair and for any string that memory has room for.

The program is followed by `Point`: where it stands, and in which round of its
loop. `At` says of each point what is in the registers and what has been
printed there, and `At.step` that a step leads from one point to the next.
Every point is reached at a time of its own (`Point.time_next`), so the point
after a number of steps is known (`at_stepped`), and with it the step that
halts.
-/

namespace S100

/-- What becomes of a backplane when some bytes are printed. -/
def Backplane.print (bus : Backplane) (bytes : List UInt8) : Backplane :=
  { bus with
    ports.devices.console :=
      bytes.foldl (fun console byte => console.writeByte byte)
        bus.ports.devices.console }

theorem Backplane.print_concat (bus : Backplane) (bytes : List UInt8)
    (byte : UInt8) :
    bus.print (bytes ++ [byte]) = (bus.print bytes).print [byte] := by
  rw [print, List.foldl_append]
  rfl

namespace PrintLoop

/-- Print the bytes that stand at 0x0010, up to the first zero byte. -/
def program : List UInt8 :=
  [ 0x21, 0x10, 0x00, -- 0000  LXI H,0010
    0x7E,             -- 0003  MOV A,M
    0xB7,             -- 0004  ORA A
    0xCA, 0x0E, 0x00, -- 0005  JZ 000E
    0xD3, 0x11,       -- 0008  OUT 11
    0x23,             -- 000A  INX H
    0xC3, 0x03, 0x00, -- 000B  JMP 0003
    0x76 ]            -- 000E  HLT

/-- A machine that is about to run the program on a string, which ends with
the first zero byte. -/
structure Ready (s : List UInt8) (m : Altair) : Prop where
  pc : m.cpu.regs.pc = 0x0000
  running : m.cpu.halted = false
  program : m.bus.memory.Holds 0x0000 program
  string : m.bus.memory.Holds 0x0010 (s ++ [0])
  ends : ∀ byte ∈ s, byte ≠ 0
  wiring : m.bus.ports.wiring = .standard

/-! ## Where the program stands -/

/-- Between which two instructions the program stands, and in which round of
its loop. -/
inductive Point where
  | start
  | look (i : Nat)
  | test (i : Nat)
  | branch (i : Nat)
  | send (i : Nat)
  | move (i : Nat)
  | back (i : Nat)
  | finish
  | halted

namespace Point

def address : Point → UInt16
  | start => 0x0000
  | look _ => 0x0003
  | test _ => 0x0004
  | branch _ => 0x0005
  | send _ => 0x0008
  | move _ => 0x000A
  | back _ => 0x000B
  | finish => 0x000E
  | halted => 0x000F

/-- The instruction that follows. -/
def next? : Point → Option Instruction
  | start => some (.lxi .hl)
  | look _ => some (.mov (.reg .a) .mem)
  | test _ => some (.alu .ora (.reg .a))
  | branch _ => some (.jumpIf .z)
  | send _ => some .output
  | move _ => some (.inx .hl)
  | back _ => some .jmp
  | finish => some .hlt
  | halted => none

/-- The point that comes after it, for a string of some length. -/
def next (length : Nat) : Point → Point
  | start => look 0
  | look i => test i
  | test i => branch i
  | branch i => if i < length then send i else finish
  | send i => move i
  | move i => back i
  | back i => look (i + 1)
  | finish => halted
  | halted => halted

/-- After how many steps it is reached. -/
def time (length : Nat) : Point → Nat
  | start => 0
  | look i => 6 * i + 1
  | test i => 6 * i + 2
  | branch i => 6 * i + 3
  | send i => 6 * i + 4
  | move i => 6 * i + 5
  | back i => 6 * i + 6
  | finish => 6 * length + 4
  | halted => 6 * length + 5

/-- What is reported of the step from there. -/
def report : Point → StepResult
  | finish | halted => .halted
  | _ => .executed

/-- How many bytes have been printed there. -/
def printed (length : Nat) : Point → Nat
  | start => 0
  | look i | test i | branch i | send i => i
  | move i | back i => i + 1
  | finish | halted => length

/-- The zero byte is looked at, but not printed. -/
def Within (length : Nat) : Point → Prop
  | look i | test i | branch i => i ≤ length
  | send i | move i | back i => i < length
  | _ => True

/-- What is in the registers there. -/
def Asserts (s : List UInt8) (regs : Registers) : Point → Prop
  | look i => regs.hl = 0x0010 + UInt16.ofNat i
  | test i => regs.hl = 0x0010 + UInt16.ofNat i ∧ regs.a = s[i]?.getD 0
  | branch i => regs.hl = 0x0010 + UInt16.ofNat i ∧ regs.a = s[i]?.getD 0
      ∧ Flag.zero.isSet regs.f = (s[i]?.getD 0 == 0)
  | send i => regs.hl = 0x0010 + UInt16.ofNat i ∧ regs.a = s[i]?.getD 0
  | move i => regs.hl = 0x0010 + UInt16.ofNat i
  | back i => regs.hl = 0x0010 + UInt16.ofNat (i + 1)
  | _ => True

variable {length : Nat} {p : Point}

/-- A step takes a point to the next in one unit of time. -/
theorem time_next (h : p.Within length) (hgoing : p ≠ .halted) :
    (p.next length).time length = p.time length + 1 := by
  cases p with
  | branch i =>
      have hle : i ≤ length := h
      by_cases hlt : i < length
      · rw [next, if_pos hlt]
        rfl
      · rw [next, if_neg hlt]
        show 6 * length + 4 = 6 * i + 4
        rw [show i = length by omega]
  | back i =>
      show 6 * (i + 1) + 1 = 6 * i + 6 + 1
      omega
  | halted => exact absurd rfl hgoing
  | _ => rfl

/-- What has been printed at a point follows from its time. -/
theorem printed_eq (h : p.Within length) :
    p.printed length = min length ((p.time length + 1) / 6) := by
  cases p with
  | start => simp [printed, time]
  | finish | halted =>
      simp only [printed, time]
      omega
  | _ =>
      simp only [Within] at h
      simp only [printed, time]
      omega

/-- Whether a step halts follows from its time. -/
theorem report_eq (h : p.Within length) :
    p.report =
      if p.time length < 6 * length + 4 then .executed else .halted := by
  cases p with
  | start => exact (if_pos (Nat.succ_pos _)).symm
  | finish => exact (if_neg (Nat.lt_irrefl _)).symm
  | halted =>
      refine (if_neg ?_).symm
      simp only [time]
      omega
  | _ =>
      simp only [Within] at h
      refine (if_pos ?_).symm
      simp only [time]
      omega

end Point

/-! ## From point to point -/

/-- The program stands at a point, on a machine that was `first` when it
started. -/
structure At (s : List UInt8) (first : Altair) (p : Point) (m : Altair) :
    Prop where
  pc : m.cpu.regs.pc = p.address
  halted : m.cpu.halted = p.next?.isNone
  within : p.Within s.length
  registers : p.Asserts s m.cpu.regs
  bus : m.bus = first.bus.print (s.take (p.printed s.length))

variable {s : List UInt8} {first m : Altair} {p : Point}

theorem Ready.at_start (h : Ready s m) : At s m .start m where
  pc := h.pc
  halted := h.running
  within := trivial
  registers := trivial
  bus := rfl

/-- The byte of the string that a round of the loop looks at. -/
theorem Ready.read (h : Ready s m) {i : Nat} (hi : i ≤ s.length) :
    m.bus.memory.read (0x0010 + UInt16.ofNat i) = s[i]?.getD 0 := by
  rw [h.string i (by simpa using Nat.lt_succ_of_le hi)]
  rcases Nat.lt_or_eq_of_le hi with hlt | rfl
  · rw [List.getElem_append_left hlt, List.getElem?_eq_getElem hlt]
    rfl
  · simp

namespace At

theorem memory (h : At s first p m) : m.bus.memory = first.bus.memory := by
  rw [h.bus]
  rfl

/-- The program is read, and never written. -/
theorem next? (h : At s first p m) (ready : Ready s first) :
    m.cpu.next? m.bus = p.next? := by
  have hread (i : Nat) (hi : i < program.length)
      (hp : p.address = 0x0000 + UInt16.ofNat i) :
      (Bus.read m.bus m.cpu.regs.pc).1 = program[i] := by
    show m.bus.memory.read m.cpu.regs.pc = _
    rw [h.memory, h.pc, hp]
    exact ready.program i hi
  rw [Cpu.next?, h.halted]
  cases p with
  | start => rw [hread 0 (by decide) rfl]; rfl
  | look i => rw [hread 3 (by decide) rfl]; rfl
  | test i => rw [hread 4 (by decide) rfl]; rfl
  | branch i => rw [hread 5 (by decide) rfl]; rfl
  | send i => rw [hread 8 (by decide) rfl]; rfl
  | move i => rw [hread 10 (by decide) rfl]; rfl
  | back i => rw [hread 11 (by decide) rfl]; rfl
  | finish => rw [hread 14 (by decide) rfl]; rfl
  | halted => rfl

/-- The two bytes behind an opcode. -/
theorem operand (h : At s first p m) (ready : Ready s first) (i : Nat)
    (hi : i + 1 < program.length)
    (hp : p.address + 1 = 0x0000 + UInt16.ofNat i) :
    m.bus.memory.readWord (m.cpu.regs.pc + 1) =
      word program[i + 1] program[i] := by
  rw [h.memory, h.pc, hp, ready.program.readWord i hi]

/-- What an instruction leaves is described by the next point. -/
theorem of_executes {regs : Registers} {bus : Backplane}
    (h : m.Executes regs bus) (hgoing : p.next?.isNone = false)
    (hpc : regs.pc = p.address) (hwithin : p.Within s.length)
    (hregisters : p.Asserts s regs)
    (hbus : bus = first.bus.print (s.take (p.printed s.length))) :
    m.step.1 = .executed ∧ At s first p m.step.2 := by
  obtain ⟨hreport, hrunning, hregs, hleft⟩ := h
  refine ⟨hreport, ?_, ?_, hwithin, ?_, ?_⟩
  · rw [hregs, hpc]
  · rw [hrunning, hgoing]
  · rw [hregs]
    exact hregisters
  · rw [hleft, hbus]

theorem step_start (ready : Ready s first) (h : At s first .start m) :
    m.step.1 = .executed ∧ At s first (.look 0) m.step.2 := by
  have hoperand : m.bus.memory.readWord (m.cpu.regs.pc + 1) = 0x0010 :=
    (h.operand ready 1 (by decide) rfl).trans (by decide)
  refine of_executes (Altair.executes_lxi (h.next? ready)) rfl
    (congrArg (· + 3) h.pc) (Nat.zero_le _) ?_ h.bus
  rw [hoperand]
  exact Registers.getWord_setWord _ .hl 0x0010

theorem step_look (ready : Ready s first) {i : Nat}
    (h : At s first (.look i) m) :
    m.step.1 = .executed ∧ At s first (.test i) m.step.2 := by
  have hhl : m.cpu.regs.hl = 0x0010 + UInt16.ofNat i := h.registers
  have ha : m.bus.memory.read m.cpu.regs.hl = s[i]?.getD 0 := by
    rw [hhl, h.memory]
    exact ready.read h.within
  exact of_executes (Altair.executes_mov_a_mem (h.next? ready)) rfl
    (congrArg (· + 1) h.pc) h.within ⟨hhl, ha⟩ h.bus

theorem step_test (ready : Ready s first) {i : Nat}
    (h : At s first (.test i) m) :
    m.step.1 = .executed ∧ At s first (.branch i) m.step.2 := by
  obtain ⟨hhl, ha⟩ := h.registers
  refine of_executes (Altair.executes_ora_a (h.next? ready)) rfl
    (congrArg (· + 1) h.pc) h.within ⟨hhl, ha, ?_⟩ h.bus
  rw [resultFlags, isSet_flagsByte, ha]

/-- The loop is left where the byte that was looked at is zero, which is at
the end of the string. -/
theorem step_branch (ready : Ready s first) {i : Nat}
    (h : At s first (.branch i) m) :
    m.step.1 = .executed
      ∧ At s first ((Point.branch i).next s.length) m.step.2 := by
  obtain ⟨hhl, ha, hzero⟩ := h.registers
  have htarget : m.bus.memory.readWord (m.cpu.regs.pc + 1) = 0x000E :=
    (h.operand ready 6 (by decide) rfl).trans (by decide)
  have hexecutes := Altair.executes_jumpIf (h.next? ready)
  rw [htarget, h.pc] at hexecutes
  have hholds : Condition.z.holds m.cpu.regs.f = (s[i]?.getD 0 == 0) := hzero
  by_cases hlt : i < s.length
  · have hbyte : (s[i]?.getD 0 == 0) = false := by
      rw [List.getElem?_eq_getElem hlt]
      exact beq_false_of_ne (ready.ends _ (List.getElem_mem hlt))
    rw [hholds, hbyte] at hexecutes
    rw [Point.next, if_pos hlt]
    exact of_executes hexecutes rfl rfl hlt ⟨hhl, ha⟩ h.bus
  · have hend : i = s.length := Nat.le_antisymm h.within (Nat.le_of_not_lt hlt)
    have hbyte : (s[i]?.getD 0 == 0) = true := by
      rw [hend, List.getElem?_eq_none (Nat.le_refl _)]
      rfl
    rw [hholds, hbyte] at hexecutes
    rw [Point.next, if_neg hlt]
    refine of_executes hexecutes rfl rfl trivial trivial ?_
    rw [h.bus, hend]
    rfl

theorem step_send (ready : Ready s first) {i : Nat}
    (h : At s first (.send i) m) :
    m.step.1 = .executed ∧ At s first (.move i) m.step.2 := by
  obtain ⟨hhl, ha⟩ := h.registers
  have hlt : i < s.length := h.within
  have hport : m.bus.memory.read (m.cpu.regs.pc + 1) = 0x11 := by
    rw [h.memory, h.pc]
    exact ready.program 9 (by decide)
  have hexecutes := Altair.executes_output (h.next? ready)
  rw [hport, ha, List.getElem?_eq_getElem hlt] at hexecutes
  refine of_executes hexecutes rfl (congrArg (· + 1 + 1) h.pc) hlt hhl ?_
  have hbus : m.bus = first.bus.print (s.take i) := h.bus
  have hwiring : m.bus.ports.wiring.get 0x11 = some .terminalData := by
    rw [hbus]
    show first.bus.ports.wiring.get 0x11 = _
    rw [ready.wiring]
    rfl
  have htake : s.take (i + 1) = s.take i ++ [s[i]] := by
    rw [List.take_add_one, List.getElem?_eq_getElem hlt]
    rfl
  show _ = first.bus.print (s.take (i + 1))
  rw [htake, Backplane.print_concat, ← hbus, Ports.output, hwiring]
  rfl

theorem step_move (ready : Ready s first) {i : Nat}
    (h : At s first (.move i) m) :
    m.step.1 = .executed ∧ At s first (.back i) m.step.2 := by
  have hhl : m.cpu.regs.getWord .hl = 0x0010 + UInt16.ofNat i := h.registers
  refine of_executes (Altair.executes_inx (h.next? ready)) rfl
    (congrArg (· + 1) h.pc) h.within ?_ h.bus
  rw [hhl, ← offset_succ]
  exact Registers.getWord_setWord _ .hl _

theorem step_back (ready : Ready s first) {i : Nat}
    (h : At s first (.back i) m) :
    m.step.1 = .executed ∧ At s first (.look (i + 1)) m.step.2 := by
  have htarget : m.bus.memory.readWord (m.cpu.regs.pc + 1) = 0x0003 :=
    (h.operand ready 12 (by decide) rfl).trans (by decide)
  exact of_executes (Altair.executes_jmp (h.next? ready)) rfl htarget
    (Nat.succ_le_of_lt h.within) h.registers h.bus

/-- The halt is the only step that does not go on. -/
theorem step_finish (ready : Ready s first) (h : At s first .finish m) :
    m.step.1 = .halted ∧ At s first .halted m.step.2 := by
  have hstep := m.step_eq
  rw [Cpu.run_step_of_hlt (h.next? ready)] at hstep
  refine ⟨by rw [hstep], ?_, by rw [hstep]; rfl, trivial, trivial, ?_⟩
  · rw [hstep]
    exact congrArg (· + 1) h.pc
  · rw [hstep]
    exact h.bus

theorem step_halted (h : At s first .halted m) :
    m.step = (.halted, m) := by
  have hhalted : m.cpu.halted = true := h.halted
  rw [m.step_eq, Cpu.step_of_halted hhalted]
  rfl

/-- One step takes the program from each point to the next. -/
theorem step (ready : Ready s first) (h : At s first p m) :
    m.step.1 = p.report ∧ At s first (p.next s.length) m.step.2 := by
  cases p with
  | start => exact h.step_start ready
  | look i => exact h.step_look ready
  | test i => exact h.step_test ready
  | branch i => exact h.step_branch ready
  | send i => exact h.step_send ready
  | move i => exact h.step_move ready
  | back i => exact h.step_back ready
  | finish => exact h.step_finish ready
  | halted =>
      rw [h.step_halted]
      exact ⟨rfl, h⟩

end At

/-! ## The run -/

/-- After some steps, up to the one that halts, the program stands at the
point of that time. -/
theorem at_stepped (ready : Ready s m) (t : Nat)
    (ht : t ≤ 6 * s.length + 5) :
    ∃ p : Point, p.time s.length = t ∧ At s m p (stepped t m) := by
  induction t with
  | zero => exact ⟨.start, rfl, ready.at_start⟩
  | succ t ih =>
      obtain ⟨p, htime, hat⟩ := ih (by omega)
      have hgoing : p ≠ .halted := by
        rintro rfl
        have hlast : 6 * s.length + 5 = t := htime
        omega
      refine ⟨p.next s.length, ?_, ?_⟩
      · rw [Point.time_next hat.within hgoing, htime]
      · rw [stepped_succ_last]
        exact (hat.step ready).2

/-- What has been printed after some steps. -/
theorem bus_stepped (ready : Ready s m) {t : Nat}
    (ht : t ≤ 6 * s.length + 5) :
    (stepped t m).bus = m.bus.print (s.take ((t + 1) / 6)) := by
  obtain ⟨p, htime, hat⟩ := at_stepped ready t ht
  rw [hat.bus, Point.printed_eq hat.within, htime, Nat.min_comm,
    ← List.take_eq_take_min]

/-- What is reported of the step that follows the first `t`. -/
theorem reportAfter_eq (ready : Ready s m) {t : Nat}
    (ht : t ≤ 6 * s.length + 5) :
    reportAfter t m =
      if t < 6 * s.length + 4 then .executed else .halted := by
  obtain ⟨p, htime, hat⟩ := at_stepped ready t ht
  have hreport : reportAfter t m = p.report := (hat.step ready).1
  rw [hreport, Point.report_eq hat.within, htime]

/-- The program halts with the last of its steps, and no earlier. -/
theorem stopsAt (ready : Ready s m) : StopsAt m (6 * s.length + 5) where
  pos := Nat.succ_pos _
  stops := by
    show reportAfter (6 * s.length + 4) m ≠ .executed
    rw [reportAfter_eq ready (by omega), if_neg (Nat.lt_irrefl _)]
    nofun
  first := by
    intro t ht
    rw [reportAfter_eq ready (by omega), if_pos (by omega)]

theorem outcomeAt_eq (ready : Ready s m) :
    outcomeAt m (6 * s.length + 5) = .halted := by
  show Outcome.ofResult _ (reportAfter (6 * s.length + 4) m) = _
  rw [reportAfter_eq ready (by omega), if_neg (Nat.lt_irrefl _)]
  rfl

/-- A machine that was built with 64K of memory, with any devices, and got
the program and the string loaded. -/
theorem ready_of_loaded (hs : ∀ byte ∈ s, byte ≠ 0)
    (hroom : 0x0010 + s.length < addressSpace) (devices : Devices) :
    Ready s (((Altair.ofMemory addressSpace devices).load 0x0000
      program.toArray).load 0x0010 (s ++ [0]).toArray) where
  pc := rfl
  running := rfl
  program := by
    refine (Memory.holds_load ?_).load ?_ _
    · show _ ≤ (Memory.ofSize addressSpace).size
      rw [Memory.size_ofSize]
      decide
    · decide
  string := by
    refine Memory.holds_load ?_
    show _ ≤ (Memory.load _ _ _).size
    rw [Memory.size_load, List.length_append]
    show _ ≤ (Memory.ofSize addressSpace).size
    rw [Memory.size_ofSize, Nat.min_self]
    exact hroom
  ends := hs
  wiring := rfl

/-- With buffers for a console, what has been printed is added to their
output. -/
theorem print_of_buffered {bus : Backplane} {buffers : Console.Buffered}
    (h : bus.ports.devices.console = .buffered buffers)
    (bytes : List UInt8) :
    bus.print bytes =
      { bus with
        ports.devices.console := .buffered
          { buffers with output := buffers.output ++ bytes.toArray } } := by
  have hbytes := Cpm.foldl_writeByte bytes.toArray buffers
  rw [List.foldl_toArray] at hbytes
  rw [Backplane.print, h, hbytes]

/-- The program prints a string of bytes that are not zero, and halts. There
is such a machine for every string that memory has room for: one that has been
built with 64K, with any devices, and got the program and the string loaded.
Whatever has been typed or printed before, a run takes six steps for each byte
and five more, unless its budget ends before. Then it has printed the bytes
that the steps so far were enough for, and otherwise all of them, with all of
their bits. Nothing else on the backplane is any different afterwards: not
memory, and not what is typed and not yet read. -/
theorem prints_string {s : List UInt8} (hs : ∀ byte ∈ s, byte ≠ 0)
    (hroom : 0x0010 + s.length < addressSpace) :
    (∀ devices, Ready s (((Altair.ofMemory addressSpace devices).load 0x0000
      program.toArray).load 0x0010 (s ++ [0]).toArray))
    ∧ ∀ (m : Altair) (buffers : Console.Buffered), Ready s m →
      m.bus.ports.devices.console = .buffered buffers →
      let steps := 6 * s.length + 5
      let printed (bytes : List UInt8) : Backplane :=
        { m.bus with
          ports.devices.console := .buffered
            { buffers with output := buffers.output ++ bytes.toArray } }
      ∀ budget,
        let r := run budget m
        (steps ≤ budget →
          r.outcome = .halted ∧ r.steps = steps ∧ r.machine.bus = printed s)
        ∧ (budget < steps →
          r.outcome = .budgetExhausted ∧ r.steps = budget
            ∧ r.machine.bus = printed (s.take ((budget + 1) / 6))) := by
  refine ⟨ready_of_loaded hs hroom, ?_⟩
  intro m buffers ready hconsole steps printed budget r
  have hr : r = ⟨if steps ≤ budget then outcomeAt m steps else .budgetExhausted,
      min budget steps, stepped (min budget steps) m⟩ :=
    run_eq_of_stopsAt (stopsAt ready) budget
  refine ⟨fun henough => ?_, fun hless => ?_⟩
  · rw [if_pos henough, Nat.min_eq_right henough, outcomeAt_eq ready] at hr
    refine ⟨by rw [hr], by rw [hr], ?_⟩
    have hall : s.length ≤ (steps + 1) / 6 := by
      show s.length ≤ (6 * s.length + 5 + 1) / 6
      omega
    rw [hr, bus_stepped ready (Nat.le_refl _), List.take_of_length_le hall]
    exact print_of_buffered hconsole s
  · rw [if_neg (Nat.not_le_of_lt hless), Nat.min_eq_left (Nat.le_of_lt hless)]
      at hr
    refine ⟨by rw [hr], by rw [hr], ?_⟩
    rw [hr, bus_stepped ready (Nat.le_of_lt hless)]
    exact print_of_buffered hconsole _

/-- A greeting is printed behind what is there, with a byte typed ahead. -/
theorem prints_string_greeting :
    ∃ m : Altair, Ready [0x48, 0x49] m
      ∧ (run 1000 m).outcome = .halted ∧ (run 1000 m).steps = 17
      ∧ (run 1000 m).machine.bus.ports.devices.console =
        .buffered ⟨[0x0D], #[0x3E, 0x48, 0x49]⟩
      ∧ (run 8 m).outcome = .budgetExhausted
      ∧ (run 8 m).machine.bus.ports.devices.console =
        .buffered ⟨[0x0D], #[0x3E, 0x48]⟩ := by
  obtain ⟨hloaded, hruns⟩ :=
    prints_string (s := [0x48, 0x49]) (by simp) (by decide)
  have hready := hloaded { console := .buffered ⟨[0x0D], #[0x3E]⟩ }
  have hrun := hruns _ ⟨[0x0D], #[0x3E]⟩ hready rfl
  obtain ⟨houtcome, hsteps, hbus⟩ := (hrun 1000).1 (by decide)
  obtain ⟨hshort, -, hsent⟩ := (hrun 8).2 (by decide)
  refine ⟨_, hready, houtcome, hsteps, ?_, hshort, ?_⟩
  · rw [hbus]
    rfl
  · rw [hsent]
    rfl

end PrintLoop

end S100
