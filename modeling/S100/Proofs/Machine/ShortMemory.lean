import S100.Proofs.Cpu.Steps
import S100.Proofs.Machine.Requests
import S100.Proofs.Run.Slices

/-!
# Short memory

A machine need not be populated with all the memory that its processor can
address. A program that keeps to the part that is there cannot tell: it does
on a machine with little memory what it does on one with all of it
(`short_memory_faithful`). What it keeps to is said by the cycles that the
fully populated machine makes, which are the opcodes and operands that it
fetches, the data that it loads and stores, and its stack.

The two machines need not have anything in common above the smaller size. As
long as every memory cycle is below it, the same bytes are read in both, so
the conversation of the processor with the bus takes the same course, and
what it writes keeps the bytes below the size the same (`ShortOf.run`).

How much memory there is does not change by anything that can be asked of a
machine, and what is not there reads 0 (`memory_size_after`).
-/

namespace S100

/-- A cycle that is not a memory cycle at or above a bound. -/
def Cycle.Below (bound : Nat) : Cycle → Prop
  | .read address _ | .write address _ => address.toNat < bound
  | .input _ _ | .output _ _ => True

/-! ## Backplanes -/

/-- The first backplane is populated up to `size`, where the second is
populated as well. Below that they hold the same, and all their ports are the
same. -/
structure Backplane.ShortOf (size : Nat) (s t : Backplane) : Prop where
  size_eq : s.memory.size = size
  size_le : size ≤ t.memory.size
  ports : s.ports = t.ports
  below : ∀ address : UInt16, address.toNat < size →
    s.memory.read address = t.memory.read address

namespace Backplane.ShortOf

variable {α : Type} {size : Nat} {s t : Backplane}

theorem input (h : ShortOf size s t) (port : UInt8) :
    (Bus.input s port).1 = (Bus.input t port).1
      ∧ ShortOf size (Bus.input s port).2 (Bus.input t port).2 := by
  obtain ⟨memory, ports⟩ := s
  obtain ⟨memory', ports'⟩ := t
  obtain ⟨hsize, hle, hports, hbelow⟩ := h
  obtain rfl : ports = ports' := hports
  exact ⟨rfl, hsize, hle, rfl, hbelow⟩

theorem output (h : ShortOf size s t) (port data : UInt8) :
    ShortOf size (Bus.output s port data) (Bus.output t port data) :=
  ⟨h.size_eq, h.size_le, congrArg (Ports.output · port data) h.ports, h.below⟩

/-- A byte written is read back in both or, above the size, below which all
stays as it is, in at most one. -/
theorem write (h : ShortOf size s t) (address : UInt16) (data : UInt8) :
    ShortOf size (Bus.write s address data) (Bus.write t address data) where
  size_eq := (Memory.size_write ..).trans h.size_eq
  size_le := (Memory.size_write t.memory address data).symm ▸ h.size_le
  ports := h.ports
  below other hother := by
    have hs : other.toNat < s.memory.size := h.size_eq ▸ hother
    have ht : other.toNat < t.memory.size := Nat.lt_of_lt_of_le hother h.size_le
    show (s.memory.write address data).read other =
      (t.memory.write address data).read other
    simp only [Memory.read_write, hs, ht, and_true, h.below other hother]

/-- A dialogue that makes no memory cycle above the size on the larger
backplane takes the same course on the smaller one. -/
theorem run (h : ShortOf size s t) (d : Dialogue α)
    (hbelow : ∀ cycle ∈ d.cycles t, cycle.Below size) :
    (d.run s).1 = (d.run t).1 ∧ d.cycles s = d.cycles t
      ∧ ShortOf size (d.run s).2 (d.run t).2 := by
  induction d generalizing s t with
  | done a => exact ⟨rfl, rfl, h⟩
  | read address next ih =>
      obtain ⟨haddress, hrest⟩ := List.forall_mem_cons.mp hbelow
      have hdata : (Bus.read s address).1 = (Bus.read t address).1 :=
        h.below address haddress
      obtain ⟨hrun, hcycles, hshort⟩ := ih _ h hrest
      simp only [Dialogue.run, Dialogue.cycles, hdata]
      exact ⟨hrun, congrArg (_ :: ·) hcycles, hshort⟩
  | write address data next ih =>
      obtain ⟨-, hrest⟩ := List.forall_mem_cons.mp hbelow
      obtain ⟨hrun, hcycles, hshort⟩ := ih (h.write address data) hrest
      exact ⟨hrun, congrArg (_ :: ·) hcycles, hshort⟩
  | input port next ih =>
      obtain ⟨-, hrest⟩ := List.forall_mem_cons.mp hbelow
      obtain ⟨hdata, hports⟩ := h.input port
      obtain ⟨hrun, hcycles, hshort⟩ := ih _ hports hrest
      simp only [Dialogue.run, Dialogue.cycles, hdata]
      exact ⟨hrun, congrArg (_ :: ·) hcycles, hshort⟩
  | output port data next ih =>
      obtain ⟨-, hrest⟩ := List.forall_mem_cons.mp hbelow
      obtain ⟨hrun, hcycles, hshort⟩ := ih (h.output port data) hrest
      exact ⟨hrun, congrArg (_ :: ·) hcycles, hshort⟩

end Backplane.ShortOf

namespace Altair

/-! ## Runs -/

/-- The cycles that a machine makes when it takes a step. -/
def cycles (m : Altair) : List Cycle :=
  m.cpu.step.cycles m.bus

/-- Two machines with the same processor, one of them with a short memory. -/
structure ShortOf (size : Nat) (a b : Altair) : Prop where
  cpu : a.cpu = b.cpu
  bus : a.bus.ShortOf size b.bus

variable {size n : Nat} {a b : Altair}

theorem ShortOf.step (h : ShortOf size a b)
    (hbelow : ∀ cycle ∈ b.cycles, cycle.Below size) :
    a.step.1 = b.step.1 ∧ a.cycles = b.cycles
      ∧ ShortOf size a.step.2 b.step.2 := by
  obtain ⟨hrun, hcycles, hshort⟩ := h.bus.run b.cpu.step hbelow
  rw [← h.cpu] at hrun hcycles hshort
  refine ⟨?_, ?_, ?_, ?_⟩
  · show (a.cpu.step.run a.bus).1.1 = (b.cpu.step.run b.bus).1.1
    rw [hrun, h.cpu]
  · rw [cycles, hcycles, cycles, h.cpu]
  · show (a.cpu.step.run a.bus).1.2 = (b.cpu.step.run b.bus).1.2
    rw [hrun, h.cpu]
  · show ((a.cpu.step.run a.bus).2).ShortOf size (b.cpu.step.run b.bus).2
    rw [← h.cpu]
    exact hshort

theorem ShortOf.stepped (h : ShortOf size a b)
    (hbelow : ∀ k < n, ∀ cycle ∈ (stepped k b).cycles, cycle.Below size) :
    ShortOf size (stepped n a) (stepped n b) := by
  induction n with
  | zero => exact h
  | succ n ih =>
      rw [stepped_succ_last, stepped_succ_last]
      have hbefore := ih fun k hk => hbelow k (Nat.lt_succ_of_lt hk)
      exact (hbefore.step (hbelow n (Nat.lt_succ_self n))).2.2

/-! ## The populated size -/

theorem memory_size_run {α : Type} (d : Dialogue α) (bus : Backplane) :
    (d.run bus).2.memory.size = bus.memory.size := by
  refine Dialogue.run_induction
    (P := fun bus' => bus'.memory.size = bus.memory.size)
    (fun _ _ h => h) (fun bus' address data h => ?_) (fun _ _ h => h)
    (fun _ _ _ h => h) d bus rfl
  exact (Memory.size_write bus'.memory address data).trans h

theorem memory_size_hold {α : Type} (m : Altair) (d : Dialogue (α × Cpu)) :
    (m.hold d).2.bus.memory.size = m.bus.memory.size :=
  memory_size_run d m.bus

theorem memory_size_panel (m : Altair) (d : Dialogue Cpu) :
    (m.panel d).bus.memory.size = m.bus.memory.size :=
  memory_size_hold m _

theorem memory_size_respond (m : Altair) (request : Request) :
    (m.respond request).2.bus.memory.size = m.bus.memory.size := by
  cases request with
  | step => exact memory_size_hold m _
  | examine | examineNext | deposit | depositNext =>
      exact memory_size_panel m _
  | load address image => exact Memory.size_load ..
  | mount drive diskette =>
      rw [respond, Altair.mount]
      cases m.disks.mount drive diskette <;> rfl
  | input | output | wire | type | eject | reset => rfl

/-- Whatever is asked of a machine, its memory keeps its size, and reads 0
where it is not populated. -/
theorem memory_size_after (m : Altair) (requests : List Request) :
    (m.after requests).bus.memory.size = m.bus.memory.size
      ∧ ∀ address : UInt16, m.bus.memory.size ≤ address.toNat →
        (m.after requests).bus.memory.read address = 0 := by
  have hsize : (m.after requests).bus.memory.size = m.bus.memory.size := by
    induction requests generalizing m with
    | nil => rfl
    | cons request rest ih =>
        exact (ih (m.respond request).2).trans (memory_size_respond m request)
  exact ⟨hsize, fun address h => Memory.read_of_size_le (hsize ▸ h)⟩

/-! ## The same course -/

/-- A run that makes no memory cycle outside what the first machine is
populated with goes the same way on the first machine as on the second, fully
populated one: step by step it reports the same, makes the same cycles, and
leaves the same in the processor, at the ports, in the devices and in the
memory that both have. -/
theorem short_memory_faithful {size : Nat} {a b : Altair} {n : Nat}
    (hcpu : a.cpu = b.cpu) (hports : a.bus.ports = b.bus.ports)
    (hshort : a.bus.memory.size = size)
    (hfull : b.bus.memory.size = addressSpace)
    (hagree : ∀ address : UInt16, address.toNat < size →
      a.bus.memory.read address = b.bus.memory.read address)
    (hbelow : ∀ k < n, ∀ cycle ∈ (stepped k b).cycles, cycle.Below size) :
    (∀ k < n, reportAfter k a = reportAfter k b
        ∧ (stepped k a).cycles = (stepped k b).cycles)
      ∧ (∀ k ≤ n, (stepped k a).cpu = (stepped k b).cpu
        ∧ (stepped k a).bus.ports = (stepped k b).bus.ports
        ∧ ∀ address : UInt16, address.toNat < size →
          (stepped k a).bus.memory.read address =
            (stepped k b).bus.memory.read address)
      ∧ ∀ (m : Altair) (requests : List Request),
        (m.after requests).bus.memory.size = m.bus.memory.size
          ∧ ∀ address : UInt16, m.bus.memory.size ≤ address.toNat →
            (m.after requests).bus.memory.read address = 0 := by
  have hstart : ShortOf size a b := by
    refine ⟨hcpu, hshort, ?_, hports, hagree⟩
    rw [hfull, ← hshort]
    exact a.bus.memory.size_le
  have hcourse : ∀ k ≤ n, ShortOf size (stepped k a) (stepped k b) :=
    fun k hk => hstart.stepped fun j hj => hbelow j (Nat.lt_of_lt_of_le hj hk)
  refine ⟨fun k hk => ?_, fun k hk => ?_, memory_size_after⟩
  · obtain ⟨hreport, hcycles, -⟩ :=
      (hcourse k (Nat.le_of_lt hk)).step (hbelow k hk)
    exact ⟨hreport, hcycles⟩
  · have hk := hcourse k hk
    exact ⟨hk.cpu, hk.bus.ports, hk.bus.below⟩

/-- Three bytes of memory are enough for a program that puts a halt behind
itself and runs into it, whatever else the larger machine holds. -/
theorem short_memory_faithful_three :
    ∃ a b : Altair, a.bus.memory.size = 3
      ∧ b.bus.memory.size = addressSpace
      ∧ a.bus.memory.read 3 = 0 ∧ b.bus.memory.read 3 = 0xFF
      ∧ (stepped 1 b).cycles = [.read 2 0x76]
      ∧ (stepped 1 a).cycles = (stepped 1 b).cycles
      ∧ reportAfter 1 a = reportAfter 1 b
      ∧ (stepped 2 a).cpu = (stepped 2 b).cpu
      ∧ (stepped 2 a).bus.memory.read 2 = (stepped 2 b).bus.memory.read 2 := by
  -- `MVI M` with the halt's opcode, at 0 and 1.
  let code (address : UInt16) : UInt8 :=
    if 1 = address then 0x76 else if 0 = address then 0x36 else 0
  obtain ⟨small, hsmall, hcode⟩ : ∃ memory : Memory, memory.size = 3
      ∧ ∀ address, address.toNat < 3 → memory.read address = code address := by
    have hsize : min 3 addressSpace = 3 := by decide
    refine ⟨((Memory.ofSize 3).write 0 0x36).write 1 0x76, by simp [hsize],
      fun address h => ?_⟩
    simp [code, Memory.read_write, hsize, h]
  obtain ⟨large, hlarge, hread⟩ : ∃ memory : Memory,
      memory.size = addressSpace ∧ ∀ address,
        memory.read address = if 3 = address then 0xFF else code address := by
    refine ⟨(((Memory.ofSize addressSpace).write 0 0x36).write 1 0x76).write 3
      0xFF, by simp, fun address => ?_⟩
    simp [code, Memory.read_write_of_full]
  have h0 : large.read 0 = 0x36 := by simp [hread, code]
  have h1 : large.read 1 = 0x76 := by simp [hread, code]
  have hhl : word 0 2 = 2 := by decide
  have hmvi : Instruction.decode 0x36 = .mvi .mem := by decide
  have hhlt : Instruction.decode 0x76 = .hlt := by decide
  let machine (memory : Memory) : Altair :=
    { cpu := { regs := { l := 2 } }, bus := { memory } }
  have hfirst : (machine large).cycles =
      [.read 0 0x36, .read 1 0x76, .write 2 0x76] := by
    rw [cycles, Cpu.step_of_running rfl]
    simp [machine, Dialogue.cycles, Bus.read, h0, h1, hmvi, Cpu.execute,
      Cpu.fetch, Cpu.readAt, Cpu.store, Cpu.writeAt, Cpu.fetched,
      Registers.hl, hhl]
  have hstep : stepped 1 (machine large) =
      { cpu := { regs := { l := 2, pc := 2 }, lights := ⟨2, 0x76⟩,
                 opcode := 0x36 }
        bus := { memory := large.write 2 0x76 } } := by
    show (machine large).step.2 = _
    simp [machine, Altair.step, hold, Cpu.run_step_of_running, Dialogue.run,
      Bus.read, Bus.write, h0, h1, hmvi, Cpu.execute, Cpu.fetch, Cpu.readAt,
      Cpu.store, Cpu.writeAt, Cpu.fetched, Registers.hl, hhl]
  have hsecond : (stepped 1 (machine large)).cycles = [.read 2 0x76] := by
    have h2 : (large.write 2 0x76).read 2 = 0x76 := by
      simp [Memory.read_write_of_full hlarge]
    rw [hstep, cycles, Cpu.step_of_running rfl]
    simp [Dialogue.cycles, Bus.read, h2, hhlt, Cpu.execute]
  have hagree (address : UInt16) (h : address.toNat < 3) :
      small.read address = large.read address := by
    have hne : 3 ≠ address := by
      rintro rfl
      exact absurd h (by decide)
    rw [hcode address h, hread, if_neg hne]
  obtain ⟨hsame, hstate, -⟩ := short_memory_faithful (a := machine small)
    (b := machine large) (n := 2) rfl rfl hsmall hlarge hagree (by
      intro k hk
      obtain rfl | rfl : k = 0 ∨ k = 1 := by omega
      · rw [stepped_zero, hfirst]
        simp [Cycle.Below]
      · rw [hsecond]
        simp [Cycle.Below])
  obtain ⟨hreport, hcycles⟩ := hsame 1 (by decide)
  obtain ⟨hcpu, -, hmemory⟩ := hstate 2 (Nat.le_refl 2)
  refine ⟨machine small, machine large, hsmall, hlarge, ?_, ?_, hsecond,
    hcycles, hreport, hcpu, hmemory 2 (by decide)⟩
  · exact Memory.read_of_size_le (by rw [hsmall]; decide)
  · simp [machine, hread]

end Altair

end S100
