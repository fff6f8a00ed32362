import Mathlib.Data.List.Nodup
import Mathlib.Data.List.TakeWhile
import S100.Proofs.Cpm.WarmBoot

/-!
# What a system call does

A program calls the operating system with the number of a service in C. The
processor then stands at the system entry, the host prints what is asked for,
and the return that is found there goes back into the program.

A string begins at the address in DE and ends before the first dollar sign.
It may go on around the end of the address space. `addressesFrom` lists the
addresses in the order in which the host looks at them, and has each of them
once (`nodup_addressesFrom`, `mem_addressesFrom`), so that a string without an
end is as long as the address space. `stringAt` is what is printed of it
(`readString_eq`).

`system_call` says all that one step does then: what is printed, where it
returns to, and that nothing else is changed.

What is printed depends on the processor and the memory only (`askedFor`), and
these are the same in an Altair that is run beside. So what the host puts
between the bytes that an Altair prints is known from the Altair alone
(`printed_beside`).
-/

namespace S100

/-! ## Around the address space -/

/-- That many addresses in a row, around the end of the address space. -/
def addressesFrom (first : UInt16) (count : Nat) : List UInt16 :=
  (List.range count).map fun i => first + UInt16.ofNat i

theorem addressesFrom_succ (first : UInt16) (count : Nat) :
    addressesFrom first (count + 1) =
      first :: addressesFrom (first + 1) count := by
  rw [addressesFrom, List.range_succ_eq_map, List.map_cons, List.map_map]
  have hfirst : first + UInt16.ofNat 0 = first := UInt16.add_zero first
  have hlater : (fun i => first + UInt16.ofNat i) ∘ Nat.succ =
      fun i => first + 1 + UInt16.ofNat i := by
    funext i
    show first + UInt16.ofNat (i + 1) = _
    rw [UInt16.ofNat_add, UInt16.add_assoc, UInt16.add_comm (UInt16.ofNat i)]
    rfl
  rw [hfirst, hlater]
  rfl

theorem nodup_addressesFrom (first : UInt16) :
    (addressesFrom first addressSpace).Nodup := by
  refine List.Nodup.map_on (fun i hi j hj h => ?_) List.nodup_range
  rw [List.mem_range] at hi hj
  have hspace : addressSpace = 65536 := rfl
  have hsame := congrArg UInt16.toNat h
  rw [toNat_addressFrom, toNat_addressFrom] at hsame
  omega

theorem mem_addressesFrom (first address : UInt16) :
    address ∈ addressesFrom first addressSpace := by
  have hfirst := first.toNat_lt
  have haddress := address.toNat_lt
  have hspace : addressSpace = 65536 := rfl
  refine List.mem_map.mpr
    ⟨(address.toNat + 65536 - first.toNat) % 65536, ?_, ?_⟩
  · rw [List.mem_range]
    omega
  · apply UInt16.toNat_inj.mp
    rw [toNat_addressFrom]
    omega

namespace Cpm

variable {m : Cpm} {memory : Memory} {first : UInt16}

/-! ## Strings -/

/-- The bytes from an address on, once around the address space. -/
def bytesFrom (memory : Memory) (first : UInt16) : List UInt8 :=
  (addressesFrom first addressSpace).map memory.read

/-- The bytes from an address up to a dollar sign. -/
def stringAt (memory : Memory) (first : UInt16) : List UInt8 :=
  (bytesFrom memory first).takeWhile (· ≠ 0x24)

theorem readString_eq (memory : Memory) (count : Nat) (first : UInt16)
    (printed : Bytes) :
    readString memory count first printed =
      printed ++ (((addressesFrom first count).map memory.read).takeWhile
        (· ≠ 0x24)).toArray := by
  induction count generalizing first printed with
  | zero => exact (Array.append_empty).symm
  | succ count ih =>
      rw [readString, addressesFrom_succ, List.map_cons]
      by_cases hend : memory.read first = 0x24
      · rw [if_pos hend, List.takeWhile_cons_of_neg (by simpa using hend)]
        exact (Array.append_empty).symm
      · rw [if_neg hend, List.takeWhile_cons_of_pos (by simpa using hend), ih]
        simp

/-- A string that ends is what stands before its end. -/
theorem stringAt_of_end {length : Nat} (hlength : length < addressSpace)
    (hend : memory.read (first + UInt16.ofNat length) = 0x24)
    (hbefore : ∀ i < length,
      memory.read (first + UInt16.ofNat i) ≠ 0x24) :
    stringAt memory first = (addressesFrom first length).map memory.read := by
  obtain ⟨rest, hrest⟩ : ∃ rest, addressSpace = length + (rest + 1) :=
    ⟨addressSpace - length - 1, by omega⟩
  have hsplit : bytesFrom memory first =
      (addressesFrom first length).map memory.read ++
        (0x24 :: (List.range rest).map fun i =>
          memory.read (first + UInt16.ofNat (length + (i + 1)))) := by
    rw [bytesFrom, hrest, addressesFrom, List.range_add,
      List.range_succ_eq_map, addressesFrom]
    simp [hend, Function.comp_def]
  rw [stringAt, hsplit, List.takeWhile_append_of_pos,
    List.takeWhile_cons_of_neg (by simp), List.append_nil]
  intro byte hbyte
  simp only [addressesFrom, List.map_map, List.mem_map, List.mem_range]
    at hbyte
  obtain ⟨i, hi, rfl⟩ := hbyte
  simpa using hbefore i hi

/-- Where memory holds no dollar sign, all of it is printed. -/
theorem stringAt_of_endless (h : ∀ address, memory.read address ≠ 0x24)
    (first : UInt16) : stringAt memory first = bytesFrom memory first := by
  refine List.takeWhile_eq_self_iff.mpr fun byte hbyte => ?_
  obtain ⟨address, -, rfl⟩ := List.mem_map.mp hbyte
  simpa using h address

/-! ## The call -/

/-- What the host prints when the system is called. -/
def service (memory : Memory) (regs : Registers) : List UInt8 :=
  if regs.c = 2 then [regs.e]
  else if regs.c = 9 then stringAt memory (regs.getPair .de)
  else []

theorem systemOutput_eq (m : Cpm) :
    m.systemOutput = (service m.bus.memory m.cpu.regs).toArray := by
  unfold systemOutput service
  split
  · rfl
  · split
    · rw [readString_eq, Array.empty_append]
      rfl
    · rfl

theorem answer_of_entry (hrunning : m.cpu.halted = false)
    (hpc : m.cpu.regs.pc = 0x0005) :
    m.answer = (service m.bus.memory m.cpu.regs).toArray := by
  have hentry : m.atSystemEntry = true := by
    rw [atSystemEntry, hpc, hrunning]
    rfl
  rw [answer, if_pos hentry, systemOutput_eq]

/-- The processor stands at the system entry, and the return is in place there.
One step executes that return and has the host print what the call asks for
before: the byte in E, or the string at DE, or nothing. The string goes up to
the first dollar sign, and where memory has none, it is every byte of the
address space once. The word on the stack becomes the program counter, and
nothing else but the lights and the last opcode is changed. What is printed
goes behind what was printed before. -/
theorem system_call (hrunning : m.cpu.halted = false)
    (hpc : m.cpu.regs.pc = 0x0005)
    (hreturn : m.bus.memory.read 0x0005 = 0xC9) :
    let memory := m.bus.memory
    let regs := m.cpu.regs
    let text := regs.getPair .de
    let console := m.bus.ports.devices.console
    let printed := service memory regs
    let after : Cpm :=
      { cpu := { m.cpu with
          regs := { regs with pc := memory.readWord regs.sp, sp := regs.sp + 2 }
          lights := ⟨regs.sp + 1, memory.read (regs.sp + 1)⟩
          opcode := 0xC9 }
        bus := { m.bus with
          ports.devices.console :=
            printed.foldl (fun console byte => console.writeByte byte)
              console } }
    m.step = (.executed, after)
    ∧ (∀ buffers, console = .buffered buffers →
      after.bus.ports.devices.console = .buffered
        { buffers with output := buffers.output ++ printed.toArray })
    ∧ (∀ length < addressSpace,
      (∀ i < length, memory.read (text + UInt16.ofNat i) ≠ 0x24) →
      memory.read (text + UInt16.ofNat length) = 0x24 →
      stringAt memory text = (addressesFrom text length).map memory.read)
    ∧ ((∀ address, memory.read address ≠ 0x24) →
      stringAt memory text =
        (addressesFrom text addressSpace).map memory.read)
    ∧ (addressesFrom text addressSpace).Nodup
    ∧ ∀ address, address ∈ addressesFrom text addressSpace := by
  intro memory regs text console printed after
  have hprint : (m.print m.answer).bus = after.bus := by
    rw [answer_of_entry hrunning hpc, print, List.foldl_toArray]
  refine ⟨?_, fun buffers hbuffers => ?_, fun length hlength hbefore hend =>
    stringAt_of_end hlength hend hbefore, fun h => stringAt_of_endless h text,
    nodup_addressesFrom text, mem_addressesFrom text⟩
  · rw [step_of_running hrunning, hpc, hreturn, hprint]
    rfl
  · have hbytes := foldl_writeByte printed.toArray buffers
    rw [List.foldl_toArray, ← hbuffers] at hbytes
    exact hbytes

/-- A string begins at the last address and goes on at the first, with the halt
that stands there, to the dollar sign behind it. -/
theorem system_call_around :
    ∃ m : Cpm, m.bus.memory.size = addressSpace ∧ m.cpu.regs.c = 9
      ∧ m.cpu.regs.getPair .de = 0xFFFF ∧ m.cpu.halted = false
      ∧ m.cpu.regs.pc = 0x0005 ∧ m.bus.memory.read 0x0005 = 0xC9
      ∧ m.step.1 = .executed ∧ m.step.2.cpu.regs.pc = 0x0034
      ∧ m.step.2.bus.ports.devices.console =
        .buffered { output := #[0x48, 0x76] } := by
  obtain ⟨memory, hsize, hread⟩ : ∃ memory : Memory,
      memory.size = addressSpace ∧ ∀ address, memory.read address =
        if 0xFDFE = address then 0x34 else if 0x0005 = address then 0xC9
        else if 0x0001 = address then 0x24 else if 0x0000 = address then 0x76
        else if 0xFFFF = address then 0x48 else 0 := by
    have hfull : (Memory.ofSize addressSpace).size = addressSpace :=
      Memory.size_ofSize _
    refine ⟨(((((Memory.ofSize addressSpace).write 0xFFFF 0x48).write 0x0000
      0x76).write 0x0001 0x24).write 0x0005 0xC9).write 0xFDFE 0x34, ?_, ?_⟩
    · simp only [Memory.size_write, hfull]
    · intro address
      simp only [Memory.read_write_of_full, Memory.size_write, hfull,
        Memory.read_ofSize]
  let m : Cpm :=
    { cpu := { regs := { c := 9, d := 0xFF, e := 0xFF, sp := 0xFDFE,
                         pc := 0x0005 } }
      bus := { memory } }
  have htext : m.cpu.regs.getPair .de = 0xFFFF :=
    (by decide : word 0xFF 0xFF = 0xFFFF)
  obtain ⟨hstep, hconsole, hstring, -⟩ :=
    system_call (m := m) rfl rfl (hread 0x0005)
  have hprinted : stringAt memory 0xFFFF = [0x48, 0x76] := by
    have hbefore : ∀ i < 2, memory.read (0xFFFF + UInt16.ofNat i) ≠ 0x24 := by
      intro i hi
      obtain rfl | rfl : i = 0 ∨ i = 1 := by omega
      · rw [hread]
        decide
      · rw [hread]
        decide
    have hend : memory.read (0xFFFF + UInt16.ofNat 2) = 0x24 := by
      rw [hread]
      decide
    rw [htext] at hstring
    rw [hstring 2 (by decide) hbefore hend]
    exact congrArg₂ (fun a b => [a, b]) (hread 0xFFFF) (hread 0x0000)
  refine ⟨m, hsize, rfl, htext, rfl, rfl, hread 0x0005, by rw [hstep], ?_, ?_⟩
  · rw [hstep]
    show memory.readWord 0xFDFE = 0x0034
    rw [Memory.readWord, hread, hread]
    rfl
  · have hservice : service m.bus.memory m.cpu.regs = [0x48, 0x76] := by
      rw [service, if_neg (by decide : ¬(9 : UInt8) = 2), if_pos rfl, htext]
      exact hprinted
    rw [hstep, hconsole {} rfl, hservice]
    rfl

/-! ## Beside an Altair -/

/-- What is asked of the system: a service, if a processor that is not halted
stands at the system entry. -/
def askedFor (cpu : Cpu) (memory : Memory) : Bytes :=
  if cpu.halted = false ∧ cpu.regs.pc = 0x0005 then
    (service memory cpu.regs).toArray
  else #[]

theorem answer_eq (m : Cpm) : m.answer = askedFor m.cpu m.bus.memory := by
  unfold askedFor
  by_cases hentry : m.cpu.halted = false ∧ m.cpu.regs.pc = 0x0005
  · rw [if_pos hentry, answer_of_entry hentry.1 hentry.2]
  · rw [if_neg hentry]
    by_contra h
    obtain ⟨hrunning, hpc, -⟩ := calls_of_answer h
    exact hentry ⟨hrunning, hpc⟩

end Cpm

/-- What has been printed after some steps, each of which prints something
behind what was printed before. -/
def printedBy (before : Bytes) (sent : Nat → Bytes) : Nat → Bytes
  | 0 => before
  | n + 1 => printedBy before sent n ++ sent n

namespace Twins

variable {a : Altair} {c : Cpm}

theorem askedFor_eq (h : Twins a c) :
    c.answer = Cpm.askedFor a.cpu a.bus.memory := by
  obtain ⟨first, second, hbus⟩ := h.bus
  rw [Cpm.answer_eq, h.cpu, hbus.memory]

theorem printed_stepped (h : Twins a c) :
    ∃ sent : Nat → Bytes, ∀ n,
      (S100.stepped n a).bus.printed = printedBy a.bus.printed sent n
      ∧ (S100.stepped n c).bus.printed =
        printedBy c.bus.printed
          (fun k => Cpm.askedFor (S100.stepped k a).cpu
            (S100.stepped k a).bus.memory ++ sent k) n := by
  have hsteps (k : Nat) := (h.stepped k).step.2.2
  choose sent haltair hcpm using hsteps
  refine ⟨sent, fun n => ?_⟩
  induction n with
  | zero => exact ⟨rfl, rfl⟩
  | succ n ih =>
      constructor
      · rw [stepped_succ_last, printedBy, ← ih.1]
        exact haltair n
      · rw [stepped_succ_last, printedBy, ← ih.2, ← (h.stepped n).askedFor_eq,
          ← Array.append_assoc]
        exact hcpm n

end Twins

/-- An Altair and a CP/M runner start in the same state, with a pair of buffers
for their console. Then the steps of both print the same bytes, but that the
CP/M runner puts before the bytes of a step what the Altair asks for in it: if
the Altair is not halted and stands at the system entry, the byte in E for the
service 2, the string at DE for the service 9, and nothing otherwise. -/
theorem printed_beside (cpu : Cpu) (memory : Memory) (wiring : Wiring)
    (buffers : Console.Buffered) (switches : UInt8)
    (disks : Floppy.Controller) (start : UInt16) :
    let bus : Backplane :=
      ⟨memory, wiring, .buffered buffers, switches, disks⟩
    let altair (n : Nat) : Altair := stepped n ⟨cpu, bus, start⟩
    let cpm (n : Nat) : Cpm := stepped n ⟨cpu, bus⟩
    let asked (n : Nat) : Bytes :=
      Cpm.askedFor (altair n).cpu (altair n).bus.memory
    ∃ sent : Nat → Bytes, ∀ n,
      (altair n).bus.printed = printedBy buffers.output sent n
      ∧ (cpm n).bus.printed =
        printedBy buffers.output (fun k => asked k ++ sent k) n :=
  (Twins.of_parts cpu memory wiring buffers switches disks
    start).printed_stepped

end S100
