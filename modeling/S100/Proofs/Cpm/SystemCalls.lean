import S100.Cpm
import S100.Proofs.Run.Slices

/-!
# System calls are transparent

The CP/M runner is an Altair whose host looks at the processor before each
step and sometimes prints something. All that its step does beyond that of
an Altair is to print the `answer` to a system call (`step_eq`).

What has been printed cannot be found out by the machine: two systems that
differ in nothing else stay so through every dialogue, and print the same
in it (`SameBut.run`). So an Altair and a CP/M runner in the same state go
on alike (`Twins.step`), and `system_calls_transparent` says so of runs of
any length, from any state.
-/

namespace S100

/-! ## Systems that differ in what they have printed -/

/-- Two systems that are the same, but that one has printed `first` and the
other `second` before they both printed the same. -/
structure SameBut (first second : Bytes) (s t : Backplane) : Prop where
  memory : s.memory = t.memory
  wiring : s.ports.wiring = t.ports.wiring
  switches : s.ports.devices.switches = t.ports.devices.switches
  disks : s.ports.devices.disks = t.ports.devices.disks
  console : ∃ input sent,
    s.ports.devices.console = .buffered ⟨input, first ++ sent⟩
      ∧ t.ports.devices.console = .buffered ⟨input, second ++ sent⟩

namespace SameBut

variable {first second : Bytes} {s t : Backplane}

/-- All that is read off a card is the same in both, and none of it depends
on what has been printed. -/
theorem input (h : SameBut first second s t) (port : UInt8) :
    (Bus.input s port).1 = (Bus.input t port).1
      ∧ SameBut first second (Bus.input s port).2 (Bus.input t port).2 := by
  obtain ⟨memory, wiring, console, switches, disks⟩ := s
  obtain ⟨rfl, rfl, rfl, rfl, input, sent, rfl, hconsole⟩ := h
  obtain ⟨memory, wiring, console', switches, disks⟩ := t
  obtain rfl : console' = .buffered ⟨input, second ++ sent⟩ := hconsole
  simp only [Bus.input, Ports.input]
  cases wiring.get port with
  | none => exact ⟨rfl, rfl, rfl, rfl, rfl, input, sent, rfl, rfl⟩
  | some function =>
      cases function with
      | terminalData =>
          cases input with
          | nil => exact ⟨rfl, rfl, rfl, rfl, rfl, [], sent, rfl, rfl⟩
          | cons byte later =>
              exact ⟨rfl, rfl, rfl, rfl, rfl, later, sent, rfl, rfl⟩
      | _ => exact ⟨rfl, rfl, rfl, rfl, rfl, input, sent, rfl, rfl⟩

theorem output (h : SameBut first second s t) (port data : UInt8) :
    SameBut first second (Bus.output s port data) (Bus.output t port data) := by
  obtain ⟨memory, wiring, console, switches, disks⟩ := s
  obtain ⟨rfl, rfl, rfl, rfl, input, sent, rfl, hconsole⟩ := h
  obtain ⟨memory, wiring, console', switches, disks⟩ := t
  obtain rfl : console' = .buffered ⟨input, second ++ sent⟩ := hconsole
  simp only [Bus.output, Ports.output]
  cases wiring.get port with
  | none => exact ⟨rfl, rfl, rfl, rfl, input, sent, rfl, rfl⟩
  | some function =>
      cases function with
      | terminalData =>
          refine ⟨rfl, rfl, rfl, rfl, input, sent.push data, ?_, ?_⟩
          · rw [← Array.push_append]
            rfl
          · rw [← Array.push_append]
            rfl
      | _ => exact ⟨rfl, rfl, rfl, rfl, input, sent, rfl, rfl⟩

/-- A dialogue goes the same way in both. -/
theorem run {α : Type} (h : SameBut first second s t) (d : Dialogue α) :
    (d.run s).1 = (d.run t).1
      ∧ SameBut first second (d.run s).2 (d.run t).2 := by
  refine Dialogue.run_simulation (R := SameBut first second)
    (fun s t address h => ?_) (fun s t address data h => ?_)
    (fun s t port h => h.input port)
    (fun s t port data h => h.output port data) d s t h
  · exact ⟨congrArg (Memory.read · address) h.memory, h⟩
  · exact ⟨congrArg (Memory.write · address data) h.memory, h.wiring,
      h.switches, h.disks, h.console⟩

end SameBut

/-! ## The host's part of a step -/

namespace Cpm

variable {m : Cpm}

/-- What the host prints before a step. -/
def answer (m : Cpm) : Bytes :=
  if m.atSystemEntry then m.systemOutput else #[]

theorem step_eq (m : Cpm) : m.step = (m.print m.answer).hold m.cpu.step := by
  unfold step answer
  split <;> rfl

/-- The host prints nothing but the answers to two kinds of calls. -/
theorem calls_of_answer (h : m.answer ≠ #[]) :
    m.cpu.halted = false ∧ m.cpu.regs.pc = 0x0005
      ∧ (m.cpu.regs.c = 2 ∨ m.cpu.regs.c = 9) := by
  unfold answer at h
  split at h
  · rename_i hentry
    simp only [atSystemEntry, Bool.and_eq_true, decide_eq_true_eq,
      Bool.not_eq_true'] at hentry
    refine ⟨hentry.2, hentry.1, ?_⟩
    unfold systemOutput at h
    split at h
    · rename_i hwrite
      exact .inl hwrite
    · split at h
      · rename_i hstring
        exact .inr hstring
      · exact absurd rfl h
  · exact absurd rfl h

/-- Bytes printed one by one are put behind what was printed before. -/
theorem foldl_writeByte (bytes : Bytes) (buffers : Console.Buffered) :
    bytes.foldl (fun console byte => console.writeByte byte)
        (.buffered buffers) =
      Console.buffered { buffers with output := buffers.output ++ bytes } := by
  obtain ⟨bytes⟩ := bytes
  rw [List.foldl_toArray]
  induction bytes generalizing buffers with
  | nil => simp
  | cons byte rest ih =>
      refine (ih (buffers.writeByte byte)).trans ?_
      simp [Console.Buffered.writeByte]

end Cpm

/-! ## Twins -/

/-- What has been printed and not been taken. -/
def Backplane.printed (bus : Backplane) : Bytes :=
  match bus.ports.devices.console with
  | .buffered console => console.output
  | .stream console => console.output

theorem printed_of_buffered {bus : Backplane} {input : List UInt8}
    {output : Bytes}
    (h : bus.ports.devices.console = .buffered ⟨input, output⟩) :
    bus.printed = output := by
  rw [Backplane.printed, h]

/-- An Altair and a CP/M runner that are in the same state, down to what is
typed and not yet read, but for what has been printed. -/
structure Twins (a : Altair) (c : Cpm) : Prop where
  cpu : a.cpu = c.cpu
  bus : ∃ first second, SameBut first second a.bus c.bus

namespace Twins

variable {a : Altair} {c : Cpm}

/-- They stay the same when the host of one prints something. -/
theorem print (h : Twins a c) (bytes : Bytes) :
    SameBut a.bus.printed (c.bus.printed ++ bytes) a.bus
      (c.print bytes).bus := by
  obtain ⟨first, second, memory, wiring, switches, disks, input, sent, ha,
    hc⟩ := h.bus
  refine ⟨memory, wiring, switches, disks, input, #[], ?_, ?_⟩
  · rw [printed_of_buffered ha, Array.append_empty]
    exact ha
  · rw [printed_of_buffered hc, Array.append_empty]
    show bytes.foldl _ c.bus.ports.devices.console = _
    rw [hc, Cpm.foldl_writeByte]

/-- In one step both do the same, and print the same, but that the host of
the CP/M runner answers a system call before. -/
theorem step (h : Twins a c) :
    a.step.1 = c.step.1 ∧ Twins a.step.2 c.step.2
      ∧ ∃ sent, a.step.2.bus.printed = a.bus.printed ++ sent
        ∧ c.step.2.bus.printed = c.bus.printed ++ c.answer ++ sent := by
  obtain ⟨hheld, hbus⟩ := (h.print c.answer).run c.cpu.step
  have ha : a.step = a.hold c.cpu.step := by rw [Altair.step, h.cpu]
  rw [ha, c.step_eq]
  obtain ⟨input, sent, hfirst, hsecond⟩ := hbus.console
  exact ⟨congrArg Prod.fst hheld, ⟨congrArg Prod.snd hheld, _, _, hbus⟩, sent,
    printed_of_buffered hfirst, printed_of_buffered hsecond⟩

theorem stepped (h : Twins a c) (n : Nat) :
    Twins (S100.stepped n a) (S100.stepped n c) := by
  induction n generalizing a c with
  | zero => exact h
  | succ n ih => exact ih h.step.2.1

/-- They are in the same state when they are made with the same parts. -/
theorem of_parts (cpu : Cpu) (memory : Memory) (wiring : Wiring)
    (buffers : Console.Buffered) (switches : UInt8)
    (disks : Floppy.Controller) (start : UInt16) :
    let bus : Backplane :=
      ⟨memory, wiring, .buffered buffers, switches, disks⟩
    Twins ⟨cpu, bus, start⟩ ⟨cpu, bus⟩ := by
  intro bus
  refine ⟨rfl, #[], #[], rfl, rfl, rfl, rfl, buffers.input, buffers.output,
    ?_, ?_⟩ <;> rw [Array.empty_append]

end Twins

/-- An Altair and a CP/M runner that start in the same state, with a pair of
buffers for their console, go on alike for any number of steps: each step is
reported and leaves processor, memory, ports, diskettes and what is typed in
the same way. Both print the same in it, but that the CP/M runner may print
something more before, if the processor stands at the entry of the operating
system, is not halted, and has 2 or 9 in C. -/
theorem system_calls_transparent (cpu : Cpu) (memory : Memory)
    (wiring : Wiring) (buffers : Console.Buffered) (switches : UInt8)
    (disks : Floppy.Controller) (start : UInt16) :
    let bus : Backplane :=
      ⟨memory, wiring, .buffered buffers, switches, disks⟩
    let altair (n : Nat) : Altair := stepped n ⟨cpu, bus, start⟩
    let cpm (n : Nat) : Cpm := stepped n ⟨cpu, bus⟩
    ∀ n, (Steppable.step (altair n)).1 = (Steppable.step (cpm n)).1
      ∧ Twins (altair n) (cpm n)
      ∧ (∃ sent,
        (altair (n + 1)).bus.printed = (altair n).bus.printed ++ sent
          ∧ (cpm (n + 1)).bus.printed =
            (cpm n).bus.printed ++ (cpm n).answer ++ sent)
      ∧ ((cpm n).answer ≠ #[] →
        (cpm n).cpu.halted = false ∧ (cpm n).cpu.regs.pc = 0x0005
          ∧ ((cpm n).cpu.regs.c = 2 ∨ (cpm n).cpu.regs.c = 9)) := by
  intro bus altair cpm n
  have hstart := Twins.of_parts cpu memory wiring buffers switches disks start
  obtain ⟨hresult, -, sent, ha, hc⟩ := (hstart.stepped n).step
  refine ⟨hresult, hstart.stepped n, ⟨sent, ?_, ?_⟩, Cpm.calls_of_answer⟩
  · simp only [altair, stepped_succ_last]
    exact ha
  · simp only [cpm, stepped_succ_last]
    exact hc

end S100
