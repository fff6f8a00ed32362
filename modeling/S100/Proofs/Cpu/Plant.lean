import S100.Backplane
import S100.Cpu.Step

/-!
# A processor's plant

What the processor can be told apart by is memory and ports. A `Plant` has
a memory of any populated size, and ports that behave in any way whatever:
a port device is a state machine of its own, and what it answers may
depend on all that was taken from it and sent to it before. What is sent
is also recorded.

A statement about every plant is one about every machine whose ports leave
its memory alone. The backplane is such a machine: `run_backplane` says
that a dialogue goes there as it goes on the plant that has the
backplane's memory and ports.
-/

namespace S100

/-- How ports behave: what is got from each of them, and what becomes of
them when they are read or written. -/
class PortDevice (π : Type) where
  input : π → UInt8 → UInt8 × π
  output : π → UInt8 → UInt8 → π

structure Plant (π : Type) where
  memory : Memory
  ports : π
  /-- The port numbers and bytes of all outputs, oldest first. -/
  sent : List (UInt8 × UInt8) := []

namespace Plant

variable {π : Type} [PortDevice π]

instance : Bus (Plant π) where
  read p address := (p.memory.read address, p)
  write p address data := { p with memory := p.memory.write address data }
  input p port :=
    let (data, ports) := PortDevice.input p.ports port
    (data, { p with ports })
  output p port data :=
    { p with
      ports := PortDevice.output p.ports port data
      sent := p.sent ++ [(port, data)] }

/-- What is recorded of a dialogue is its output cycles. -/
theorem sent_run {α : Type} (d : Dialogue α) (plant : Plant π) :
    (d.run plant).2.sent =
      plant.sent ++ (d.cycles plant).filterMap fun
        | .output port data => some (port, data)
        | _ => none := by
  induction d generalizing plant with
  | done a => exact (List.append_nil _).symm
  | read address next ih => exact ih _ plant
  | write address data next ih => exact ih _
  | input port next ih => exact ih _ _
  | output port data next ih =>
      refine (ih _).trans ?_
      exact List.append_assoc plant.sent [(port, data)] _

end Plant

instance : PortDevice Ports where
  input := Ports.input
  output := Ports.output

/-- The plant of a backplane, when some bytes have been sent already. -/
def Backplane.plant (bus : Backplane) (sent : List (UInt8 × UInt8)) :
    Plant Ports where
  memory := bus.memory
  ports := bus.ports
  sent := sent

theorem run_backplane {α : Type} (d : Dialogue α) (bus : Backplane)
    (sent : List (UInt8 × UInt8)) :
    (d.run bus).1 = (d.run (bus.plant sent)).1
      ∧ ∃ sent', (d.run (bus.plant sent)).2 = (d.run bus).2.plant sent' := by
  refine Dialogue.run_simulation
    (R := fun (bus : Backplane) plant => ∃ sent, plant = bus.plant sent)
    ?_ ?_ ?_ ?_ d bus _ ⟨sent, rfl⟩
  · rintro bus _ address ⟨sent, rfl⟩
    exact ⟨rfl, sent, rfl⟩
  · rintro bus _ address data ⟨sent, rfl⟩
    exact ⟨sent, rfl⟩
  · rintro bus _ port ⟨sent, rfl⟩
    exact ⟨rfl, sent, rfl⟩
  · rintro bus _ port data ⟨sent, rfl⟩
    exact ⟨sent ++ [(port, data)], rfl⟩

end S100
