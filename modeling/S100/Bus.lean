/-!
# The system bus

The processor meets the rest of the machine in four kinds of *cycle*: it
reads or writes a memory address, or it takes a byte from or gives a byte
to a port. A `Bus` says what a system makes of each.

What an instruction does on the bus depends on what it reads there, so it
is a conversation: `Dialogue` is a tree of cycles in which each answer
chooses how to go on, and whose leaves hold the result. A dialogue knows
nothing of the system it will be held with:

- `Dialogue.run` holds it with a bus;
- `Dialogue.cycles` lists the cycles it makes there, in order.

Since every instruction is a dialogue, what is true of all dialogues is
true of the processor on every system. `run_induction` carries an
invariant of the four cycles through a dialogue, and `run_simulation`
carries a relation between two systems that answer alike.
-/

namespace S100

/-- What a system in a state of `σ` answers to each cycle, and the state
it is left in. -/
class Bus (σ : Type) where
  read : σ → UInt16 → UInt8 × σ
  write : σ → UInt16 → UInt8 → σ
  input : σ → UInt8 → UInt8 × σ
  output : σ → UInt8 → UInt8 → σ

/-- One completed cycle. -/
inductive Cycle where
  | read (address : UInt16) (data : UInt8)
  | write (address : UInt16) (data : UInt8)
  | input (port : UInt8) (data : UInt8)
  | output (port : UInt8) (data : UInt8)
deriving DecidableEq, Repr

inductive Dialogue (α : Type) where
  | done (result : α)
  | read (address : UInt16) (next : UInt8 → Dialogue α)
  | write (address : UInt16) (data : UInt8) (next : Dialogue α)
  | input (port : UInt8) (next : UInt8 → Dialogue α)
  | output (port : UInt8) (data : UInt8) (next : Dialogue α)

namespace Dialogue

variable {α β γ : Type}

/-- Go on from each result with another dialogue. -/
def andThen : Dialogue α → (α → Dialogue β) → Dialogue β
  | done a, f => f a
  | read address next, f => read address fun data => (next data).andThen f
  | write address data next, f => write address data (next.andThen f)
  | input port next, f => input port fun data => (next data).andThen f
  | output port data next, f => output port data (next.andThen f)

instance : Monad Dialogue where
  pure := done
  bind := andThen

@[simp] theorem pure_eq (a : α) : (pure a : Dialogue α) = done a := rfl

@[simp] theorem done_bind (a : α) (f : α → Dialogue β) :
    done a >>= f = f a := rfl

@[simp] theorem read_bind (address : UInt16) (next : UInt8 → Dialogue α)
    (f : α → Dialogue β) :
    read address next >>= f = read address fun data => next data >>= f := rfl

@[simp] theorem write_bind (address : UInt16) (data : UInt8)
    (next : Dialogue α) (f : α → Dialogue β) :
    write address data next >>= f = write address data (next >>= f) := rfl

@[simp] theorem input_bind (port : UInt8) (next : UInt8 → Dialogue α)
    (f : α → Dialogue β) :
    input port next >>= f = input port fun data => next data >>= f := rfl

@[simp] theorem output_bind (port data : UInt8) (next : Dialogue α)
    (f : α → Dialogue β) :
    output port data next >>= f = output port data (next >>= f) := rfl

/-! ## Holding a dialogue -/

section

variable {σ : Type} [Bus σ]

/-- Hold a dialogue with a bus: its result, and the state it leaves the
bus in. -/
@[specialize] def run : Dialogue α → σ → α × σ
  | done a, bus => (a, bus)
  | read address next, bus =>
    match Bus.read bus address with
    | (data, bus) => (next data).run bus
  | write address data next, bus => next.run (Bus.write bus address data)
  | input port next, bus =>
    match Bus.input bus port with
    | (data, bus) => (next data).run bus
  | output port data next, bus => next.run (Bus.output bus port data)

/-- The cycles that a dialogue makes when it is held with a bus. -/
def cycles : Dialogue α → σ → List Cycle
  | done _, _ => []
  | read address next, bus =>
    match Bus.read bus address with
    | (data, bus) => .read address data :: (next data).cycles bus
  | write address data next, bus =>
    .write address data :: next.cycles (Bus.write bus address data)
  | input port next, bus =>
    match Bus.input bus port with
    | (data, bus) => .input port data :: (next data).cycles bus
  | output port data next, bus =>
    .output port data :: next.cycles (Bus.output bus port data)

theorem run_bind (d : Dialogue α) (f : α → Dialogue β) (bus : σ) :
    (d >>= f).run bus = (f (d.run bus).1).run (d.run bus).2 := by
  induction d generalizing bus with
  | done a => rfl
  | read address next ih => exact ih _ _
  | write address data next ih => exact ih _
  | input port next ih => exact ih _ _
  | output port data next ih => exact ih _

theorem cycles_bind (d : Dialogue α) (f : α → Dialogue β) (bus : σ) :
    (d >>= f).cycles bus =
      d.cycles bus ++ (f (d.run bus).1).cycles (d.run bus).2 := by
  induction d generalizing bus with
  | done a => rfl
  | read address next ih => exact congrArg (_ :: ·) (ih _ _)
  | write address data next ih => exact congrArg (_ :: ·) (ih _)
  | input port next ih => exact congrArg (_ :: ·) (ih _ _)
  | output port data next ih => exact congrArg (_ :: ·) (ih _)

/-- What every cycle keeps, every dialogue keeps. -/
theorem run_induction {P : σ → Prop}
    (hread : ∀ bus address, P bus → P (Bus.read bus address).2)
    (hwrite : ∀ bus address data, P bus → P (Bus.write bus address data))
    (hinput : ∀ bus port, P bus → P (Bus.input bus port).2)
    (houtput : ∀ bus port data, P bus → P (Bus.output bus port data))
    (d : Dialogue α) (bus : σ) (h : P bus) : P (d.run bus).2 := by
  induction d generalizing bus with
  | done a => exact h
  | read address next ih => exact ih _ _ (hread bus address h)
  | write address data next ih => exact ih _ (hwrite bus address data h)
  | input port next ih => exact ih _ _ (hinput bus port h)
  | output port data next ih => exact ih _ (houtput bus port data h)

end

/-- Two systems that answer alike, and stay related, cannot be told apart
by a dialogue. -/
theorem run_simulation {σ τ : Type} [Bus σ] [Bus τ] {R : σ → τ → Prop}
    (hread : ∀ s t address, R s t →
      (Bus.read s address).1 = (Bus.read t address).1
        ∧ R (Bus.read s address).2 (Bus.read t address).2)
    (hwrite : ∀ s t address data, R s t →
      R (Bus.write s address data) (Bus.write t address data))
    (hinput : ∀ s t port, R s t →
      (Bus.input s port).1 = (Bus.input t port).1
        ∧ R (Bus.input s port).2 (Bus.input t port).2)
    (houtput : ∀ s t port data, R s t →
      R (Bus.output s port data) (Bus.output t port data))
    (d : Dialogue α) (s : σ) (t : τ) (h : R s t) :
    (d.run s).1 = (d.run t).1 ∧ R (d.run s).2 (d.run t).2 := by
  induction d generalizing s t with
  | done a => exact ⟨rfl, h⟩
  | read address next ih =>
    obtain ⟨hd, hr⟩ := hread s t address h
    simp only [run, hd]
    exact ih _ _ _ hr
  | write address data next ih => exact ih _ _ (hwrite s t address data h)
  | input port next ih =>
    obtain ⟨hd, hr⟩ := hinput s t port h
    simp only [run, hd]
    exact ih _ _ _ hr
  | output port data next ih => exact ih _ _ (houtput s t port data h)

end Dialogue

end S100
