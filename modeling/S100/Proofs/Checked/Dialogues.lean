import S100.Proofs.Checked.Numbers
import S100.Proofs.Cpu.Observables

/-!
# Dialogues that can trap

An instruction on a host is a conversation with the bus, with operations in
between that may trap: it is `Guarded`. It is `Safe` for a dialogue if it
makes the same cycles, whatever it is answered, and comes to the same result
instead of trapping. The parts of a safe guarded dialogue are shown to be safe
one after the other (`Safe.bind`), and an operation between them by the result
that it has (`Safe.ok`).
-/

namespace S100

/-- A dialogue that may trap on its way. -/
abbrev Guarded (α : Type) := ExceptT Trap Dialogue α

namespace Guarded

variable {α β : Type}

/-- An operation in between, which makes no cycle. -/
instance : MonadLift Checked (ExceptT Trap Dialogue) where
  monadLift x := ExceptT.mk (.done x)

/-- The guarded dialogue makes the cycles of the other one, whatever it is
answered, and comes to its result without a trap. -/
def Safe (g : Guarded α) (d : Dialogue α) : Prop :=
  Dialogue.Alike (fun x a => x = .ok a) g.run d

namespace Safe

variable {g : Guarded α} {d : Dialogue α} {f : α → Guarded β}
  {k : α → Dialogue β}

protected theorem pure (a : α) : Safe (pure a) (pure a) :=
  .done rfl

theorem bind (h : Safe g d) (hnext : ∀ a, Safe (f a) (k a)) :
    Safe (g >>= f) (d >>= k) := by
  refine Dialogue.Alike.bind h fun x a hx => ?_
  subst hx
  exact hnext a

/-- What is said without any operation in between cannot trap. -/
theorem lift (d : Dialogue α) : Safe (liftM d) d := by
  induction d with
  | done a => exact .done rfl
  | read address next ih => exact .read ih
  | write address data next ih => exact .write ih
  | input port next ih => exact .input ih
  | output port data next ih => exact .output ih

/-- An operation that has a result. -/
theorem ok {x : Checked α} {a : α} {e : Dialogue β} (hx : x = .ok a)
    (hnext : Safe (f a) e) : Safe (liftM x >>= f) e := by
  subst hx
  exact hnext

/-- An operation that has a result, at the end. -/
theorem value {x : Checked α} {a : α} (hx : x = .ok a) :
    Safe (liftM x) (pure a) := by
  subst hx
  exact .done rfl

theorem cond {p : Bool} {g' : Guarded α} {d' : Dialogue α} (h : Safe g d)
    (h' : Safe g' d') : Safe (if p then g else g') (if p then d else d') := by
  cases p with
  | true => exact h
  | false => exact h'

end Safe

end Guarded

end S100
