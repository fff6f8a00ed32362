import S100.Cpu.Step

/-!
# Running a machine

`run` steps a machine until its budget is spent, it halts, or it meets an
undefined opcode. `emulate` runs on: it goes past undefined opcodes, and
works in slices, between which a host can attend to other things.

A host that wants to do so calls `advance` itself, once for each slice;
`emulate` is what comes of calling it until the run has ended. With a limit
the last slice is cut down to what is left of it. Without one all slices are
whole, and there is no last one unless the machine halts; steps are counted in
a 64-bit word, and `emulate` goes on for as long as they can be.
-/

namespace S100

/-- A machine that executes one instruction at a time. -/
class Steppable (σ : Type) where
  /-- Execute one instruction. -/
  step : σ → StepResult × σ
  /-- The address of the next one. -/
  pc : σ → UInt16

/-- Why a run came back. -/
inductive Outcome where
  | budgetExhausted
  | halted
  | undefinedOpcode (opcode : UInt8) (address : UInt16)
deriving DecidableEq, Repr

/-- A run that came back: why, after how many steps, and with the machine
in which state. -/
structure Run (σ : Type) where
  outcome : Outcome
  steps : Nat
  machine : σ

/-- What a slice led to. -/
inductive Progress (σ : Type) where
  | ended (run : Run σ)
  | going (taken : Nat) (machine : σ)

section

variable {σ : Type} [Steppable σ]

/-- Run with a budget, when some steps have been taken already. -/
@[specialize] def runFrom (taken : Nat) : Nat → σ → Run σ
  | 0, m => ⟨.budgetExhausted, taken, m⟩
  | budget + 1, m =>
    let address := Steppable.pc m
    match Steppable.step m with
    | (.executed, m) => runFrom (taken + 1) budget m
    | (.halted, m) => ⟨.halted, taken + 1, m⟩
    | (.undefinedOpcode opcode, m) =>
      ⟨.undefinedOpcode opcode address, taken + 1, m⟩

/-- Step until the budget is spent, the machine halts, or an undefined
opcode is met. -/
def run (budget : Nat) (m : σ) : Run σ :=
  runFrom 0 budget m

theorem lt_steps_runFrom (taken budget : Nat) (m : σ) (h : 0 < budget) :
    taken < (runFrom taken budget m).steps := by
  induction budget generalizing taken m with
  | zero => omega
  | succ budget ih =>
    rw [runFrom]
    split
    · rename_i m' _
      by_cases hb : 0 < budget
      · exact Nat.lt_trans (Nat.lt_succ_self taken) (ih (taken + 1) m' hb)
      · obtain rfl : budget = 0 := by omega
        exact Nat.lt_succ_self taken
    · exact Nat.lt_succ_self taken
    · exact Nat.lt_succ_self taken

theorem steps_run_pos (budget : Nat) (m : σ) (h : 0 < budget) :
    0 < (run budget m).steps :=
  lt_steps_runFrom 0 budget m h

/-! ## Slices -/

/-- Instructions per slice. -/
def sliceSize : Nat := 10000

/-- How many steps the next slice may take, when some have been taken already.
There is no next slice where a limit has been reached; without a limit, every
slice is a whole one. -/
def sliceBudget? (limit : Option Nat) (taken : Nat) : Option Nat :=
  match limit with
  | none => some sliceSize
  | some limit =>
    if taken < limit then some (min (limit - taken) sliceSize) else none

theorem sliceBudget?_pos {limit : Option Nat} {taken budget : Nat}
    (h : sliceBudget? limit taken = some budget) : 0 < budget := by
  unfold sliceBudget? sliceSize at h
  grind

/-- Run the next slice. -/
@[specialize] def advance (limit : Option Nat) (taken : Nat) (m : σ) :
    Progress σ :=
  match sliceBudget? limit taken with
  | none => .ended ⟨.budgetExhausted, taken, m⟩
  | some budget =>
    let r := run budget m
    match r.outcome with
    | .halted => .ended { r with steps := taken + r.steps }
    | _ => .going (taken + r.steps) r.machine

theorem lt_of_advance_going {limit : Option Nat} {taken taken' : Nat}
    {m m' : σ} (h : advance limit taken m = .going taken' m') :
    taken < taken' := by
  unfold advance at h
  split at h
  · cases h
  · rename_i budget hbudget
    have hpos := steps_run_pos budget m (sliceBudget?_pos hbudget)
    dsimp only at h
    split at h
    · cases h
    · injection h with h _
      omega

/-- Run slice after slice. A run without a limit is followed as far as its
steps can be counted. -/
@[specialize] def emulateFrom (limit : Option Nat) (taken : Nat) (m : σ) :
    Run σ :=
  match _h : advance limit taken m with
  | .ended r => r
  | .going taken' m' =>
    if _ : taken' < limit.getD UInt64.size then emulateFrom limit taken' m'
    else ⟨.budgetExhausted, taken', m'⟩
termination_by limit.getD UInt64.size - taken
decreasing_by
  have := lt_of_advance_going _h
  omega

/-- Run until the machine halts or has taken as many steps as the limit
says, going past undefined opcodes. -/
def emulate (limit : Option Nat) (m : σ) : Run σ :=
  emulateFrom limit 0 m

end

end S100
