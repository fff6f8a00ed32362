import Mathlib.Logic.Function.Iterate
import S100.Run

/-!
# Slices cannot be seen

A host that emulates a machine does not step it: it runs it slice by slice,
and each slice is a loop of its own, which also comes back at undefined
opcodes. Here is the loop that all of this stands for. `stepwise` steps a
machine until it halts or its steps are used up, and takes no notice of
undefined opcodes.

A slice is a part of that loop: where it halts the loop has ended there as
well, and otherwise the loop goes on from where the slice came back
(`stepwiseFrom_runFrom`). So slicing changes nothing, neither where the last
slice is cut down to what is left of a limit (`emulateFrom_some`) nor where
there is no limit and all slices are whole (`emulateFrom_none`). What the loop
comes to is then said without a loop, by the first of the steps that reports a
halt (`HaltsAt`).
-/

namespace S100

section

variable {σ : Type} [Steppable σ] {m : σ} {taken left k n : Nat}

/-! ## Steps by number -/

/-- The machine after some steps. -/
def stepped (n : Nat) (m : σ) : σ :=
  (fun m => (Steppable.step m).2)^[n] m

/-- What is reported of the step that follows the first `n`. -/
def reportAfter (n : Nat) (m : σ) : StepResult :=
  (Steppable.step (stepped n m)).1

@[simp] theorem stepped_zero (m : σ) : stepped 0 m = m := rfl

theorem stepped_succ_last (n : Nat) (m : σ) :
    stepped (n + 1) m = (Steppable.step (stepped n m)).2 :=
  Function.iterate_succ_apply' _ n m

theorem reportAfter_succ (n : Nat) (m : σ) :
    reportAfter (n + 1) m = reportAfter n (Steppable.step m).2 := rfl

/-- Step `k`, counted from one, is the first that reports a halt. -/
structure HaltsAt (m : σ) (k : Nat) : Prop where
  pos : 0 < k
  halts : reportAfter (k - 1) m = .halted
  first : ∀ j < k - 1, reportAfter j m ≠ .halted

/-- A halt at a later step is one of the machine that has taken a step. -/
theorem HaltsAt.tail (h : HaltsAt m (k + 1)) (hk : 0 < k) :
    (Steppable.step m).1 ≠ .halted ∧ HaltsAt (Steppable.step m).2 k := by
  refine ⟨h.first 0 hk, hk, ?_, fun j hj => ?_⟩
  · have hhalts := h.halts
    rwa [Nat.add_sub_cancel, ← Nat.sub_add_cancel hk, reportAfter_succ]
      at hhalts
  · rw [← reportAfter_succ]
    exact h.first (j + 1) (by omega)

/-! ## Step by step -/

/-- Step by step to a halt, or until no more steps are left, when some have
been taken already. -/
def stepwiseFrom (taken : Nat) : Nat → σ → Run σ
  | 0, m => ⟨.budgetExhausted, taken, m⟩
  | left + 1, m =>
    let (result, m) := Steppable.step m
    if result = .halted then ⟨.halted, taken + 1, m⟩
    else stepwiseFrom (taken + 1) left m

def stepwise (max : Nat) (m : σ) : Run σ :=
  stepwiseFrom 0 max m

theorem stepwiseFrom_of_halted (h : (Steppable.step m).1 = .halted) :
    stepwiseFrom taken (left + 1) m =
      ⟨.halted, taken + 1, (Steppable.step m).2⟩ := by
  simp only [stepwiseFrom, h, if_true]

theorem stepwiseFrom_of_not_halted (h : (Steppable.step m).1 ≠ .halted) :
    stepwiseFrom taken (left + 1) m =
      stepwiseFrom (taken + 1) left (Steppable.step m).2 := by
  simp only [stepwiseFrom, h, if_false]

/-- Where enough steps are left, the loop ends with the first halt. -/
theorem stepwiseFrom_of_haltsAt (h : HaltsAt m k) (hk : k ≤ left) :
    stepwiseFrom taken left m = ⟨.halted, taken + k, stepped k m⟩ := by
  induction left generalizing taken m k with
  | zero =>
      have hpos := h.pos
      omega
  | succ left ih =>
      obtain ⟨k, rfl⟩ := Nat.exists_eq_succ_of_ne_zero (Nat.ne_of_gt h.pos)
      by_cases hfirst : k = 0
      · subst hfirst
        exact stepwiseFrom_of_halted h.halts
      · obtain ⟨hgoing, htail⟩ := h.tail (Nat.pos_of_ne_zero hfirst)
        rw [stepwiseFrom_of_not_halted hgoing, ih htail (by omega),
          Nat.add_assoc, Nat.add_comm 1]
        rfl

/-- Where no step that is left halts, the loop takes all of them. -/
theorem stepwiseFrom_of_going (h : ∀ j < left, reportAfter j m ≠ .halted) :
    stepwiseFrom taken left m =
      ⟨.budgetExhausted, taken + left, stepped left m⟩ := by
  induction left generalizing taken m with
  | zero => rfl
  | succ left ih =>
      have hgoing : (Steppable.step m).1 ≠ .halted := h 0 (by omega)
      have htail : ∀ j < left,
          reportAfter j (Steppable.step m).2 ≠ .halted :=
        fun j hj => h (j + 1) (by omega)
      rw [stepwiseFrom_of_not_halted hgoing, ih htail, Nat.add_assoc,
        Nat.add_comm 1]
      rfl

theorem le_steps_stepwiseFrom (taken left : Nat) (m : σ) :
    taken ≤ (stepwiseFrom taken left m).steps := by
  induction left generalizing taken m with
  | zero => exact Nat.le_refl taken
  | succ left ih =>
      rw [stepwiseFrom]
      dsimp only
      split
      · exact Nat.le_succ taken
      · exact Nat.le_of_succ_le (ih (taken + 1) _)

/-- A loop that ends with a halt does so with any more steps left as well. -/
theorem stepwiseFrom_more (more : Nat)
    (h : (stepwiseFrom taken left m).outcome = .halted) :
    stepwiseFrom taken (left + more) m = stepwiseFrom taken left m := by
  induction left generalizing taken m with
  | zero => cases h
  | succ left ih =>
      rw [Nat.add_right_comm]
      by_cases hhalted : (Steppable.step m).1 = .halted
      · rw [stepwiseFrom_of_halted hhalted, stepwiseFrom_of_halted hhalted]
      · rw [stepwiseFrom_of_not_halted hhalted] at h ⊢
        rw [stepwiseFrom_of_not_halted hhalted]
        exact ih h

/-! ## A slice of the loop -/

/-- Steps that were taken before only add to the count. -/
theorem runFrom_eq (taken budget : Nat) (m : σ) :
    runFrom taken budget m =
      { run budget m with steps := taken + (run budget m).steps } := by
  suffices hshift : ∀ before, runFrom (taken + before) budget m =
      { runFrom before budget m with
        steps := taken + (runFrom before budget m).steps } from hshift 0
  induction budget generalizing m with
  | zero => exact fun before => rfl
  | succ budget ih =>
      intro before
      simp only [runFrom]
      split
      · rename_i m' _
        rw [Nat.add_assoc]
        exact ih m' (before + 1)
      · rfl
      · rfl

theorem steps_runFrom_le (taken budget : Nat) (m : σ) :
    (runFrom taken budget m).steps ≤ taken + budget := by
  induction budget generalizing taken m with
  | zero => exact Nat.le_refl taken
  | succ budget ih =>
      rw [runFrom]
      split
      · rename_i m' _
        have hle := ih (taken + 1) m'
        omega
      · show taken + 1 ≤ taken + (budget + 1)
        omega
      · show taken + 1 ≤ taken + (budget + 1)
        omega

/-- A slice that is within the loop is a part of it. -/
theorem stepwiseFrom_runFrom (hn : n ≤ left) :
    stepwiseFrom taken left m =
      let r := runFrom taken n m
      if r.outcome = .halted then r
      else stepwiseFrom r.steps (taken + left - r.steps) r.machine := by
  induction n generalizing taken left m with
  | zero =>
      show _ = stepwiseFrom taken (taken + left - taken) m
      rw [Nat.add_sub_cancel_left]
  | succ n ih =>
      obtain ⟨left, rfl⟩ := Nat.exists_eq_add_of_le' (Nat.one_le_of_lt hn)
      rcases hstep : Steppable.step m with ⟨result, m'⟩
      cases result with
      | executed =>
          have hgoing : (Steppable.step m).1 ≠ .halted := by
            simp [hstep]
          simp only [runFrom, hstep]
          rw [stepwiseFrom_of_not_halted hgoing, hstep, ih (by omega),
            Nat.add_assoc, Nat.add_comm 1]
      | halted =>
          have hhalted : (Steppable.step m).1 = .halted := by rw [hstep]
          simp only [runFrom, hstep, if_true]
          rw [stepwiseFrom_of_halted hhalted, hstep]
      | undefinedOpcode opcode =>
          have hgoing : (Steppable.step m).1 ≠ .halted := by
            simp [hstep]
          have hleft : taken + (left + 1) - (taken + 1) = left := by omega
          simp only [runFrom, hstep, reduceCtorEq, if_false, hleft]
          rw [stepwiseFrom_of_not_halted hgoing, hstep]

/-! ## All slices -/

/-- What the next slice comes to. -/
theorem advance_of_budget {limit : Option Nat} {budget : Nat}
    (h : sliceBudget? limit taken = some budget) :
    advance limit taken m =
      let r := runFrom taken budget m
      if r.outcome = .halted then .ended r else .going r.steps r.machine := by
  rw [advance, h, runFrom_eq]
  dsimp only
  cases houtcome : (run budget m).outcome with
  | halted => rw [if_pos rfl]
  | budgetExhausted => rw [if_neg (by nofun)]
  | undefinedOpcode opcode address => rw [if_neg (by nofun)]

/-- A slice ends the run if it halts, or if it leaves no steps, and otherwise
the next one goes on from it. -/
theorem emulateFrom_of_budget {limit : Option Nat} {budget : Nat}
    (h : sliceBudget? limit taken = some budget) :
    emulateFrom limit taken m =
      let r := runFrom taken budget m
      if r.outcome = .halted then r
      else if r.steps < limit.getD UInt64.size then
        emulateFrom limit r.steps r.machine
      else ⟨.budgetExhausted, r.steps, r.machine⟩ := by
  have hslice := advance_of_budget (m := m) h
  rw [emulateFrom]
  dsimp only at hslice ⊢
  split
  · rename_i r hended
    rw [hslice] at hended
    split at hended
    · rename_i hhalted
      rw [if_pos hhalted]
      exact (Progress.ended.inj hended).symm
    · cases hended
  · rename_i taken' m' hgoing
    rw [hslice] at hgoing
    split at hgoing
    · cases hgoing
    · rename_i hgoes
      obtain ⟨rfl, rfl⟩ := Progress.going.inj hgoing
      rw [if_neg hgoes]
      rfl

theorem emulateFrom_of_no_budget {limit : Option Nat}
    (h : sliceBudget? limit taken = none) :
    emulateFrom limit taken m = ⟨.budgetExhausted, taken, m⟩ := by
  have hended :
      advance limit taken m = .ended ⟨.budgetExhausted, taken, m⟩ := by
    rw [advance, h]
  rw [emulateFrom]
  split
  · rename_i r hr
    exact Progress.ended.inj (hr.symm.trans hended)
  · rename_i hgoing
    cases hgoing.symm.trans hended

/-- With a limit, slice after slice is step after step up to it. -/
theorem emulateFrom_some {limit : Nat} (h : taken ≤ limit) :
    emulateFrom (some limit) taken m =
      stepwiseFrom taken (limit - taken) m := by
  induction hleft : limit - taken using Nat.strongRecOn
    generalizing taken m with
  | _ left ih =>
      subst hleft
      by_cases hlt : taken < limit
      · have hbudget : sliceBudget? (some limit) taken = _ := if_pos hlt
        have hle := steps_runFrom_le taken (min (limit - taken) sliceSize) m
        have hpos := lt_steps_runFrom taken _ m (sliceBudget?_pos hbudget)
        rw [emulateFrom_of_budget hbudget,
          stepwiseFrom_runFrom (Nat.min_le_left (limit - taken) sliceSize)]
        dsimp only [Option.getD_some]
        generalize runFrom taken (min (limit - taken) sliceSize) m = r at *
        rw [Nat.add_sub_cancel' h]
        split
        · rfl
        · split
          · exact ih _ (by omega) (by omega) rfl
          · rw [show limit - r.steps = 0 by omega]
            rfl
      · have hreached : sliceBudget? (some limit) taken = none := if_neg hlt
        rw [emulateFrom_of_no_budget hreached, show limit - taken = 0 by omega]
        rfl

/-- Without a limit, slice after slice is step after step to a halt that the
count can tell. -/
theorem emulateFrom_none
    (hhalts : (stepwiseFrom taken left m).outcome = .halted)
    (hcount : (stepwiseFrom taken left m).steps < UInt64.size) :
    emulateFrom none taken m = stepwiseFrom taken left m := by
  induction hroom : UInt64.size - taken using Nat.strongRecOn
    generalizing taken left m with
  | _ room ih =>
      subst hroom
      -- a whole slice is within the loop if the loop may go on behind its halt
      have hmore := stepwiseFrom_more sliceSize hhalts
      rw [← hmore] at hhalts hcount ⊢
      have hpos := lt_steps_runFrom taken sliceSize m (by decide)
      rw [stepwiseFrom_runFrom (Nat.le_add_left sliceSize left)]
        at hhalts hcount ⊢
      rw [emulateFrom_of_budget rfl]
      dsimp only at *
      generalize runFrom taken sliceSize m = r at *
      split
      · rfl
      · rename_i hgoes
        rw [if_neg hgoes] at hhalts hcount
        have hle := le_steps_stepwiseFrom r.steps
          (taken + (left + sliceSize) - r.steps) r.machine
        rw [Option.getD_none, if_pos (Nat.lt_of_le_of_lt hle hcount)]
        exact ih _ (by omega) hhalts hcount rfl

/-- Emulating a machine with a limit is stepping it, and comes to an end
whatever the machine does. If step `k` is the first to report a halt, the
smaller of `k` and the limit is the number of steps taken, and the halt is
reported if it lies within the limit, also as the last step of it. If none
within the limit does, the limit is used up. Without a limit the machine
runs to its first halt, as long as steps can be counted. -/
theorem emulate_eq_stepwise (m : σ) :
    (∀ max, emulate (some max) m = stepwise max m)
      ∧ (∀ max k, HaltsAt m k → emulate (some max) m =
          ⟨if k ≤ max then .halted else .budgetExhausted, min max k,
            stepped (min max k) m⟩)
      ∧ (∀ max, (∀ j < max, reportAfter j m ≠ .halted) →
          emulate (some max) m = ⟨.budgetExhausted, max, stepped max m⟩)
      ∧ (∀ k, HaltsAt m k → k < UInt64.size →
          emulate none m = ⟨.halted, k, stepped k m⟩) := by
  have hloop : ∀ max, emulate (some max) m = stepwise max m :=
    fun max => emulateFrom_some (Nat.zero_le max)
  have hhalts : ∀ {max k}, HaltsAt m k → k ≤ max →
      stepwise max m = ⟨.halted, k, stepped k m⟩ := by
    intro max k h hk
    rw [stepwise, stepwiseFrom_of_haltsAt h hk, Nat.zero_add]
  have hgoes : ∀ {max}, (∀ j < max, reportAfter j m ≠ .halted) →
      stepwise max m = ⟨.budgetExhausted, max, stepped max m⟩ := by
    intro max h
    rw [stepwise, stepwiseFrom_of_going h, Nat.zero_add]
  refine ⟨hloop, fun max k h => ?_, fun max h => ?_, fun k h hk => ?_⟩
  · rw [hloop]
    by_cases hk : k ≤ max
    · rw [if_pos hk, Nat.min_eq_right hk, hhalts h hk]
    · rw [if_neg hk, Nat.min_eq_left (by omega)]
      exact hgoes fun j hj => h.first j (by omega)
  · rw [hloop, hgoes h]
  · have hend : stepwiseFrom 0 k m = ⟨.halted, k, stepped k m⟩ :=
      hhalts h (Nat.le_refl k)
    exact (emulateFrom_none (by rw [hend]) (by rwa [hend])).trans hend

end

end S100
