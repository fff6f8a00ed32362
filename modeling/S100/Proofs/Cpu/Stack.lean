import S100.Proofs.Cpu.Plant

/-!
# The stack

The stack pointer and the bytes above it are meant to be a stack of words.
What that means is said with a list, its head the top of the stack:
`StackAction.play` is what pushes and pops make of one. The processor keeps
its words in memory, two bytes each, growing downwards and around the bottom
of the address space. As long as no more than 64K are asked for, and they are
populated, it does the same (`run_playStack`).

The relation between the two is `Cpu.Stacked`: as many bytes lie between the
stack pointer and the place where the stack began as the list has words for,
and they hold those words. A push and a pop each keep it (`Stacked.push`,
`Stacked.pop`). The bytes of a word that is pushed are new ones, since between
the stack pointer and the beginning there are fewer than 64K.
-/

namespace S100

/-! ## A stack of words -/

inductive StackAction where
  | push (value : UInt16)
  | pop
deriving DecidableEq, Repr

namespace StackAction

/-- The words that are popped from a stack by some actions, and the stack that
is left. There is no answer where a word is popped that was not there. -/
def play : List UInt16 → List StackAction → Option (List UInt16 × List UInt16)
  | stack, [] => some ([], stack)
  | stack, push value :: rest => play (value :: stack) rest
  | [], pop :: _ => none
  | value :: stack, pop :: rest =>
    (play stack rest).map fun (popped, left) => (value :: popped, left)

/-- The most words that there are at any time, counting from the given
height. -/
def depth : Nat → List StackAction → Nat
  | height, [] => height
  | height, push _ :: rest => depth (height + 1) rest
  | height, pop :: rest => max height (depth (height - 1) rest)

theorem le_depth (height : Nat) (actions : List StackAction) :
    height ≤ depth height actions := by
  cases actions with
  | nil => exact Nat.le_refl height
  | cons action rest =>
      cases action with
      | push value => exact Nat.le_of_succ_le (le_depth (height + 1) rest)
      | pop => exact Nat.le_max_left _ _

end StackAction

namespace Cpu

/-- Push words and pop them, and collect what is popped. -/
def playStack (cpu : Cpu) : List StackAction → Dialogue (List UInt16 × Cpu)
  | [] => return ([], cpu)
  | .push value :: rest => do
    let cpu ← cpu.pushWord value
    cpu.playStack rest
  | .pop :: rest => do
    let (value, cpu) ← cpu.popWord
    let (popped, cpu) ← cpu.playStack rest
    return (value :: popped, cpu)

end Cpu

/-! ## The bytes below an address -/

/-- The address is one of so many that come before `top`, counted downwards
and around the bottom of the address space. -/
def LiesBelow (top : UInt16) (count : Nat) (address : UInt16) : Prop :=
  (top - 1 - address).toNat < count

namespace LiesBelow

variable {top address : UInt16} {count : Nat}

instance : Decidable (LiesBelow top count address) :=
  inferInstanceAs (Decidable (_ < _))

theorem mono {more : Nat} (h : LiesBelow top count address)
    (hle : count ≤ more) : LiesBelow top more address :=
  Nat.lt_of_lt_of_le h hle

/-- Further down is the same counted from where one is. -/
theorem of_sub {offset : Nat}
    (h : LiesBelow (top - UInt16.ofNat offset) count address) :
    LiesBelow top (offset + count) address := by
  have hdistance : top - 1 - address =
      UInt16.ofNat offset + (top - UInt16.ofNat offset - 1 - address) := by
    grind
  have hoffset : (UInt16.ofNat offset).toNat ≤ offset :=
    Nat.le_trans (Nat.le_of_eq UInt16.toNat_ofNat') (Nat.mod_le _ _)
  have hsum := Nat.mod_le ((UInt16.ofNat offset).toNat +
    (top - UInt16.ofNat offset - 1 - address).toNat) (2 ^ 16)
  rw [LiesBelow] at h ⊢
  rw [hdistance, UInt16.toNat_add]
  omega

theorem sub_one : LiesBelow top 2 (top - 1) := by
  have hdistance : top - 1 - (top - 1) = 0 := by grind
  rw [LiesBelow, hdistance]
  decide

theorem sub_two : LiesBelow top 2 (top - 2) := by
  have hdistance : top - 1 - (top - 2) = 1 := by grind
  rw [LiesBelow, hdistance]
  decide

end LiesBelow

namespace Memory

variable {m : Memory} {sp value : UInt16}

def PopulatedBelow (m : Memory) (top : UInt16) (count : Nat) : Prop :=
  ∀ address, LiesBelow top count address → address.toNat < m.size

/-- The high byte goes first, so that the low byte is at the lower address. -/
def pushed (m : Memory) (sp value : UInt16) : Memory :=
  (m.write (sp - 1) (highByte value)).write (sp - 2) (lowByte value)

@[simp] theorem size_pushed : (m.pushed sp value).size = m.size := by
  simp only [pushed, size_write]

theorem read_pushed_of_ne {address : UInt16} (hhigh : address ≠ sp - 1)
    (hlow : address ≠ sp - 2) :
    (m.pushed sp value).read address = m.read address := by
  rw [pushed, read_write, if_neg fun h => hlow h.1.symm, read_write,
    if_neg fun h => hhigh h.1.symm]

theorem read_pushed_of_not_liesBelow {address : UInt16}
    (h : ¬ LiesBelow sp 2 address) :
    (m.pushed sp value).read address = m.read address := by
  refine read_pushed_of_ne ?_ ?_ <;> rintro rfl
  · exact h LiesBelow.sub_one
  · exact h LiesBelow.sub_two

theorem readWord_pushed (value : UInt16) (hpopulated : m.PopulatedBelow sp 2) :
    (m.pushed sp value).readWord (sp - 2) = value := by
  have hnext : sp - 2 + 1 = sp - 1 := by grind
  have hne : sp - 2 ≠ sp - 1 := by grind
  have hlowByte : (m.pushed sp value).read (sp - 2) = lowByte value := by
    have hlow := hpopulated _ .sub_two
    rw [← size_write m (sp - 1) (highByte value)] at hlow
    rw [pushed, read_write, if_pos ⟨rfl, hlow⟩]
  have hhighByte : (m.pushed sp value).read (sp - 1) = highByte value := by
    rw [pushed, read_write, if_neg fun h => hne h.1, read_write,
      if_pos ⟨rfl, hpopulated _ .sub_one⟩]
  rw [readWord, hnext, hlowByte, hhighByte, word_bytes]

/-- The words of a stack are in memory from an address on, the top first. -/
def Stacks (m : Memory) : UInt16 → List UInt16 → Prop
  | _, [] => True
  | sp, top :: rest => m.readWord sp = top ∧ m.Stacks (sp + 2) rest

namespace Stacks

variable {m' : Memory} {stack : List UInt16}

theorem congr (h : m.Stacks sp stack)
    (hsame : ∀ address, (address - sp).toNat < 2 * stack.length →
      m'.read address = m.read address) : m'.Stacks sp stack := by
  induction stack generalizing sp with
  | nil => trivial
  | cons top rest ih =>
      obtain ⟨htop, hrest⟩ := h
      rw [List.length_cons] at hsame
      have hlow : m'.read sp = m.read sp := by
        refine hsame sp ?_
        rw [UInt16.sub_self]
        exact Nat.succ_pos _
      have hhigh : m'.read (sp + 1) = m.read (sp + 1) := by
        refine hsame (sp + 1) ?_
        have hoffset : sp + 1 - sp = 1 := by grind
        rw [hoffset]
        exact Nat.le_add_left 2 (2 * rest.length)
      refine ⟨?_, ih hrest fun address haddress => hsame address ?_⟩
      · rw [readWord, hlow, hhigh]
        exact htop
      · have hoffset : address - sp = address - (sp + 2) + 2 := by grind
        have hbound : (address - sp).toNat ≤ (address - (sp + 2)).toNat + 2 := by
          rw [hoffset, UInt16.toNat_add]
          exact Nat.mod_le _ _
        omega

theorem push (h : m.Stacks sp stack)
    (hroom : stack.length < 32768) (hpopulated : m.PopulatedBelow sp 2) :
    (m.pushed sp value).Stacks (sp - 2) (value :: stack) := by
  have hback : sp - 2 + 2 = sp := by grind
  refine ⟨readWord_pushed value hpopulated, ?_⟩
  rw [hback]
  -- The two new bytes are the last that one comes to going up from `sp`.
  refine h.congr fun address haddress => read_pushed_of_ne ?_ ?_
  · rintro rfl
    have hoffset : sp - 1 - sp = 65535 := by grind
    rw [hoffset] at haddress
    have : (65535 : UInt16).toNat = 65535 := rfl
    omega
  · rintro rfl
    have hoffset : sp - 2 - sp = 65534 := by grind
    rw [hoffset] at haddress
    have : (65534 : UInt16).toNat = 65534 := rfl
    omega

end Stacks

end Memory

/-! ## Pushes and pops -/

/-- The processor's stack, begun at `top`, is the list. -/
structure Cpu.Stacked (top : UInt16) (stack : List UInt16) (cpu : Cpu)
    (m : Memory) : Prop where
  sp_eq : cpu.regs.sp = top - UInt16.ofNat (2 * stack.length)
  words : m.Stacks cpu.regs.sp stack

namespace Cpu

variable {top value : UInt16} {stack : List UInt16} {cpu : Cpu} {m : Memory}

namespace Stacked

/-- Where the next word is pushed. -/
theorem liesBelow (h : Stacked top stack cpu m) {address : UInt16}
    (haddress : LiesBelow cpu.regs.sp 2 address) :
    LiesBelow top (2 * (stack.length + 1)) address := by
  rw [h.sp_eq] at haddress
  exact haddress.of_sub

theorem push (h : Stacked top stack cpu m) (value : UInt16)
    (hroom : stack.length < 32768)
    (hpopulated : m.PopulatedBelow top (2 * (stack.length + 1)))
    (lights : Lights) :
    Stacked top (value :: stack)
      { cpu with regs.sp := cpu.regs.sp - 2, lights }
      (m.pushed cpu.regs.sp value) where
  sp_eq := by
    rw [List.length_cons, Nat.mul_succ, UInt16.ofNat_add, h.sp_eq]
    grind
  words := h.words.push hroom fun _ hnext => hpopulated _ (h.liesBelow hnext)

theorem pop (h : Stacked top (value :: stack) cpu m) (lights : Lights) :
    m.readWord cpu.regs.sp = value
      ∧ Stacked top stack
        { cpu with regs.sp := cpu.regs.sp + 2, lights } m := by
  refine ⟨h.words.1, ?_, h.words.2⟩
  have hsp := h.sp_eq
  rw [List.length_cons, Nat.mul_succ, UInt16.ofNat_add] at hsp
  dsimp only
  rw [hsp]
  grind

end Stacked

variable {π : Type} [PortDevice π]

theorem run_pushWord (cpu : Cpu) (plant : Plant π) (value : UInt16) :
    (cpu.pushWord value).run plant =
      ({ cpu with
          regs.sp := cpu.regs.sp - 2
          lights := ⟨cpu.regs.sp - 2, lowByte value⟩ },
        { plant with memory := plant.memory.pushed cpu.regs.sp value }) :=
  rfl

theorem run_popWord (cpu : Cpu) (plant : Plant π) :
    cpu.popWord.run plant =
      ((plant.memory.readWord cpu.regs.sp,
        { cpu with
          regs.sp := cpu.regs.sp + 2
          lights := ⟨cpu.regs.sp + 1,
            plant.memory.read (cpu.regs.sp + 1)⟩ }), plant) :=
  rfl

/-- What is played on a list is played in memory, where there is room for
it. -/
theorem run_playStack {actions : List StackAction} {popped left : List UInt16}
    (plant : Plant π) (hstacked : Stacked top stack cpu plant.memory)
    (hplay : StackAction.play stack actions = some (popped, left))
    {limit : Nat} (hdepth : StackAction.depth stack.length actions ≤ limit)
    (hlimit : limit ≤ 32768)
    (hpopulated : plant.memory.PopulatedBelow top (2 * limit)) :
    ∃ sp lights memory,
      let after := { cpu with regs.sp := sp, lights }
      (cpu.playStack actions).run plant =
          ((popped, after), { plant with memory })
        ∧ Stacked top left after memory
        ∧ memory.size = plant.memory.size
        ∧ ∀ address,
          ¬ LiesBelow top (2 * StackAction.depth stack.length actions) address →
            memory.read address = plant.memory.read address := by
  induction actions generalizing stack popped cpu plant with
  | nil =>
      obtain ⟨rfl, rfl⟩ := Prod.mk.inj (Option.some.inj hplay)
      exact ⟨cpu.regs.sp, cpu.lights, plant.memory, rfl, hstacked, rfl,
        fun _ _ => rfl⟩
  | cons action rest ih =>
      cases action with
      | push value =>
          have hheight : stack.length + 1 ≤ limit :=
            Nat.le_trans (StackAction.le_depth _ rest) hdepth
          have hpushed := hstacked.push value (by omega)
            (fun address h => hpopulated address (h.mono (by omega)))
            ⟨cpu.regs.sp - 2, lowByte value⟩
          obtain ⟨sp, lights, memory, hrun, hleft, hsize, hsame⟩ :=
            ih { plant with
              memory := plant.memory.pushed cpu.regs.sp value }
              hpushed hplay hdepth fun address h => by
                rw [Memory.size_pushed]
                exact hpopulated address h
          refine ⟨sp, lights, memory, ?_, hleft,
            hsize.trans Memory.size_pushed, fun address haddress => ?_⟩
          · rw [playStack, Dialogue.run_bind, run_pushWord]
            exact hrun
          · rw [hsame address haddress]
            refine Memory.read_pushed_of_not_liesBelow fun h => haddress ?_
            exact (hstacked.liesBelow h).mono
              (Nat.mul_le_mul_left 2 (StackAction.le_depth _ rest))
      | pop =>
          cases stack with
          | nil => cases hplay
          | cons value stack =>
              obtain ⟨⟨popped, left⟩, hrest, heq⟩ :=
                Option.map_eq_some_iff.mp hplay
              cases heq
              obtain ⟨hvalue, hpopped⟩ := hstacked.pop ⟨cpu.regs.sp + 1,
                plant.memory.read (cpu.regs.sp + 1)⟩
              have hle : StackAction.depth stack.length rest ≤
                  StackAction.depth (stack.length + 1) (.pop :: rest) :=
                Nat.le_max_right _ _
              obtain ⟨sp, lights, memory, hrun, hleft, hsize, hsame⟩ :=
                ih plant hpopped hrest (Nat.le_trans hle hdepth) hpopulated
              refine ⟨sp, lights, memory, ?_, hleft, hsize,
                fun address haddress => hsame address fun h =>
                  haddress (h.mono (Nat.mul_le_mul_left 2 hle))⟩
              rw [playStack, Dialogue.run_bind, run_popWord]
              dsimp only
              rw [Dialogue.run_bind, hrun, hvalue]
              rfl

/-- On an empty stack, and where everything that was pushed is popped
again. -/
theorem run_playStack_nil {actions : List StackAction} {popped : List UInt16}
    (cpu : Cpu) (plant : Plant π)
    (hplay : StackAction.play [] actions = some (popped, [])) {limit : Nat}
    (hdepth : StackAction.depth 0 actions ≤ limit) (hlimit : limit ≤ 32768)
    (hpopulated : plant.memory.PopulatedBelow cpu.regs.sp (2 * limit)) :
    ∃ lights memory,
      (cpu.playStack actions).run plant =
          ((popped, { cpu with lights }), { plant with memory })
        ∧ memory.size = plant.memory.size
        ∧ ∀ address,
          ¬ LiesBelow cpu.regs.sp (2 * StackAction.depth 0 actions) address →
            memory.read address = plant.memory.read address := by
  have hempty : Stacked cpu.regs.sp [] cpu plant.memory :=
    ⟨(UInt16.sub_zero _).symm, trivial⟩
  obtain ⟨sp, lights, memory, hrun, hleft, hsize, hsame⟩ :=
    run_playStack plant hempty hplay hdepth hlimit hpopulated
  have hsp : sp = cpu.regs.sp := hleft.sp_eq.trans (UInt16.sub_zero _)
  rw [hsp] at hrun
  exact ⟨lights, memory, hrun, hsize, hsame⟩

end Cpu

end S100
