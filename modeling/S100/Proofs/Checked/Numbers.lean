import Mathlib.Algebra.Group.Nat.Defs
import S100.Word

/-!
# Operations that can trap

The machines compute with natural numbers, and with types that have no wrong
values. An operation of theirs always has a result. Host integers have a
width, host arrays have an end, and a number that stands for a register or a
condition may stand for none. There an operation can go wrong, and then it
*traps*: the emulation is over.

These are the host's operations, on natural numbers with the width spelled
out. A sum or a product has to fit into its width, a difference must not be
below zero, a shift must be by less than the width, and an index or a range
has to lie in its array. What a shift pushes out at the top is lost without a
trap. Each operation comes with the condition under which it does not trap,
and what it is then equal to.
-/

namespace S100

/-- What stops an emulation. -/
inductive Trap where
  /-- A number was looked up that stands for nothing. -/
  | unreachable
  /-- An index or a range does not lie in its array. -/
  | outOfBounds
  /-- A result does not fit into its width. -/
  | overflow
deriving DecidableEq, Repr

/-- The result of a computation that may trap. -/
abbrev Checked (α : Type) := Except Trap α

namespace Checked

variable {α β : Type}

@[simp] theorem ok_bind (a : α) (f : α → Checked β) :
    (Except.ok a : Checked α) >>= f = f a := rfl

/-! ## Numbers -/

/-- The width of sizes, offsets and indices. -/
def sizeBits : Nat := 64

def add (bits a b : Nat) : Checked Nat :=
  if a + b < 2 ^ bits then .ok (a + b) else .error .overflow

def sub (a b : Nat) : Checked Nat :=
  if b ≤ a then .ok (a - b) else .error .overflow

def mul (bits a b : Nat) : Checked Nat :=
  if a * b < 2 ^ bits then .ok (a * b) else .error .overflow

def shiftLeft (bits a amount : Nat) : Checked Nat :=
  if amount < bits then .ok ((a <<< amount) % 2 ^ bits) else .error .overflow

def shiftRight (bits a amount : Nat) : Checked Nat :=
  if amount < bits then .ok (a >>> amount) else .error .overflow

variable {bits a b amount : Nat}

theorem add_eq (h : a + b < 2 ^ bits) : add bits a b = .ok (a + b) :=
  if_pos h

theorem sub_eq (h : b ≤ a) : sub a b = .ok (a - b) :=
  if_pos h

theorem mul_eq (h : a * b < 2 ^ bits) : mul bits a b = .ok (a * b) :=
  if_pos h

theorem shiftLeft_eq (h : amount < bits) :
    shiftLeft bits a amount = .ok (a * 2 ^ amount % 2 ^ bits) := by
  rw [shiftLeft, if_pos h, Nat.shiftLeft_eq]

theorem shiftRight_eq (h : amount < bits) :
    shiftRight bits a amount = .ok (a / 2 ^ amount) := by
  rw [shiftRight, if_pos h, Nat.shiftRight_eq_div_pow]

/-! ## Bytes and words -/

/-- A word, its high byte shifted into place. -/
def word (high low : UInt8) : Checked UInt16 := do
  let shifted ← shiftLeft 16 high.toNat 8
  return UInt16.ofNat (shifted ||| low.toNat)

def highByte (w : UInt16) : Checked UInt8 := do
  let shifted ← shiftRight 16 w.toNat 8
  return UInt8.ofNat shifted

/-- A word with another high byte. -/
def withHigh (w : UInt16) (value : UInt8) : Checked UInt16 := do
  let shifted ← shiftLeft 16 value.toNat 8
  return UInt16.ofNat (w.toNat % 256 ||| shifted)

theorem shifted_byte (value : UInt8) :
    shiftLeft 16 value.toNat 8 = .ok (value.toNat * 256) := by
  have hlt := value.toNat_lt
  have hfits : value.toNat * 2 ^ 8 % 2 ^ 16 = value.toNat * 256 := by omega
  rw [shiftLeft_eq (by decide), hfits]

theorem byte_or (high : Nat) (low : UInt8) :
    high * 256 ||| low.toNat = high * 256 + low.toNat := by
  have hlow : low.toNat < 2 ^ 8 := low.toNat_lt
  have hsum := Nat.shiftLeft_add_eq_or_of_lt hlow high
  rw [Nat.shiftLeft_eq] at hsum
  exact hsum.symm

@[simp] theorem word_eq (high low : UInt8) :
    word high low = .ok (S100.word high low) := by
  rw [word, shifted_byte]
  show Except.ok (UInt16.ofNat (high.toNat * 256 ||| low.toNat)) = _
  rw [byte_or]
  rfl

@[simp] theorem highByte_eq (w : UInt16) :
    highByte w = .ok (S100.highByte w) := by
  rw [highByte, shiftRight_eq (by decide)]
  rfl

@[simp] theorem withHigh_eq (w : UInt16) (value : UInt8) :
    withHigh w value = .ok (S100.word value (S100.lowByte w)) := by
  rw [withHigh, shifted_byte]
  show Except.ok (UInt16.ofNat (w.toNat % 256 ||| value.toNat * 256)) = _
  rw [← toNat_lowByte, Nat.or_comm, byte_or]
  rfl

/-! ## Arrays -/

def index (xs : Array α) (i : Nat) : Checked α :=
  if h : i < xs.size then .ok xs[i] else .error .outOfBounds

/-- The elements from `start` up to but not including `stop`. -/
def slice (xs : Array α) (start stop : Nat) : Checked (Array α) :=
  if start ≤ stop ∧ stop ≤ xs.size then .ok (xs.extract start stop)
  else .error .outOfBounds

theorem index_eq {xs : Array α} {i : Nat} (h : i < xs.size) :
    index xs i = .ok xs[i] :=
  dif_pos h

theorem slice_eq {xs : Array α} {start stop : Nat} (h : start ≤ stop)
    (hstop : stop ≤ xs.size) :
    slice xs start stop = .ok (xs.extract start stop) :=
  if_pos ⟨h, hstop⟩

end Checked

end S100
