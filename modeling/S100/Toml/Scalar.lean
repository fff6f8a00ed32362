import S100.Text.Decimal
import S100.Toml.Value
import S100.Toml.Scan

/-!
# Numbers, booleans and dates of TOML

A value that is neither text nor array nor table is written without blanks
in it, except that a date and a time may have one between them. So the
whole word is taken first, and then tried against each form. Only whole
numbers have a value that matters here; the other forms are told apart
from what is no value at all.
-/

namespace S100.Toml

open Text (Decimal)

/-- What words are made of. -/
def isWordChar (c : Char) : Bool :=
  c.isAlphanum || c == '_' || c == '-' || c == '+' || c == '.' || c == ':'

/-! ## Numbers -/

/-- Digits that may have single underscores between them. -/
def ungroup? (isDigit : Char → Bool) : List Char → Option (List Char)
  | [] => none
  | [c] => if isDigit c then some [c] else none
  | c :: '_' :: d :: rest => do
    guard (isDigit c && isDigit d)
    return c :: (← ungroup? isDigit (d :: rest))
  | c :: rest => do
    guard (isDigit c)
    return c :: (← ungroup? isDigit rest)

/-- Decimal digits, without a zero in front of others. -/
def decimal? (cs : List Char) : Option (List Char) :=
  match cs with
  | '0' :: _ :: _ => none
  | _ => ungroup? Char.isDigit cs

def digitsValue (base : Nat) (digits : List Char) : Nat :=
  digits.foldl (fun n c => base * n + (hexValue? c).getD 0) 0

/-- Whole numbers are held in 64 bits. -/
def minInteger : Int := -0x8000000000000000

def maxInteger : Int := 0x7FFFFFFFFFFFFFFF

def bounded? (n : Int) : Option Int :=
  if minInteger ≤ n ∧ n ≤ maxInteger then some n else none

/-- After its leading zeros, a number of more digits than this is `2 ^ 64`
or more in any base, since its first digit is at least one. -/
def maxDigits : Nat := 64

/-- The value of digits, unless there are so many that it is not held. -/
def magnitude? (base : Nat) (digits : List Char) : Option Nat :=
  let significant := digits.dropWhile (· == '0')
  if significant.length ≤ maxDigits then some (digitsValue base significant)
  else none

def isDigitOf (base : Nat) (c : Char) : Bool :=
  (hexValue? c).any (· < base)

theorem digitsValue_dropWhile (base : Nat) (digits : List Char) :
    digitsValue base (digits.dropWhile (· == '0')) = digitsValue base digits := by
  induction digits with
  | nil => rfl
  | cons c digits ih =>
    by_cases hc : c = '0'
    · subst hc
      have hzero : digitsValue base ('0' :: digits) = digitsValue base digits := by
        show digits.foldl _ (base * 0 + 0) = digits.foldl _ 0
        rw [Nat.mul_zero]
      rw [hzero, ← ih]
      rfl
    · rw [List.dropWhile_cons_of_neg (by simpa using hc)]

theorem magnitude?_eq_some {base n : Nat} {digits : List Char}
    (h : magnitude? base digits = some n) : n = digitsValue base digits := by
  simp only [magnitude?] at h
  split at h
  · rw [← digitsValue_dropWhile]
    exact (Option.some.inj h).symm
  · cases h

theorem hexValue?_pos {c : Char} (hc : c ≠ '0') (h : (hexValue? c).isSome) :
    1 ≤ (hexValue? c).getD 0 := by
  have hne : c.toNat ≠ 48 := fun heq =>
    hc (Char.ext (UInt32.toNat_inj.mp heq))
  have hzero : '0'.toNat = 48 := rfl
  unfold hexValue? at h ⊢
  split
  next hdigit =>
    simp only [Char.isDigit, Bool.and_eq_true, decide_eq_true_eq,
      UInt32.le_iff_toNat_le, ge_iff_le] at hdigit
    have hlow : 48 ≤ c.toNat := hdigit.1
    simp only [Option.getD_some]
    omega
  next hdigit =>
    rw [if_neg hdigit] at h
    split
    · simp
    next hlower =>
      rw [if_neg hlower] at h
      split
      · simp
      next hupper =>
        rw [if_neg hupper] at h
        cases h

/-- A number is no less than the place value of its first digit. -/
theorem pow_le_digitsValue (base : Nat) {c : Char}
    (hc : 1 ≤ (hexValue? c).getD 0) (digits : List Char) :
    base.pow digits.length ≤ digitsValue base (c :: digits) := by
  suffices step : ∀ n, 1 ≤ n → base.pow digits.length
      ≤ digits.foldl (fun n c => base * n + (hexValue? c).getD 0) n from
    step (base * 0 + (hexValue? c).getD 0) (by omega)
  suffices step : ∀ n, n * base.pow digits.length
      ≤ digits.foldl (fun n c => base * n + (hexValue? c).getD 0) n from
    fun n hn => Nat.le_trans (Nat.le_mul_of_pos_left _ hn) (step n)
  clear hc
  induction digits with
  | nil => exact fun n => Nat.le_of_eq (Nat.mul_one n)
  | cons d digits ih =>
    intro n
    refine Nat.le_trans ?_ (ih _)
    have hpow : base.pow (digits.length + 1) = base * base.pow digits.length :=
      Nat.pow_succ'
    rw [List.length_cons, hpow, ← Nat.mul_assoc, Nat.mul_comm n]
    exact Nat.mul_le_mul_right _ (Nat.le_add_right _ _)

/-- Numbers of too many digits are not held in 64 bits. -/
theorem le_digitsValue_of_magnitude? {base : Nat} (hbase : 2 ≤ base)
    {digits : List Char} (hdigits : digits.all (isDigitOf base))
    (h : magnitude? base digits = none) :
    UInt64.size ≤ digitsValue base digits := by
  simp only [magnitude?] at h
  split at h
  · cases h
  next hlong =>
    rw [← digitsValue_dropWhile]
    rcases hsig : digits.dropWhile (· == '0') with _ | ⟨c, rest⟩
    · simp [hsig] at hlong
    · rw [hsig, List.length_cons] at hlong
      have hzero : c ≠ '0' := by
        have hnil : digits.dropWhile (· == '0') ≠ [] := by simp [hsig]
        simpa [hsig] using List.head_dropWhile_not (· == '0') hnil
      have hmem : c ∈ digits :=
        (List.dropWhile_sublist _).subset (hsig ▸ List.mem_cons_self)
      have hsome : (hexValue? c).isSome := by
        have := List.all_eq_true.mp hdigits c hmem
        unfold isDigitOf at this
        cases hv : hexValue? c with
        | none => simp [hv] at this
        | some _ => rfl
      refine Nat.le_trans ?_ (pow_le_digitsValue base (hexValue?_pos hzero hsome) rest)
      have hlength : 64 ≤ rest.length := by
        simp only [maxDigits] at hlong
        omega
      have hsize : UInt64.size ≤ Nat.pow 2 rest.length :=
        Nat.pow_le_pow_right (show 0 < 2 by decide) hlength
      exact Nat.le_trans hsize (Nat.pow_le_pow_left hbase _)

def integer? : List Char → Option Int
  | '0' :: 'x' :: cs => based 16 cs
  | '0' :: 'o' :: cs => based 8 cs
  | '0' :: 'b' :: cs => based 2 cs
  | '+' :: cs => positive cs
  | '-' :: cs => do bounded? (-(← decimal? cs >>= magnitude? 10 : Nat))
  | cs => positive cs
where
  based (base : Nat) (cs : List Char) : Option Int := do
    bounded? (← ungroup? (isDigitOf base) cs >>= magnitude? base : Nat)
  positive (cs : List Char) : Option Int := do
    bounded? (← decimal? cs >>= magnitude? 10 : Nat)

/-- A number with a fraction, an exponent or both. -/
def isFraction (cs : List Char) : Bool :=
  let isGroup (cs : List Char) := (ungroup? Char.isDigit cs).isSome
  let (mantissa, exponent) := Decimal.cutExponent (Decimal.takeSign cs).2
  let (whole, fraction) := Decimal.cut (· == '.') mantissa
  (decimal? whole).isSome && (exponent.isSome || fraction.isSome)
    && fraction.all isGroup
    && exponent.all fun cs => isGroup (Decimal.takeSign cs).2

/-- Whether a fraction is small enough. Without its underscores it is a
decimal like any other. A negative one that is too large is let through, as
minus infinity. -/
def isHeld (cs : List Char) : Bool :=
  (Decimal.read? (cs.filter (· != '_'))).any fun d =>
    d.negative || !d.isTooLarge

/-- A fraction, or one of the special numbers. -/
def isFloat (cs : List Char) : Bool :=
  let name := (Decimal.takeSign cs).2
  name == "inf".toList || name == "nan".toList || (isFraction cs && isHeld cs)

/-! ## Dates and times -/

/-- A number of exactly `count` digits in a range, and the rest. -/
def field? (count low high : Nat) (cs : List Char) : Option (List Char) := do
  let digits := cs.take count
  guard (digits.length == count && digits.all Char.isDigit)
  let n := digitsValue 10 digits
  guard (low ≤ n && n ≤ high)
  return cs.drop count

def char? (c : Char) : List Char → Option (List Char)
  | d :: rest => if c = d then some rest else none
  | [] => none

def daysInMonth (year month : Nat) : Nat :=
  if month == 2 then
    if year % 4 == 0 && (year % 100 != 0 || year % 400 == 0) then 29 else 28
  else if [4, 6, 9, 11].contains month then 30
  else 31

/-- What follows a date. -/
def date? (cs : List Char) : Option (List Char) := do
  let year := digitsValue 10 (cs.take 4)
  let rest ← field? 4 0 9999 cs >>= char? '-'
  let month := digitsValue 10 (rest.take 2)
  let rest ← field? 2 1 12 rest >>= char? '-'
  field? 2 1 (daysInMonth year month) rest

/-- What follows a time of day. -/
def time? (cs : List Char) : Option (List Char) := do
  let rest ← field? 2 0 23 cs >>= char? ':'
  let rest ← field? 2 0 59 rest >>= char? ':'
  let rest ← field? 2 0 60 rest
  match rest with
  | '.' :: fraction =>
    let digits := fraction.takeWhile Char.isDigit
    guard !digits.isEmpty
    return fraction.drop digits.length
  | _ => return rest

/-- The end of a word, or an offset from universal time. -/
def isOffset : List Char → Bool
  | [] => true
  | ['Z'] => true
  | ['z'] => true
  | sign :: cs =>
    (sign == '+' || sign == '-')
      && (field? 2 0 23 cs >>= char? ':' >>= field? 2 0 59) == some []

/-- A time after a date. -/
def isTimeOfDate (cs : List Char) : Bool :=
  (time? cs).any isOffset

def isDate (cs : List Char) : Bool :=
  date? cs == some []

def isDateOrTime (cs : List Char) : Bool :=
  time? cs == some [] ||
    match date? cs with
    | some [] => true
    | some ('T' :: rest) => isTimeOfDate rest
    | some ('t' :: rest) => isTimeOfDate rest
    | _ => false

/-! ## Words -/

/-- A value that is one word, or a date and a time. -/
def word? (cs : List Char) : Option (Value × List Char) :=
  let (word, rest) := cs.span isWordChar
  match integer? word with
  | some n => some (.integer n, rest)
  | none =>
    if isDate word then
      match rest with
      | ' ' :: more =>
        let (time, later) := more.span isWordChar
        if isTimeOfDate time then some (.other, later)
        else some (.other, rest)
      | _ => some (.other, rest)
    else if isFloat word || isDateOrTime word || word == "true".toList
        || word == "false".toList then
      some (.other, rest)
    else none

end S100.Toml
