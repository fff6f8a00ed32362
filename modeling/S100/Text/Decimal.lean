/-!
# Decimal fractions

Numbers with a sign, a decimal point and an exponent, all of which may be
missing. They are kept as they are written: as digits and a power of ten.

Numbers of that kind are held in 64 bits, of which 53 are for digits, so
that the largest of them is `2 ^ 1024 - 2 ^ 971`. Others are rounded, and
what is nearer to `2 ^ 1024` than to that number is too large
(`Decimal.isTooLarge`).
-/

namespace S100.Text

/-- A number's digits, with the power of ten by which they are multiplied. -/
structure Decimal where
  negative : Bool
  digits : List Char
  scale : Int
deriving DecidableEq, Repr

namespace Decimal

/-! ## Reading -/

/-- The parts before and after the first character that satisfies `p`. -/
def cut (p : Char → Bool) (cs : List Char) : List Char × Option (List Char) :=
  match cs.span (!p ·) with
  | (before, []) => (before, none)
  | (before, _ :: after) => (before, some after)

/-- The part before an exponent, and the exponent. -/
def cutExponent (cs : List Char) : List Char × Option (List Char) :=
  cut (fun c => c == 'e' || c == 'E') cs

/-- Whether there is a minus sign, and what follows the sign. -/
def takeSign : List Char → Bool × List Char
  | '+' :: cs => (false, cs)
  | '-' :: cs => (true, cs)
  | cs => (false, cs)

/-- The value of decimal digits. -/
def value (digits : List Char) : Nat :=
  digits.foldl (fun n c => 10 * n + (c.toNat - '0'.toNat)) 0

/-- Exponents from here on take no further digits. -/
def maxExponent : Nat := 0x10000

/-- The value of an exponent's digits, up to where it is large enough. -/
def exponentValue (digits : List Char) : Nat :=
  digits.foldl (fun n c =>
    if n < maxExponent then 10 * n + (c.toNat - '0'.toNat) else n) 0

/-- An exponent: digits after an optional sign. -/
def exponent? (cs : List Char) : Option Int :=
  let (negative, digits) := takeSign cs
  if digits.isEmpty || !digits.all Char.isDigit then none
  else if negative then some (-(exponentValue digits : Int))
  else some (exponentValue digits)

/-- An exponent stays below ten times the number from which on it takes no
further digits. -/
theorem exponentValue_lt (digits : List Char) (h : digits.all Char.isDigit) :
    exponentValue digits < 10 * maxExponent := by
  suffices step : ∀ n, n < 10 * maxExponent →
      digits.foldl (fun n c =>
        if n < maxExponent then 10 * n + (c.toNat - '0'.toNat) else n) n
        < 10 * maxExponent from step 0 (by decide)
  induction digits with
  | nil => exact fun n hn => hn
  | cons c digits ih =>
    simp only [List.all_cons, Bool.and_eq_true] at h
    intro n hn
    refine ih h.2 _ ?_
    have hc : c.toNat ≤ 57 := by
      have := h.1
      simp only [Char.isDigit, Bool.and_eq_true, decide_eq_true_eq] at this
      exact this.2
    have hzero : '0'.toNat = 48 := rfl
    dsimp only
    split <;> omega

/-- A number, with digits before or after its point. -/
def read? (cs : List Char) : Option Decimal := do
  let (negative, cs) := takeSign cs
  let (mantissa, exponent) := cutExponent cs
  let (whole, fraction) := cut (· == '.') mantissa
  let fraction := fraction.getD []
  let digits := whole ++ fraction
  guard (!digits.isEmpty && digits.all Char.isDigit)
  let exponent ← exponent.elim (some 0) exponent?
  return { negative, digits, scale := exponent - fraction.length }

/-- A number, or the name of what is none: infinity, or no number. -/
def isNumber (cs : List Char) : Bool :=
  let name := String.ofList ((takeSign cs).2.map Char.toLower)
  (read? cs).isSome || ["inf", "infinity", "nan"].contains name

/-! ## Size -/

/-- The digits from the first that is not zero on. -/
def significant (d : Decimal) : List Char :=
  d.digits.dropWhile (· == '0')

/-- How many significant digits there are up to the decimal point. Zeros
between it and the first of them count negatively. -/
def magnitude (d : Decimal) : Int :=
  d.significant.length + d.scale

/-- Half-way from the largest number to what would come after it. -/
def bound : Nat := Nat.pow 2 1024 - Nat.pow 2 970

/-- How many digits the bound has. -/
def boundDigits : Nat := 309

/-- Whether a number, signs apart, rounds to more than can be held. Where
the magnitude does not decide, the whole part does, as the bound is whole
itself. -/
def isTooLarge (d : Decimal) : Bool :=
  if d.significant.isEmpty then false
  else if d.magnitude != boundDigits then boundDigits < d.magnitude
  else
    bound ≤ value ((d.significant.take boundDigits).rightpad boundDigits '0')

theorem bound_lt :
    Nat.pow 10 (boundDigits - 1) ≤ bound ∧ bound < Nat.pow 10 boundDigits := by
  decide +kernel

end Decimal

end S100.Text
