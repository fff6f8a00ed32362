/-!
# Numerals

Unsigned numbers in a base: an optional plus sign and one or more digits,
with a largest value. Digits above 9 are letters of either case. There may
be any number of leading zeros.

A numeral is read from left to right, and the first character that cannot
be taken decides the error: one that is no digit of the base, or a digit
that leads past the largest value.
-/

namespace S100.Text

/-- Why a text is not a numeral. -/
inductive NumeralError where
  | empty
  | invalidDigit
  | tooLarge
deriving DecidableEq, Repr

def NumeralError.message : NumeralError → String
  | empty => "cannot parse integer from empty string"
  | invalidDigit => "invalid digit found in string"
  | tooLarge => "number too large to fit in target type"

/-- The value of a digit in a base of at most 36. -/
def digitValue? (base : Nat) (c : Char) : Option Nat :=
  let value :=
    if c.isDigit then some (c.toNat - '0'.toNat)
    else if c.isLower then some (c.toNat - 'a'.toNat + 10)
    else if c.isUpper then some (c.toNat - 'A'.toNat + 10)
    else none
  value.filter (· < base)

/-- Read digits after those that made up `value`. -/
def readDigits (base limit value : Nat) :
    List Char → Except NumeralError Nat
  | [] => .ok value
  | c :: rest =>
    match digitValue? base c with
    | none => .error .invalidDigit
    | some digit =>
      let value := value * base + digit
      if limit < value then .error .tooLarge
      else readDigits base limit value rest

/-- Read a whole text as a numeral not above `limit`. -/
def readNumeral (base limit : Nat) (text : List Char) :
    Except NumeralError Nat :=
  match text with
  | [] => .error .empty
  | ['+'] => .error .invalidDigit
  | '+' :: digits => readDigits base limit 0 digits
  | digits => readDigits base limit 0 digits

end S100.Text
