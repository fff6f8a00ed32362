/-!
# Hexadecimal

The digits of numbers as messages show them.
-/

namespace S100.Text

/-- The digits of a number in lower case, as many as it takes. -/
def hexDigits (n : Nat) : String :=
  String.ofList (Nat.toDigits 16 n)

/-- A word as an address: four digits in upper case after `0x`. -/
def address (w : UInt16) : String :=
  let n := w.toNat
  let digits := [n / 4096, n / 256 % 16, n / 16 % 16, n % 16].map Nat.digitChar
  "0x" ++ String.ofList (digits.map Char.toUpper)

end S100.Text
