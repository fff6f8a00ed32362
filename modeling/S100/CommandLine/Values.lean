import S100.Setup.Settings
import S100.Text.Blank
import S100.Text.Numeral
import S100.Text.Quoted

/-!
# The values of options

Numbers can be given in hexadecimal, as `0xFF00` or `FF00h`, or in
decimal, with blanks around them. A memory image is given as `FILE@ADDR`,
divided at the last at sign, and a disk image as `DRIVE=FILE`, divided at
the first equals sign, so that a file name may hold either.
-/

namespace S100.CommandLine

open Text (NumeralError readNumeral trim quoted)

/-- Why the text of an option's value was refused. -/
inductive ValueError where
  | invalidNumber (text : String) (cause : NumeralError)
  | addressTooLarge (text : String)
  | byteTooLarge (text : String)
  | missingAtSign (text : String)
  | missingEqualsSign (text : String)
  | missingFile (text : String)
  | invalidDrive (text : String) (cause : NumeralError)
deriving DecidableEq, Repr

def ValueError.message : ValueError → String
  | invalidNumber text cause =>
    "invalid number " ++ quoted text ++ ": " ++ cause.message
  | addressTooLarge text => "address " ++ text ++ " is above 0xFFFF"
  | byteTooLarge text => text ++ " does not fit in a byte"
  | missingAtSign text => "expected FILE@ADDR, got " ++ quoted text
  | missingEqualsSign text => "expected DRIVE=FILE, got " ++ quoted text
  | missingFile text => "missing file in " ++ quoted text
  | invalidDrive text cause =>
    "invalid drive " ++ quoted text ++ ": " ++ cause.message

/-! ## Numbers -/

/-- A hexadecimal numeral's digits, when they are marked by `0x` in front,
or, failing that, by `h` behind. -/
def hexMarked? : List Char → Option (List Char)
  | '0' :: 'x' :: digits => some digits
  | '0' :: 'X' :: digits => some digits
  | text =>
    match text.reverse with
    | 'h' :: digits => some digits.reverse
    | 'H' :: digits => some digits.reverse
    | _ => none

def maxNumber : Nat := UInt32.size - 1

def readNumber (text : String) : Except ValueError Nat :=
  let trimmed := trim text.toList
  let number :=
    match hexMarked? trimmed with
    | some digits => readNumeral 16 maxNumber digits
    | none => readNumeral 10 maxNumber trimmed
  number.mapError (.invalidNumber (String.ofList trimmed))

def readAddress (text : String) : Except ValueError UInt16 := do
  let n ← readNumber text
  if n < 0x10000 then return UInt16.ofNat n
  else throw (.addressTooLarge text)

def readByte (text : String) : Except ValueError UInt8 := do
  let n ← readNumber text
  if n < 0x100 then return UInt8.ofNat n
  else throw (.byteTooLarge text)

/-- The largest count or drive number. -/
def maxCount : Nat := UInt64.size - 1

def readCount (text : String) : Except NumeralError Nat :=
  readNumeral 10 maxCount text.toList

/-! ## Images -/

/-- The text before and after the first occurrence of a character. -/
def splitFirst (c : Char) (text : List Char) :
    Option (List Char × List Char) :=
  match text.span (· != c) with
  | (_, []) => none
  | (before, _ :: after) => some (before, after)

/-- The text before and after the last occurrence of a character. -/
def splitLast (c : Char) (text : List Char) :
    Option (List Char × List Char) :=
  (splitFirst c text.reverse).map fun (after, before) =>
    (before.reverse, after.reverse)

def readRom (text : String) : Except ValueError RomSetting :=
  match splitLast '@' text.toList with
  | none => .error (.missingAtSign text)
  | some ([], _) => .error (.missingFile text)
  | some (path, address) => do
    let address ← readAddress (String.ofList address)
    return { path := String.ofList path, address }

def readDisk (text : String) : Except ValueError DiskSetting :=
  match splitFirst '=' text.toList with
  | none => .error (.missingEqualsSign text)
  | some (drive, path) =>
    match readNumeral 10 maxCount (trim drive) with
    | .error cause => .error (.invalidDrive (String.ofList drive) cause)
    | .ok drive =>
      if path.isEmpty then .error (.missingFile text)
      else .ok { drive, path := String.ofList path }

end S100.CommandLine
