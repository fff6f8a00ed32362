import S100.Text.Hex

/-!
# What can go wrong in setting up

Running a machine never fails. Setting one up can, over a file that cannot
be used or a setting that makes no sense. Each way has a constructor that
holds the facts, and `message` puts them into words.
-/

namespace S100

/-- Why a file could not be used. -/
inductive Fault where
  | notFound
  | isADirectory
  | notADirectory
  | permissionDenied
  /-- The contents are not text. -/
  | invalidData
  /-- The path holds a NUL. -/
  | invalidInput
  /-- A name in the path is too long. -/
  | invalidFilename
deriving DecidableEq, Repr

namespace Fault

def message : Fault → String
  | notFound => "no such file or directory"
  | isADirectory => "is a directory"
  | notADirectory => "not a directory"
  | permissionDenied => "permission denied"
  | invalidData => "the contents are not text"
  | invalidInput => "the path holds a NUL"
  | invalidFilename => "a name is too long"

end Fault

inductive SetupError where
  | access (path : String) (fault : Fault)
  | imageTooLarge (name : String) (size : Nat) (address : UInt16)
      (memorySize : Nat)
  | driveOutOfRange (drive count : Nat)
  | invalidMemorySize (size : Nat)
  | missingProgram (machine : String)
  /-- The settings file is not in the form that one has. -/
  | malformedSettings
deriving DecidableEq, Repr

namespace SetupError

def message : SetupError → String
  | access path fault => "failed to access " ++ path ++ ": " ++ fault.message
  | imageTooLarge name size address memorySize =>
    "image " ++ name ++ " (" ++ toString size ++ " bytes) does not fit at "
      ++ Text.address address ++ " in " ++ toString memorySize
      ++ " bytes of memory"
  | driveOutOfRange drive count =>
    "drive " ++ toString drive ++ " out of range (controller has "
      ++ toString count ++ " drives)"
  | invalidMemorySize size =>
    "invalid memory size " ++ toString size
      ++ ": expected 1..=65536 bytes"
  | missingProgram machine =>
    "the " ++ machine ++ " machine needs a program to run"
  | malformedSettings => "invalid config"

end SetupError

end S100
