import S100.CommandLine.Options
import S100.CommandLine.Values
import S100.Machine

/-!
# Arguments

`Arguments` are what a command line asks for, `Arguments.read` reads them,
and `Arguments.apply` lays them over settings that come from elsewhere.

The command line is read from left to right. An option's value stands in
the same argument, as in `--start=5` or `-cfile`, or in the next one. In
the latter case the option is *pending*: it takes effect when the next
option or operand is met, and a value that is missing or wrong is found
only then. An argument with a dash in front is never the value of a
pending option. After a double dash everything is an operand. There can be
one operand, the name of a machine.
-/

namespace S100.CommandLine

structure Arguments where
  machine : Option String := none
  configFile : Option String := none
  roms : List RomSetting := []
  disks : List DiskSetting := []
  program : Option String := none
  start : Option UInt16 := none
  switches : Option UInt8 := none
  maxSteps : Option Nat := none
  logLevel : Option String := none
  list : Bool := false
deriving DecidableEq, Repr

/-- Why the reading of a command line stopped early. -/
inductive Stop where
  | usage (error : UsageError)
  | help
  | version
deriving DecidableEq, Repr

namespace Arguments

def machineName (a : Arguments) : String :=
  a.machine.getD MachineKind.altair8800.name

/-! ## Settings -/

/-- Add a diskette in place of those for the same drive. -/
def replaceDisk (disks : List DiskSetting) (disk : DiskSetting) :
    List DiskSetting :=
  disks.filter (·.drive != disk.drive) ++ [disk]

/-- Settings with what the command line says in addition or instead. -/
def apply (a : Arguments) (s : Settings) : Settings :=
  { s with
    roms := s.roms ++ a.roms
    disks := a.disks.foldl replaceDisk s.disks
    program := a.program <|> s.program
    startAddress := a.start.getD s.startAddress
    senseSwitches := a.switches.getD s.senseSwitches }

/-! ## Single options -/

/-- A value for an option that can be given once. -/
def once {α : Type} (option : ValueOption) (given : Option α)
    (value : Except UsageError α) : Except UsageError (Option α) :=
  if given.isSome then .error (.repeated (.value option))
  else value.map some

/-- The value of an option that names a file. -/
def filePath (option : ValueOption) (text : String) :
    Except UsageError String :=
  if text.isEmpty then .error (.missingValue option) else .ok text

/-- The value of an option as a reader reads it. -/
def valueOf {α ε : Type} (option : ValueOption) (text : String)
    (message : ε → String) (value : Except ε α) : Except UsageError α :=
  value.mapError fun e => .invalidValue option text (message e)

/-- The arguments with an option and its value. -/
def withOption (a : Arguments) (option : ValueOption) (text : String) :
    Except UsageError Arguments := do
  match option with
  | .config =>
    let configFile ← once option a.configFile (filePath option text)
    return { a with configFile }
  | .rom =>
    let rom ← valueOf option text ValueError.message (readRom text)
    return { a with roms := a.roms ++ [rom] }
  | .disk =>
    let disk ← valueOf option text ValueError.message (readDisk text)
    return { a with disks := a.disks ++ [disk] }
  | .program =>
    let program ← once option a.program (filePath option text)
    return { a with program }
  | .start =>
    let start ← once option a.start
      (valueOf option text ValueError.message (readAddress text))
    return { a with start }
  | .switches =>
    let switches ← once option a.switches
      (valueOf option text ValueError.message (readByte text))
    return { a with switches }
  | .maxSteps =>
    let maxSteps ← once option a.maxSteps
      (valueOf option text Text.NumeralError.message (readCount text))
    return { a with maxSteps }
  | .logLevel =>
    let logLevel ← once option a.logLevel (.ok text)
    return { a with logLevel }

/-- The arguments with a flag. -/
def withFlag (a : Arguments) : Flag → Except Stop Arguments
  | .list =>
    if a.list then .error (.usage (.repeated (.flag .list)))
    else .ok { a with list := true }
  | .help => .error .help
  | .version => .error .version

end Arguments

/-! ## Reading -/

/-- How far a command line has been read. -/
structure Reading where
  arguments : Arguments := {}
  /-- An option that awaits its effect, and its value, if that has been
  met. -/
  pending : Option (ValueOption × Option String) := none
  /-- A double dash has been met. -/
  operandsOnly : Bool := false
deriving DecidableEq, Repr

namespace Reading

/-- The arguments so far, with the effect of the pending option. -/
def settle (r : Reading) : Except Stop Arguments :=
  match r.pending with
  | none => .ok r.arguments
  | some (option, none) => .error (.usage (.missingValue option))
  | some (option, some text) =>
    (r.arguments.withOption option text).mapError .usage

/-- Settle, and go on from other arguments. -/
def proceed (r : Reading) (f : Arguments → Except Stop Arguments) :
    Except Stop Reading := do
  let arguments ← r.settle >>= f
  return { r with arguments, pending := none }

/-- Take the name of the machine. There is no second operand. -/
def operand (r : Reading) (text : String) : Except Stop Reading :=
  if r.arguments.machine.isSome then
    .error (.usage (.unknownArgument text))
  else r.proceed fun a => .ok { a with machine := some text }

/-- Take an option with the value that is attached to it, if there is
one. -/
def option (r : Reading) (argument : String) (kind : Option OptionKind)
    (attached : Option String) : Except Stop Reading :=
  match kind, attached with
  | none, _ => .error (.usage (.unknownArgument argument))
  | some (.flag flag), none => r.proceed (·.withFlag flag)
  | some (.flag flag), some value =>
    .error (.usage (.unexpectedValue flag value))
  | some (.value option), some value =>
    r.proceed fun a => (a.withOption option value).mapError .usage
  | some (.value option), none => do
    let r ← r.proceed .ok
    return { r with pending := some (option, none) }

/-- The name and the attached value of an option after two dashes. -/
def splitName (text : List Char) : String × Option String :=
  match splitFirst '=' text with
  | none => (String.ofList text, none)
  | some (name, value) => (String.ofList name, some (String.ofList value))

/-- The value that is attached to the letter of an option. The letters of
flags stop the reading, so it does not matter what follows them. -/
def attachedTo (kind : Option OptionKind) (rest : List Char) :
    Option String :=
  match kind, rest with
  | some (.value _), '=' :: value => some (String.ofList value)
  | some (.value _), c :: value => some (String.ofList (c :: value))
  | _, _ => none

/-- Take the next argument. -/
def take (r : Reading) (argument : String) : Except Stop Reading :=
  if r.operandsOnly then r.operand argument
  else match argument.toList with
  | ['-', '-'] => .ok { r with operandsOnly := true }
  | '-' :: '-' :: text =>
    let (name, attached) := splitName text
    r.option argument (OptionKind.ofName? name) attached
  | '-' :: letter :: rest =>
    let kind := OptionKind.ofLetter? letter
    r.option argument kind (attachedTo kind rest)
  | _ =>
    match r.pending with
    | some (option, none) =>
      .ok { r with pending := some (option, some argument) }
    | _ => r.operand argument

end Reading

/-- Read a command line, without the name of the program. -/
def Arguments.read (commandLine : List String) : Except Stop Arguments :=
  commandLine.foldlM Reading.take {} >>= Reading.settle

end S100.CommandLine
