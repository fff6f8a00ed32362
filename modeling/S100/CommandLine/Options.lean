/-!
# Options

The options of the command line by name. Some take a value. The others are
flags, and take none.
-/

namespace S100.CommandLine

/-- An option that takes a value. -/
inductive ValueOption where
  | config
  | rom
  | disk
  | program
  | start
  | switches
  | maxSteps
  | logLevel
deriving DecidableEq, Repr

inductive Flag where
  | list
  | help
  | version
deriving DecidableEq, Repr

/-- What a name on the command line stands for. -/
inductive OptionKind where
  | value (option : ValueOption)
  | flag (flag : Flag)
deriving DecidableEq, Repr

def ValueOption.name : ValueOption → String
  | config => "config"
  | rom => "rom"
  | disk => "disk"
  | program => "program"
  | start => "start"
  | switches => "switches"
  | maxSteps => "max-steps"
  | logLevel => "log-level"

def Flag.name : Flag → String
  | list => "list"
  | help => "help"
  | version => "version"

namespace OptionKind

def name : OptionKind → String
  | value o => o.name
  | flag f => f.name

def all : List OptionKind :=
  [ value .config, value .rom, value .disk, value .program, value .start,
    value .switches, value .maxSteps, value .logLevel,
    flag .list, flag .help, flag .version ]

/-- The option with a name. Names are not abbreviated. -/
def ofName? (name : String) : Option OptionKind :=
  all.find? (·.name == name)

theorem ofName?_name (kind : OptionKind) : ofName? kind.name = some kind := by
  cases kind with
  | value o => cases o <;> decide +kernel
  | flag f => cases f <;> decide +kernel

/-- The option with a letter. Few have one. -/
def ofLetter? : Char → Option OptionKind
  | 'c' => some (value .config)
  | 'h' => some (flag .help)
  | 'V' => some (flag .version)
  | _ => none

end OptionKind

/-! ## Help -/

def helpLines : List String :=
  [ "Intel 8080 / MITS Altair 8800 emulator",
    "",
    "Usage: altair [OPTIONS] [MACHINE]",
    "",
    "The machine's console is on standard input and output.",
    "",
    "Arguments:",
    "  [MACHINE]  Machine to run, altair8800 if none is named",
    "",
    "Options:",
    "  -c, --config <FILE>      Read settings from a file",
    "      --rom <FILE@ADDR>    Load an image into memory",
    "      --disk <DRIVE=FILE>  Mount a disk image",
    "      --program <FILE>     Run a CP/M program (cpm machine)",
    "      --start <ADDR>       Address to examine before running",
    "      --switches <BYTE>    Positions of the sense switches",
    "      --max-steps <N>      Stop after this many instructions",
    "      --log-level <LEVEL>  How much to log",
    "      --list               List the machines and stop",
    "  -h, --help               Print this help and stop",
    "  -V, --version            Print the version and stop" ]

def helpText : String :=
  String.join (helpLines.map (· ++ "\n"))

def versionText : String :=
  "altair 0.1.0\n"

/-! ## What can be wrong with arguments -/

/-- Why the arguments cannot be used. -/
inductive UsageError where
  | unknownArgument (argument : String)
  | missingValue (option : ValueOption)
  | invalidValue (option : ValueOption) (value reason : String)
  /-- An option that can only be given once. -/
  | repeated (option : OptionKind)
  | unexpectedValue (flag : Flag) (value : String)
deriving DecidableEq, Repr

def UsageError.message : UsageError → String
  | unknownArgument argument => "unexpected argument '" ++ argument ++ "'"
  | missingValue option => "--" ++ option.name ++ " needs a value"
  | invalidValue option value reason =>
    "invalid value '" ++ value ++ "' for --" ++ option.name ++ ": " ++ reason
  | repeated kind => "--" ++ kind.name ++ " was given twice"
  | unexpectedValue flag value =>
    "--" ++ flag.name ++ " takes no value, got '" ++ value ++ "'"

end S100.CommandLine
