import S100.CommandLine.Arguments
import S100.CommandLine.LogSetting
import S100.Setup.SettingsFile

/-!
# Sessions

What a command line comes to. `Plan.ofCommandLine` decides what is to be
done without looking at any file: mostly that is to run a machine. Then
`Plan.settings` puts the settings together, and `Plan.build` sets the
machine up with the console of the session. Each of them can end matters
early. `Session.ofCommandLine` is the three in a row.

A session then goes on slice by slice (`Session.advance`), and its host
moves bytes to and from the console and carries out writes to files in
between. `Session.transcript` is a whole session whose input was there from
the beginning.
-/

namespace S100.CommandLine

open Text (quoted)

/-! ## Endings -/

/-- Why a machine could not be run. -/
inductive Failure where
  | invalidLogLevel (text : String)
  | unknownMachine (name : String)
  | settingsFile (path : String) (cause : SetupError)
  | machine (kind : MachineKind) (cause : SetupError)
deriving DecidableEq, Repr

namespace Failure

def message : Failure → String
  | invalidLogLevel text => "invalid log level " ++ quoted text
  | unknownMachine name =>
    "unknown machine " ++ quoted name ++ " (available: "
      ++ ", ".intercalate (MachineKind.all.map (·.name)) ++ ")"
  | settingsFile path _ => "failed to load config " ++ path
  | machine kind _ => "failed to build " ++ kind.name

def cause? : Failure → Option SetupError
  | settingsFile _ cause => some cause
  | machine _ cause => some cause
  | _ => none

/-- What is shown to the user: the message, and below it the cause, if
there is one. -/
def report (failure : Failure) : String :=
  let cause :=
    match failure.cause? with
    | none => ""
    | some cause => "\n\nCaused by:\n    " ++ cause.message
  "Error: " ++ failure.message ++ cause ++ "\n"

end Failure

/-- How a command line ends that runs no machine. -/
inductive Ending where
  /-- All that was asked for is this text. -/
  | printed (text : String)
  | refused (error : UsageError)
  | failed (failure : Failure)
  /-- The log settings cannot be divided into parts. -/
  | aborted
deriving DecidableEq, Repr

namespace Ending

def exitCode : Ending → UInt32
  | printed _ => 0
  | refused _ => 2
  | failed _ => 1
  | aborted => 101

/-- What goes to the standard output. -/
def output : Ending → String
  | printed text => text
  | _ => ""

/-- What goes to the standard error. -/
def complaint : Ending → String
  | printed _ => ""
  | refused error => "error: " ++ error.message ++ "\n"
  | failed failure => failure.report
  | aborted => "a part of the log settings begins or ends within a character\n"

def ofStop : Stop → Ending
  | .usage error => refused error
  | .help => printed helpText
  | .version => printed versionText

end Ending

/-! ## Plans -/

/-- The machines by name, with their descriptions. -/
def machineList : String :=
  String.join <| MachineKind.all.map fun kind =>
    String.ofList (kind.name.toList.rightpad 12 ' ') ++ " "
      ++ kind.description ++ "\n"

/-- What a command line asks for, if it asks for a machine to run. -/
structure Plan where
  kind : MachineKind
  arguments : Arguments
  logLevel : LogLevel
deriving DecidableEq, Repr

/-- The log level in the arguments. -/
def Arguments.readLogLevel (a : Arguments) : Except Ending LogLevel :=
  match a.logLevel with
  | none => .ok .info
  | some text =>
    match LogLevel.ofText text with
    | .ok level => .ok level
    | .error .malformed => .error (.failed (.invalidLogLevel text))
    | .error .divided => .error .aborted

/-- The directory for the settings of a user, from what the environment
says about it and about the user's home. A relative one does not count. -/
def settingsDirectory? (settings home : Option String) : Option String :=
  settings.filter Path.isAbsolute <|> home.map (Path.join · ".config")

/-- A user's settings file in the directory for such files. -/
def userFile (directory : String) : String :=
  Path.join directory "altair/config.toml"

namespace Plan

def ofCommandLine (commandLine : List String) : Except Ending Plan := do
  let arguments ← (Arguments.read commandLine).mapError .ofStop
  let logLevel ← arguments.readLogLevel
  if arguments.list then throw (.printed machineList)
  match MachineKind.find? arguments.machineName with
  | none => throw (.failed (.unknownMachine arguments.machineName))
  | some kind => return { kind, arguments, logLevel }

/-- The settings file: the one that the arguments name, or else the user's,
if there is one. -/
def settingsFile? (plan : Plan) (files : FileSource)
    (directory : Option String) : Option String :=
  plan.arguments.configFile <|>
    (directory.map userFile).filter files.isFile

/-- The settings from the settings file and the arguments. -/
def settings (plan : Plan) (files : FileSource) (directory : Option String) :
    Except Ending Settings := do
  let settings ←
    match plan.settingsFile? files directory with
    | none => .ok {}
    | some path =>
      (Settings.ofFile files path).mapError fun cause =>
        .failed (.settingsFile path cause)
  return plan.arguments.apply settings

end Plan

/-! ## Sessions -/

/-- A machine that is being run. -/
structure Session where
  machine : Machine
  limit : Option Nat
  /-- Steps taken so far. -/
  taken : Nat := 0
  logLevel : LogLevel

/-- Set up the machine. Its console is at the end of a line. -/
def Plan.build (plan : Plan) (files : FileSource) (settings : Settings) :
    Except Ending Session := do
  let devices := settings.devices (.stream {})
  let machine ← (plan.kind.build files settings devices).mapError fun cause =>
    .failed (.machine plan.kind cause)
  return { machine, limit := plan.arguments.maxSteps,
           logLevel := plan.logLevel }

namespace Session

/-- The session that a command line asks for, where files are as they are
and the user's settings file is in a directory. -/
def ofCommandLine (commandLine : List String) (files : FileSource)
    (directory : Option String) : Except Ending Session := do
  let plan ← Plan.ofCommandLine commandLine
  let settings ← plan.settings files directory
  plan.build files settings

/-- Exchange the state of the line for something else. -/
def mapLine (s : Session) (f : Console.Stream → Console.Stream) : Session :=
  { s with machine := s.machine.mapDevices fun d =>
      match d.console with
      | .stream line => { d with console := .stream (f line) }
      | .buffered _ => d }

/-- Type on the keyboard. -/
def type (s : Session) (keys : Bytes) : Session :=
  s.mapLine (·.send (keys.map Console.Stream.keyByte))

/-- What the machine has printed and nobody has seen. -/
def output (s : Session) : Bytes :=
  match s.machine.devices.console with
  | .stream line => line.output
  | .buffered _ => #[]

/-- Hand over what the machine has printed. -/
def takeOutput (s : Session) : Bytes × Session :=
  (s.output, s.mapLine (·.takeOutput.2))

/-- Hand over the writes to files that have come up. -/
def takeWrites (s : Session) : Array FileWrite × Session :=
  let (writes, machine) := s.machine.takeJournal
  (writes, { s with machine })

/-- Go on for a slice. If that is the last one, says how it ended. -/
def advance (s : Session) : Option Outcome × Session :=
  match S100.advance s.limit s.taken s.machine with
  | .ended r =>
    (some r.outcome, { s with machine := r.machine, taken := r.steps })
  | .going taken machine => (none, { s with machine, taken })

/-- Go on to the end. -/
def finish (s : Session) : Session :=
  let r := emulateFrom s.limit s.taken s.machine
  { s with machine := r.machine, taken := r.steps }

/-! ## Messages -/

/-- Where the processor stands. -/
def place (s : Session) : String :=
  Text.address s.machine.cpu.regs.pc

/-- A message for those who want to know that much. -/
def note (s : Session) (level : LogLevel) (message : String) : List String :=
  if s.logLevel.shows level then [s.machine.kind.name ++ " " ++ message]
  else []

def startNotes (s : Session) : List String :=
  s.note .info ("running from " ++ s.place)

def endNotes (s : Session) : Outcome → List String
  | .halted =>
    s.note .info ("halted at " ++ s.place ++ " after " ++ toString s.taken
      ++ " instructions")
  | _ => s.note .debug ("stopped after " ++ toString s.taken ++ " instructions")

/-! ## Whole sessions -/

/-- What a session leaves behind. -/
structure Transcript where
  output : Bytes
  writes : Array FileWrite
deriving DecidableEq, Repr

/-- What comes of a session for which everything was typed before it
began. -/
def transcript (s : Session) (keys : Bytes) : Transcript :=
  let s := (s.type keys).finish
  { output := s.output, writes := s.takeWrites.1 }

end Session

end S100.CommandLine
