import S100.Text.Numeral

/-!
# Log levels

How much is to be logged: a level by name, in letters of either case, or
by number, or nothing, which stands for the lowest level.
-/

namespace S100.CommandLine

inductive LogLevel where
  | off
  | error
  | warn
  | info
  | debug
  | trace
deriving DecidableEq, Repr

namespace LogLevel

def name : LogLevel → String
  | off => "off"
  | error => "error"
  | warn => "warn"
  | info => "info"
  | debug => "debug"
  | trace => "trace"

/-- All levels, each at the place of its number. -/
def all : List LogLevel :=
  [off, error, warn, info, debug, trace]

/-- Whether messages of a level are shown at this one. -/
def shows (setting message : LogLevel) : Bool :=
  all.idxOf message ≤ all.idxOf setting

/-- The level with a name or a number. -/
def named? (text : List Char) : Option LogLevel :=
  match Text.readNumeral 10 5 text with
  | .ok number => all[number]?
  | .error _ => all.find? (·.name.toList == text.map Char.toLower)

/-- A level, or nothing for the lowest one. -/
def given? (text : List Char) : Option LogLevel :=
  if text.isEmpty then some trace else named? text

end LogLevel

end S100.CommandLine
