import S100.CommandLine.LogLevel
import S100.Text.Blank
import S100.Text.Decimal
import S100.Text.Numeric
import S100.Text.Pattern.Reader

/-!
# Log settings

What is to be logged: a level, and after commas directives for the messages
of others. A directive has a target, or a span in brackets, or both, and
possibly a level of its own. A span can have a field in braces, which can
have a value. There are no others here whose messages could be meant, so
the directives have no effect, but they have to be well formed.

Blanks around a directive do not count while it is divided into parts. But
the parts are then taken from the text with the blanks, at the places that
they have in the text without, counted in bytes. So blanks in front shift
all parts, and a part may come to begin or end within a character. That
cannot be made up for.
-/

namespace S100.CommandLine

/-! ## Places in texts -/

/-- How many bytes a text takes. -/
def byteLength (cs : List Char) : Nat :=
  cs.foldr (fun c n => c.utf8Size + n) 0

/-- A text without so many bytes at its front, if they are whole
characters. -/
def dropBytes? : Nat → List Char → Option (List Char)
  | 0, cs => some cs
  | _ + 1, [] => none
  | n + 1, c :: cs =>
    if c.utf8Size ≤ n + 1 then dropBytes? (n + 1 - c.utf8Size) cs else none

/-- So many bytes at the front of a text, if they are whole characters. -/
def takeBytes? : Nat → List Char → Option (List Char)
  | 0, _ => some []
  | _ + 1, [] => none
  | n + 1, c :: cs =>
    if c.utf8Size ≤ n + 1 then
      (takeBytes? (n + 1 - c.utf8Size) cs).map (c :: ·)
    else none

/-! ## Directives -/

/-- Why log settings were not taken. -/
inductive LogFault where
  | malformed
  /-- A part of a directive begins or ends within a character. -/
  | divided
deriving DecidableEq, Repr

/-- A directive with the blanks around it. -/
structure Directive where
  whole : List Char

namespace Directive

/-- The text from a place to the end. -/
def after (d : Directive) (place : Nat) : Except LogFault (List Char) :=
  match dropBytes? place d.whole with
  | none => .error .divided
  | some rest => .ok rest

/-- The text at a place that is as long as another. -/
def part (d : Directive) (place : Nat) (like : List Char) :
    Except LogFault (List Char) := do
  match takeBytes? (byteLength like) (← d.after place) with
  | none => .error .divided
  | some part => .ok part

/-- A field can be compared with a number or a pattern. Only what stands
between the first equals sign and the next is looked at. -/
def isField (field : List Char) : Bool :=
  match field.dropWhile (· != '=') with
  | [] => true
  | _ :: rest =>
    let value := rest.takeWhile (· != '=')
    Text.Decimal.isNumber value
      || (Text.Pattern.read? value).any (·.isUsable)

/-- The level at a place, up to the end. -/
def checkLevel (d : Directive) (place : Nat) : Except LogFault Unit := do
  let level ← d.after place
  if (LogLevel.given? level).isSome then .ok () else .error .malformed

/-- What follows a span: nothing, or a level. -/
def checkEnd (d : Directive) (place : Nat) :
    List Char → Except LogFault Unit
  | [] => .ok ()
  | '=' :: _ => d.checkLevel (place + 1)
  | _ => .error .malformed

/-- A field, from after its opening brace on. -/
def checkField (d : Directive) (place : Nat) (text : List Char) :
    Except LogFault Unit := do
  let (field, rest) := text.span (· != '\x7d')
  if rest.isEmpty then throw .malformed
  let shifted ← d.part place field
  if shifted.isEmpty || !isField shifted then throw .malformed
  match rest with
  | _ :: ']' :: rest => d.checkEnd (place + byteLength field + 2) rest
  | _ => throw .malformed

/-- A span, from after its opening bracket on. -/
def checkSpan (d : Directive) (place : Nat) (text : List Char) :
    Except LogFault Unit := do
  let (span, rest) := text.span fun c => c != ']' && c != '\x7b'
  match rest with
  | [] => throw .malformed
  | c :: rest =>
    let _ ← d.part place span
    let place := place + byteLength span + 1
    if c == ']' then d.checkEnd place rest else d.checkField place rest

/-- What a target can begin with. -/
def startsTarget (c : Char) : Bool :=
  Text.isAlphanumeric c || ['-', ':', '_'].contains c

def check (d : Directive) : Except LogFault Unit := do
  let text := Text.trim d.whole
  match text with
  | [] => throw .malformed
  | '[' :: rest => d.checkSpan 1 rest
  | c :: _ =>
    if !startsTarget c then throw .malformed
    let (target, rest) := text.span fun c => c != '=' && c != '['
    match rest with
    | [] => return
    | c :: rest =>
      let _ ← d.part 0 target
      let place := byteLength target + 1
      if c == '=' then d.checkLevel place else d.checkSpan place rest

end Directive

/-! ## Settings -/

/-- The level that a text sets. Between commas there may be nothing. -/
def LogLevel.ofText (text : String) : Except LogFault LogLevel :=
  match text.splitOn "," with
  | [] => .error .malformed
  | level :: directives => do
    match given? level.toList with
    | none => .error .malformed
    | some level =>
      (directives.filter (!·.isEmpty)).forM fun directive =>
        Directive.check { whole := directive.toList }
      return level

end S100.CommandLine
