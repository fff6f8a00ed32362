import S100.Text.Blank
import S100.Text.Numeral
import S100.Text.Numeric
import S100.Text.Pattern

/-!
# Reading patterns

A pattern is read in steps, each of which takes at least one character, so
there are at most as many as characters (`Pattern.Reading.finish?`). In
between, a `Pattern.Reading` holds what is known of each open group, and,
within brackets, a `CharSet.Reading` what is known of each open bracket.

No braces can be used. Patterns come in texts in which a closing brace has
another meaning, so that a pattern never has one. Hence there are neither
counts of repetitions nor names in braces, and an opening brace ends the
reading unless it is escaped or in brackets.
-/

namespace S100.Text

/-! ## Free spacing

By a flag, blanks and comments between the parts of a pattern have no
meaning. A comment goes from a number sign to the end of the line. -/

def skipIdle (inComment : Bool) : List Char → List Char
  | [] => []
  | c :: rest =>
    if inComment then skipIdle (c != '\n') rest
    else if isBlank c then skipIdle false rest
    else if c == '#' then skipIdle true rest
    else c :: rest

def skipSpacing (free : Bool) (cs : List Char) : List Char :=
  if free then skipIdle false cs else cs

/-- The next character with a meaning. Only blanks and one number sign are
passed over, not the text of a comment. -/
def peekSpacing (free : Bool) (cs : List Char) : Option Char :=
  if !free then cs.head?
  else match cs.dropWhile isBlank with
    | '#' :: rest => (rest.dropWhile isBlank).head?
    | rest => rest.head?

/-! ## Escapes -/

/-- A number of so many hexadecimal digits, read after those of `value`. -/
def hexDigits? (free : Bool) (value : Nat) :
    Nat → List Char → Option (Nat × List Char)
  | 0, cs => some (value, cs)
  | count + 1, cs =>
    match skipSpacing free cs with
    | [] => none
    | c :: rest => do
      hexDigits? free (16 * value + (← digitValue? 16 c)) count rest

/-- A character by its code point. Two digits can also mean a byte. -/
def hexLiteral? (free : Bool) (digits : Nat) (cs : List Char) :
    Option (Pattern × List Char) := do
  let (n, rest) ← hexDigits? free 0 digits cs
  guard (n < 0xD800 || (0xDFFF < n && n < 0x110000))
  return (.literal (Char.ofNat n) (digits == 2), rest)

/-- All of ASCII but letters, digits and the two signs that mark words. -/
def isEscapable (c : Char) : Bool :=
  c.toNat < 0x80 && !c.isAlphanum && c != '<' && c != '>'

/-- What follows a backslash. -/
def escape? (free : Bool) : List Char → Option (Pattern × List Char)
  | [] => none
  | c :: rest =>
    let character (c : Char) : Option (Pattern × List Char) :=
      some (.literal c false, rest)
    match c with
    | 'x' => hexLiteral? free 2 rest
    | 'u' => hexLiteral? free 4 rest
    | 'U' => hexLiteral? free 8 rest
    | 'd' => some (.kind false, rest)
    | 's' => some (.kind false, rest)
    | 'w' => some (.kind false, rest)
    | 'D' => some (.kind true, rest)
    | 'S' => some (.kind true, rest)
    | 'W' => some (.kind true, rest)
    | 'a' => character '\x07'
    | 'f' => character '\x0c'
    | 't' => character '\t'
    | 'n' => character '\n'
    | 'r' => character '\r'
    | 'v' => character '\x0b'
    | 'A' => some (.edge, rest)
    | 'z' => some (.edge, rest)
    | 'b' => if rest.head? == some '\x7b' then none else some (.wordEdge, rest)
    | 'B' => some (.wordEdge, rest)
    | '<' => some (.wordEdge, rest)
    | '>' => some (.wordEdge, rest)
    | _ => if isEscapable c then character c else none

/-! ## Brackets -/

namespace CharSet

/-- The sets of ASCII characters that have names. -/
def names : List String :=
  ["alnum", "alpha", "ascii", "blank", "cntrl", "digit", "graph", "lower",
   "print", "punct", "space", "upper", "word", "xdigit"]

/-- What follows the bracket of a named set. -/
def named? (cs : List Char) : Option (CharSet × List Char) := do
  let cs ← match cs with
    | ':' :: cs => some cs
    | _ => none
  let (negated, cs) := match cs with
    | '^' :: cs => (true, cs)
    | cs => (false, cs)
  let (name, rest) := cs.span (· != ':')
  match rest with
  | ':' :: ']' :: rest => do
    guard (names.contains (String.ofList name))
    return (.named negated, rest)
  | _ => none

/-- What is known of an open bracket: the items since its last operator, the
latest first, and what is on that operator's left. At its beginning,
hyphens and a closing bracket are characters. -/
structure Level where
  negated : Bool
  atStart : Bool := true
  left : Option CharSet := none
  items : List CharSet := []

namespace Level

def contents (level : Level) : CharSet :=
  let right := CharSet.ofList level.items.reverse
  match level.left with
  | none => right
  | some left => .combined left right

def push (level : Level) (item : CharSet) : Level :=
  { level with atStart := false, items := item :: level.items }

/-- What an operator does: all up to it becomes its left side. -/
def operator (level : Level) : Level :=
  { level with atStart := false, left := some level.contents, items := [] }

end Level

structure Reading where
  level : Level
  outer : List Level := []
  rest : List Char

namespace Reading

/-- What a bracket that has just been opened can begin with. -/
def start (free : Bool) (outer : List Level) (cs : List Char) : Reading :=
  match skipSpacing free cs with
  | '^' :: rest => { level := { negated := true }, outer, rest }
  | rest => { level := { negated := false }, outer, rest }

def push (r : Reading) (item : CharSet) (rest : List Char) : Reading :=
  { r with level := r.level.push item, rest }

/-- One character, or an escape. -/
def item? (free : Bool) : List Char → Option (Pattern × List Char)
  | [] => none
  | '\\' :: rest => escape? free rest
  | c :: rest => some (.literal c false, rest)

/-- Take an item, or a range of characters. -/
def takeRange? (r : Reading) (free : Bool) (cs : List Char) :
    Option Reading := do
  let (first, rest) ← item? free cs
  let single : Option Reading :=
    match first with
    | .literal c _ => some (r.push (.range c c) rest)
    | .kind negated => some (r.push (.kind negated) rest)
    | _ => none
  match skipSpacing free rest with
  | '-' :: rest =>
    if (peekSpacing free rest).any fun c => c == ']' || c == '-' then single
    else
      let (last, rest) ← item? free (skipSpacing free rest)
      match first, last with
      | .literal first _, .literal last _ =>
        guard (first.toNat ≤ last.toNat)
        return r.push (.range first last) rest
      | _, _ => none
  | _ => single

/-- Close the innermost bracket. The outermost one is all that was to be
read. -/
def close (r : Reading) (rest : List Char) :
    Reading ⊕ (CharSet × List Char) :=
  let set := CharSet.bracketed r.level.negated r.level.contents
  match r.outer with
  | [] => .inr (set, rest)
  | level :: outer => .inl { level := level.push set, outer, rest }

def step? (r : Reading) (free : Bool) :
    Option (Reading ⊕ (CharSet × List Char)) :=
  let operator (rest : List Char) : Option (Reading ⊕ (CharSet × List Char)) :=
    some (.inl { r with level := r.level.operator, rest })
  match skipSpacing free r.rest with
  | [] => none
  | '-' :: rest =>
    if r.level.atStart then
      let r := r.push (.range '-' '-') rest
      some (.inl { r with level.atStart := true })
    else
      match rest with
      | '-' :: rest => operator rest
      | _ => (r.takeRange? free ('-' :: rest)).map .inl
  | ']' :: rest =>
    if r.level.atStart && r.level.items.isEmpty then
      some (.inl (r.push (.range ']' ']') rest))
    else some (r.close rest)
  | '[' :: rest =>
    match named? rest with
    | some (set, rest) => some (.inl (r.push set rest))
    | none =>
      let level := { r.level with atStart := false }
      some (.inl (start free (level :: r.outer) rest))
  | '&' :: '&' :: rest => operator rest
  | '~' :: '~' :: rest => operator rest
  | rest => (r.takeRange? free rest).map .inl

/-- Go on to the end of the outermost bracket, in at most so many steps. -/
def finish? (free : Bool) : Nat → Reading → Option (CharSet × List Char)
  | 0, _ => none
  | steps + 1, r =>
    match r.step? free with
    | none => none
    | some (.inl r) => r.finish? free steps
    | some (.inr result) => some result

end Reading

/-- The set whose opening bracket has been read. -/
def read? (free : Bool) (cs : List Char) : Option (CharSet × List Char) :=
  (Reading.start free [] cs).finish? free cs.length

end CharSet

/-! ## Groups -/

/-- Flags up to a colon or a closing parenthesis. Those after a hyphen are
cleared, and there has to be one of them. -/
def flagChange? (change : FlagChange) (clearing : Bool) :
    List Char → Option (FlagChange × List Char)
  | [] => none
  | ':' :: rest => some (change, ':' :: rest)
  | ')' :: rest => some (change, ')' :: rest)
  | '-' :: c :: rest =>
    if clearing || c == ':' || c == ')' then none
    else flagChange? change true (c :: rest)
  | c :: rest => do
    let flag ← Flag.ofLetter? c
    guard (!change.mentions flag)
    let change :=
      if clearing then { change with cleared := flag :: change.cleared }
      else { change with set := flag :: change.set }
    flagChange? change clearing rest

def isNameStart (c : Char) : Bool :=
  c == '_' || isAlphabetic c

def isNamePart (c : Char) : Bool :=
  c == '_' || c == '.' || c == '[' || c == ']' || isAlphanumeric c

/-- A group's name, up to the sign that ends it. -/
def groupName? (cs : List Char) : Option (List Char × List Char) :=
  match cs.span (· != '>') with
  | (c :: name, _ :: rest) =>
    if isNameStart c && name.all isNamePart then some (c :: name, rest)
    else none
  | _ => none

namespace Pattern

/-- What is known of an open group: its flags and choices, and the parts of
its last choice, all of them the latest first. -/
structure Level where
  change : FlagChange := {}
  free : Bool := false
  choices : List Pattern := []
  parts : List Pattern := []

namespace Level

def push (level : Level) (part : Pattern) : Level :=
  { level with parts := part :: level.parts }

def nextChoice (level : Level) : Level :=
  { level with
    choices := ofSequence level.parts.reverse :: level.choices, parts := [] }

def contents (level : Level) : Pattern :=
  ofChoices level.nextChoice.choices.reverse

/-- Repeat the last part, if it can be repeated. -/
def repeatLast? (level : Level) : Option Level :=
  match level.parts with
  | [] => none
  | flags _ :: _ => none
  | part :: parts => some { level with parts := repeated part :: parts }

end Level

structure Reading where
  level : Level := {}
  outer : List Level := []
  /-- The names of groups so far. -/
  names : List (List Char) := []
  rest : List Char

namespace Reading

def push (r : Reading) (part : Pattern) (rest : List Char) : Reading :=
  { r with level := r.level.push part, rest }

def openGroup (r : Reading) (change : FlagChange) (rest : List Char) :
    Reading :=
  let free := change.apply .freeSpacing r.level.free
  { r with level := { change, free }, outer := r.level :: r.outer, rest }

/-- Open a group with a name of its own. -/
def openNamed? (r : Reading) (cs : List Char) : Option Reading := do
  let (name, rest) ← groupName? cs
  guard (!r.names.contains name)
  return { r.openGroup {} rest with names := name :: r.names }

/-- Take what follows an opening parenthesis: a name or flags of the group,
or flags for the rest of the group around it. -/
def openParenthesis? (r : Reading) (cs : List Char) : Option Reading :=
  match skipSpacing r.level.free cs with
  | '?' :: 'P' :: '<' :: rest => r.openNamed? rest
  | '?' :: '<' :: rest => r.openNamed? rest
  | '?' :: rest => do
    match ← flagChange? {} false rest with
    | (change, ':' :: rest) => return r.openGroup change rest
    | (change, _ :: rest) =>
      guard (change != {})
      let free := change.apply .freeSpacing r.level.free
      return { r.push (flags change) rest with
        level := { r.level.push (flags change) with free } }
    | (_, []) => none
  | rest => some (r.openGroup {} rest)

def closeGroup? (r : Reading) (rest : List Char) : Option Reading :=
  match r.outer with
  | [] => none
  | level :: outer =>
    let part := group r.level.change r.level.contents
    some { r with level := level.push part, outer, rest }

/-- Repeat the last part. A question mark after the sign changes only which
repetition comes first. -/
def repeatLast? (r : Reading) (cs : List Char) : Option Reading := do
  let level ← r.level.repeatLast?
  let rest := match cs with
    | '?' :: rest => rest
    | rest => rest
  return { r with level, rest }

/-- Take the next part. At the end of the text there is none. -/
def step? (r : Reading) (c : Char) (rest : List Char) : Option Reading :=
  match c with
  | '(' => r.openParenthesis? rest
  | ')' => r.closeGroup? rest
  | '|' => some { r with level := r.level.nextChoice, rest }
  | '[' => do
    let (s, rest) ← CharSet.read? r.level.free rest
    return r.push (set s) rest
  | '?' => r.repeatLast? rest
  | '*' => r.repeatLast? rest
  | '+' => r.repeatLast? rest
  | '\x7b' => none
  | '\\' => do
    let (part, rest) ← escape? r.level.free rest
    return r.push part rest
  | '.' => some (r.push anything rest)
  | '^' => some (r.push edge rest)
  | '$' => some (r.push edge rest)
  | _ => some (r.push (literal c false) rest)

/-- Go on to the end of the text, in at most so many steps. All groups have
to be closed there. -/
def finish? : Nat → Reading → Option Pattern
  | steps, r =>
    match skipSpacing r.level.free r.rest, steps with
    | [], _ => if r.outer.isEmpty then some r.level.contents else none
    | _ :: _, 0 => none
    | c :: rest, steps + 1 => (r.step? c rest).bind (finish? steps)

end Reading

def read? (text : List Char) : Option Pattern :=
  Reading.finish? text.length { rest := text }

end Pattern

end S100.Text
