/-!
# Patterns

Regular expressions, as far as it matters whether they can be used.

Flags change how what follows them is understood, up to the end of the
group that they are in. Two of them matter: whether letters match in either
case, and whether the text is taken as characters of Unicode (`Modes`).

A pattern can be used (`Pattern.isUsable`) if it is not nested too deep and
asks for nothing unknown (`Pattern.check`):

* which characters are digits, blanks or parts of words, and which letters
  are the same in another case, is known for ASCII only;
* where characters are not those of Unicode, they are bytes, and no part of
  a pattern may match just a part of a character that takes several.
-/

namespace S100.Text

/-! ## Flags -/

inductive Flag where
  | ignoreCase
  | multiLine
  | dotAll
  | swapGreed
  | unicode
  | carriageReturns
  | freeSpacing
deriving DecidableEq, Repr

def Flag.ofLetter? : Char → Option Flag
  | 'i' => some ignoreCase
  | 'm' => some multiLine
  | 's' => some dotAll
  | 'U' => some swapGreed
  | 'u' => some unicode
  | 'R' => some carriageReturns
  | 'x' => some freeSpacing
  | _ => none

/-- Flags that are set and flags that are cleared. -/
structure FlagChange where
  set : List Flag := []
  cleared : List Flag := []
deriving DecidableEq, Repr

namespace FlagChange

def mentions (change : FlagChange) (flag : Flag) : Bool :=
  change.set.contains flag || change.cleared.contains flag

def apply (change : FlagChange) (flag : Flag) (before : Bool) : Bool :=
  if change.set.contains flag then true
  else if change.cleared.contains flag then false
  else before

end FlagChange

structure Modes where
  ignoreCase : Bool := false
  unicode : Bool := true
deriving DecidableEq, Repr

def Modes.change (m : Modes) (change : FlagChange) : Modes where
  ignoreCase := change.apply .ignoreCase m.ignoreCase
  unicode := change.apply .unicode m.unicode

/-! ## Sets of characters -/

/-- What can stand between brackets. A single character is a range. -/
inductive CharSet where
  | empty
  | range (first last : Char)
  /-- A set of ASCII characters that has a name, or those not in it. -/
  | named (negated : Bool)
  /-- Digits, blanks or parts of words, or the characters that are not. -/
  | kind (negated : Bool)
  | bracketed (negated : Bool) (set : CharSet)
  | union (sets : List CharSet)
  /-- What two sets have in common, or do not have in common. -/
  | combined (left right : CharSet)

namespace CharSet

/-- One set out of several. -/
def ofList : List CharSet → CharSet
  | [] => empty
  | [set] => set
  | sets => union sets

mutual

def depth : CharSet → Nat
  | bracketed _ set => set.depth + 1
  | union sets => maxDepth sets + 1
  | combined left right => max left.depth right.depth + 1
  | _ => 0

def maxDepth : List CharSet → Nat
  | [] => 0
  | set :: sets => max set.depth (maxDepth sets)

end

mutual

/-- Whether it is known what is in the set. As bytes, only ASCII characters
are sure to be whole, and what is not in a set is not. -/
def isKnown (m : Modes) : CharSet → Bool
  | empty => true
  | range _ last => if m.unicode then !m.ignoreCase else last.toNat < 0x80
  | named negated => if m.unicode then !m.ignoreCase else !negated
  | kind negated => !m.unicode && !negated
  | bracketed negated set => (m.unicode || !negated) && set.isKnown m
  | union sets => allKnown m sets
  | combined left right => left.isKnown m && right.isKnown m

def allKnown (m : Modes) : List CharSet → Bool
  | [] => true
  | set :: sets => set.isKnown m && allKnown m sets

end

end CharSet

/-! ## Patterns -/

inductive Pattern where
  | flags (change : FlagChange)
  /-- A character, perhaps given by the value of a byte. -/
  | literal (c : Char) (byByte : Bool)
  | anything
  /-- The start or the end of a line or of the text. -/
  | edge
  /-- The start or the end of a word, or the lack of it. -/
  | wordEdge
  /-- Digits, blanks or parts of words, or the characters that are not. -/
  | kind (negated : Bool)
  | set (set : CharSet)
  | repeated (pattern : Pattern)
  | group (change : FlagChange) (pattern : Pattern)
  | sequence (patterns : List Pattern)
  | choice (patterns : List Pattern)

namespace Pattern

def ofSequence : List Pattern → Pattern
  | [pattern] => pattern
  | patterns => sequence patterns

def ofChoices : List Pattern → Pattern
  | [pattern] => pattern
  | patterns => choice patterns

mutual

/-- How deep a pattern is nested. -/
def depth : Pattern → Nat
  | set s => s.depth
  | repeated pattern => pattern.depth + 1
  | group _ pattern => pattern.depth + 1
  | sequence [] => 0
  | sequence patterns => maxDepth patterns + 1
  | choice patterns => maxDepth patterns + 1
  | _ => 0

def maxDepth : List Pattern → Nat
  | [] => 0
  | pattern :: patterns => max pattern.depth (maxDepth patterns)

end

mutual

/-- The modes after a pattern, unless it asks for what is unknown. -/
def check (m : Modes) : Pattern → Option Modes
  | flags change => some (m.change change)
  | literal c byByte =>
    let isKnown :=
      if m.unicode then !m.ignoreCase else !byByte || c.toNat < 0x80
    if isKnown then some m else none
  | anything => if m.unicode then some m else none
  | edge => some m
  | wordEdge => if m.unicode then none else some m
  | kind negated => if m.unicode || negated then none else some m
  | set s => if s.isKnown m then some m else none
  | repeated pattern => pattern.check m
  | group change pattern => (pattern.check (m.change change)).map fun _ => m
  | sequence patterns => checkAll m patterns
  | choice patterns => checkAll m patterns

/-- Flags of one pattern hold for the next, even of another choice. -/
def checkAll (m : Modes) : List Pattern → Option Modes
  | [] => some m
  | pattern :: patterns => (pattern.check m).bind (checkAll · patterns)

end

def maxNesting : Nat := 250

def isUsable (pattern : Pattern) : Bool :=
  pattern.depth ≤ maxNesting && (pattern.check {}).isSome

end Pattern

end S100.Text
