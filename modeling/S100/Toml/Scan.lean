/-!
# Characters, blanks and texts of TOML

Readers take what they know from the front of a list of characters and
hand back the rest. Skipping never fails; reading can.
-/

namespace S100.Toml

/-- What may stand in comments and texts: everything but controls, and the
tab. -/
def isText (c : Char) : Bool :=
  c == '\t' || (0x20 ≤ c.toNat && c.toNat != 0x7F)

def isSpace (c : Char) : Bool :=
  c == ' ' || c == '\t'

def skipSpaces (cs : List Char) : List Char :=
  cs.dropWhile isSpace

/-- What follows a line break. -/
def newline? : List Char → Option (List Char)
  | '\n' :: rest => some rest
  | '\r' :: '\n' :: rest => some rest
  | _ => none

/-- What follows the end of a line: blanks, perhaps a comment, and a line
break or the end of the text. -/
def lineEnd? (cs : List Char) : Option (List Char) :=
  let cs := match skipSpaces cs with
    | '#' :: comment => comment.dropWhile isText
    | cs => cs
  if cs.isEmpty then some [] else newline? cs

/-- Skip blanks, line breaks and comments. -/
def skipGap (inComment : Bool) : List Char → List Char
  | [] => []
  | '\n' :: rest => skipGap false rest
  | '\r' :: '\n' :: rest => skipGap false rest
  | c :: rest =>
    if inComment && isText c then skipGap true rest
    else if inComment then c :: rest
    else if c == '#' then skipGap true rest
    else if isSpace c then skipGap false rest
    else c :: rest

/-! ## Escapes -/

def hexValue? (c : Char) : Option Nat :=
  if c.isDigit then some (c.toNat - '0'.toNat)
  else if 'a' ≤ c && c ≤ 'f' then some (c.toNat - 'a'.toNat + 10)
  else if 'A' ≤ c && c ≤ 'F' then some (c.toNat - 'A'.toNat + 10)
  else none

/-- The character with the given hexadecimal code point, if it is one. -/
def codePoint? (digits : List Char) : Option Char := do
  let n ← digits.foldlM (fun n c => (hexValue? c).map (16 * n + ·)) 0
  if n < 0xD800 ∨ (0xDFFF < n ∧ n < 0x110000) then some (Char.ofNat n)
  else none

def simpleEscape? : Char → Option Char
  | 'b' => some '\x08'
  | 't' => some '\t'
  | 'n' => some '\n'
  | 'f' => some '\x0c'
  | 'r' => some '\r'
  | '"' => some '"'
  | '\\' => some '\\'
  | _ => none

/-- Put a character in front of a text that was read. -/
def prepend (c : Char) (r : List Char × List Char) : List Char × List Char :=
  (c :: r.1, r.2)

/-! ## Texts -/

/-- The rest of a text between double quotes. -/
def basicText? : List Char → Option (List Char × List Char)
  | [] => none
  | '"' :: rest => some ([], rest)
  | '\\' :: 'u' :: a :: b :: c :: d :: rest => do
    return prepend (← codePoint? [a, b, c, d]) (← basicText? rest)
  | '\\' :: 'U' :: a :: b :: c :: d :: e :: f :: g :: h :: rest => do
    return prepend (← codePoint? [a, b, c, d, e, f, g, h]) (← basicText? rest)
  | '\\' :: c :: rest => do
    return prepend (← simpleEscape? c) (← basicText? rest)
  | c :: rest => do
    guard (isText c && c != '\\')
    return prepend c (← basicText? rest)

/-- The rest of a text between single quotes, which has no escapes. -/
def literalText? : List Char → Option (List Char × List Char)
  | [] => none
  | '\'' :: rest => some ([], rest)
  | c :: rest => do
    guard (isText c)
    return prepend c (← literalText? rest)

/-- The rest of a text between triple double quotes. A backslash at the
end of a line takes the blanks and line breaks after it away; `skipping`
says that this is going on. Up to two quotes may stand before the closing
three. -/
def multilineText? (skipping : Bool) :
    List Char → Option (List Char × List Char)
  | [] => none
  | '"' :: '"' :: '"' :: '"' :: '"' :: rest => some (['"', '"'], rest)
  | '"' :: '"' :: '"' :: '"' :: rest => some (['"'], rest)
  | '"' :: '"' :: '"' :: rest => some ([], rest)
  | '\n' :: rest =>
    if skipping then multilineText? true rest
    else (multilineText? false rest).map (prepend '\n')
  | '\r' :: '\n' :: rest =>
    if skipping then multilineText? true rest
    else (multilineText? false rest).map (prepend '\n')
  | '\\' :: 'u' :: a :: b :: c :: d :: rest => do
    return prepend (← codePoint? [a, b, c, d]) (← multilineText? false rest)
  | '\\' :: 'U' :: a :: b :: c :: d :: e :: f :: g :: h :: rest => do
    return prepend (← codePoint? [a, b, c, d, e, f, g, h])
      (← multilineText? false rest)
  | '\\' :: c :: rest =>
    match simpleEscape? c with
    | some c => (multilineText? false rest).map (prepend c)
    | none => do
      guard (newline? (skipSpaces (c :: rest))).isSome
      multilineText? true (c :: rest)
  | c :: rest => do
    guard (isText c && c != '\\')
    if skipping && isSpace c then multilineText? true rest
    else return prepend c (← multilineText? false rest)

/-- The rest of a text between triple single quotes. -/
def multilineLiteral? : List Char → Option (List Char × List Char)
  | [] => none
  | '\'' :: '\'' :: '\'' :: '\'' :: '\'' :: rest => some (['\'', '\''], rest)
  | '\'' :: '\'' :: '\'' :: '\'' :: rest => some (['\''], rest)
  | '\'' :: '\'' :: '\'' :: rest => some ([], rest)
  | '\n' :: rest => (multilineLiteral? rest).map (prepend '\n')
  | '\r' :: '\n' :: rest => (multilineLiteral? rest).map (prepend '\n')
  | c :: rest => do
    guard (isText c)
    return prepend c (← multilineLiteral? rest)

/-- A line break right after opening quotes belongs to them. -/
def dropFirstNewline (cs : List Char) : List Char :=
  (newline? cs).getD cs

/-- A text in any of its four forms. -/
def text? (cs : List Char) : Option (String × List Char) :=
  let read := match cs with
    | '"' :: '"' :: '"' :: rest =>
      multilineText? false (dropFirstNewline rest)
    | '"' :: rest => basicText? rest
    | '\'' :: '\'' :: '\'' :: rest =>
      multilineLiteral? (dropFirstNewline rest)
    | '\'' :: rest => literalText? rest
    | _ => none
  read.map fun (text, rest) => (String.ofList text, rest)

/-! ## Keys -/

def isBare (c : Char) : Bool :=
  c.isAlphanum || c == '_' || c == '-'

/-- One part of a key. -/
def keyPart? (cs : List Char) : Option (String × List Char) :=
  match cs with
  | '"' :: rest =>
    (basicText? rest).map fun (text, rest) => (String.ofList text, rest)
  | '\'' :: rest =>
    (literalText? rest).map fun (text, rest) => (String.ofList text, rest)
  | _ =>
    let (name, rest) := cs.span isBare
    if name.isEmpty then none else some (String.ofList name, rest)

/-- Keys have fewer parts than this, and values are nested less deep. -/
def nestingLimit : Nat := 80

/-- The parts of a key, at most `count`, and the blanks around them. -/
def keyParts? : Nat → List Char → Option (List String × List Char)
  | 0, _ => none
  | count + 1, cs => do
    let (part, rest) ← keyPart? (skipSpaces cs)
    match skipSpaces rest with
    | '.' :: rest =>
      let (parts, rest) ← keyParts? count rest
      return (part :: parts, rest)
    | rest => return ([part], rest)

def key? : List Char → Option (List String × List Char) :=
  keyParts? (nestingLimit - 1)

end S100.Toml
