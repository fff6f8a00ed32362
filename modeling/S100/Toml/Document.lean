import S100.Toml.Scalar

/-!
# Reading TOML documents

A document is read line by line: an entry, or the head of a section. Where
values nest, and where lines follow each other, every few steps take at
least one character, so that a number of steps in proportion to the whole
text is enough for each line of it.
-/

namespace S100.Toml

/-! ## Values -/

mutual

/-- A value, with `depth` levels of nesting still allowed. -/
def value? : Nat → Nat → List Char → Option (Value × List Char)
  | 0, _, _ => none
  | steps + 1, depth, cs =>
    match cs with
    | '"' :: _ | '\'' :: _ =>
      (text? cs).map fun (text, rest) => (.string text, rest)
    | '[' :: rest =>
      match depth with
      | 0 => none
      | depth + 1 => do
        let (items, rest) ← items? steps depth (skipGap false rest)
        return (.array items, rest)
    | '{' :: rest =>
      match depth with
      | 0 => none
      | depth + 1 =>
        match skipSpaces rest with
        | '}' :: rest => some (.table [], rest)
        | rest => do
          let (entries, rest) ← entries? steps depth rest
          if Compatible entries then return (.table entries, rest) else none
    | _ => word? cs

/-- The items of an array up to its closing bracket. A comma may follow
the last one. -/
def items? : Nat → Nat → List Char → Option (List Value × List Char)
  | 0, _, _ => none
  | steps + 1, depth, cs =>
    match cs with
    | ']' :: rest => some ([], rest)
    | _ => do
      let (item, rest) ← value? steps depth cs
      match skipGap false rest with
      | ',' :: rest =>
        let (items, rest) ← items? steps depth (skipGap false rest)
        return (item :: items, rest)
      | ']' :: rest => return ([item], rest)
      | _ => none

/-- The entries of an inline table up to its closing brace. -/
def entries? : Nat → Nat → List Char → Option (List Entry × List Char)
  | 0, _, _ => none
  | steps + 1, depth, cs => do
    let (entry, rest) ← entry? steps depth cs
    match skipSpaces rest with
    | ',' :: rest =>
      let (entries, rest) ← entries? steps depth (skipSpaces rest)
      return (entry :: entries, rest)
    | '}' :: rest => return ([entry], rest)
    | _ => none

/-- A key, an equals sign and a value. -/
def entry? : Nat → Nat → List Char → Option (Entry × List Char)
  | 0, _, _ => none
  | steps + 1, depth, cs => do
    let (key, rest) ← key? cs
    let rest ← char? '=' rest
    let (value, rest) ← value? steps depth (skipSpaces rest)
    return ((key, value), rest)

end

/-! ## Lines -/

/-- One line of a document. -/
inductive Line where
  | blank
  | entry (entry : Entry)
  | head (name : List String) (repeated : Bool)

def line? (steps : Nat) (cs : List Char) : Option (Line × List Char) :=
  match skipSpaces cs with
  | '[' :: '[' :: rest => do
    let (name, rest) ← key? rest
    let rest ← char? ']' rest >>= char? ']'
    return (.head name true, rest)
  | '[' :: rest => do
    let (name, rest) ← key? rest
    let rest ← char? ']' rest
    return (.head name false, rest)
  | [] => some (.blank, [])
  | c :: rest =>
    if c == '#' || c == '\n' || c == '\r' then some (.blank, c :: rest)
    else do
      let (entry, rest) ← entry? steps (nestingLimit - 1) (c :: rest)
      return (.entry entry, rest)

/-- The lines of a text, each read in at most `steps` steps. -/
def lines? (steps : Nat) : Nat → List Char → Option (List Line)
  | 0, _ => none
  | _ + 1, [] => some []
  | count + 1, cs => do
    let (line, rest) ← line? steps cs
    let rest ← lineEnd? rest
    return line :: (← lines? steps count rest)

/-- Put lines together, from the last to the first. -/
def gather : List Line → Document
  | [] => ⟨[], []⟩
  | line :: rest =>
    let { root, sections } := gather rest
    match line with
    | .blank => ⟨root, sections⟩
    | .entry entry => ⟨entry :: root, sections⟩
    | .head name repeated => ⟨[], ⟨name, repeated, root⟩ :: sections⟩

/-- Read a document. A byte order mark in front is passed over. -/
def Document.read? (text : String) : Option Document := do
  let cs := match text.toList with
    | '\ufeff' :: rest => rest
    | cs => cs
  let size := cs.length
  let document := gather (← lines? (4 * size + 4) (size + 1) cs)
  guard (Compatible document.root
    && document.sections.all fun s => Compatible s.entries)
  return document

end S100.Toml
