/-!
# TOML documents

What a TOML text says, as far as settings are concerned: texts, whole
numbers, arrays and tables are kept, and all other values are `other`.

A document is not yet a tree. It is a list of entries, followed by
sections with entries of their own, each in the order of the text. An
entry's key is a list of names, one for each part between dots; two
entries of one table are in conflict when one key continues the other
(`Compatible`).
-/

namespace S100.Toml

inductive Value where
  | string (text : String)
  | integer (value : Int)
  | array (items : List Value)
  | table (entries : List (List String × Value))
  | other

abbrev Entry := List String × Value

/-- A `[name]` or, when repeated, a `[[name]]` with what follows it. -/
structure Section where
  name : List String
  repeated : Bool
  entries : List Entry

structure Document where
  root : List Entry
  sections : List Section

/-- No key of the table continues another. -/
def Compatible : List Entry → Bool
  | [] => true
  | (key, _) :: rest =>
    rest.all (fun (other, _) =>
        !key.isPrefixOf other && !other.isPrefixOf key)
      && Compatible rest

end S100.Toml
