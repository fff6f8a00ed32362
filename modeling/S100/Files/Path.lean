/-!
# Paths

A path is a text whose names are divided by slashes. Nothing here looks at
a file system: paths are put together and taken apart as they are written,
and they are not tidied up. Empty names and single dots, except for a dot
at the very start, name nothing and are passed over.
-/

namespace S100.Path

def isAbsolute (path : String) : Bool :=
  path.startsWith "/"

/-- A path as seen from a directory. An absolute one stays as it is. -/
def join (base path : String) : String :=
  if isAbsolute path || base.isEmpty then path
  else if base.endsWith "/" then base ++ path
  else base ++ "/" ++ path

/-- The names between the slashes, in order. -/
def names (path : String) : List String :=
  path.splitOn "/"

/-- Whether a name names nothing. -/
def isIdle (name : String) : Bool :=
  name.isEmpty || name == "."

/-- Names in reverse, from the last one that names something. -/
def fromLast : List String → List String
  | [] => []
  | name :: earlier => if isIdle name then fromLast earlier else name :: earlier

/-- As `fromLast`, but the first name of a relative path always counts. -/
def fromLastOrFirst : List String → List String
  | [] => []
  | [first] => [first]
  | name :: earlier =>
    if isIdle name then fromLastOrFirst earlier else name :: earlier

def rejoin (reversed : List String) : String :=
  "/".intercalate reversed.reverse

/-- The path without its last name: the directory that a path leads into.
The root and the empty path have none. -/
def parent (path : String) : Option String :=
  match names path with
  | "" :: rest =>
    match fromLast rest.reverse with
    | [] => none
    | _ :: earlier => some ("/" ++ rejoin (fromLast earlier))
  | all =>
    match fromLastOrFirst all.reverse with
    | [] => none
    | _ :: earlier => some (rejoin (fromLastOrFirst earlier))

end S100.Path
