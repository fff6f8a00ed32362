import S100.Files.Tree

/-!
# What a write does to a file tree

A write is sent along a path, and a file can be reached along more than one.
Names and directories stay as they are, so that every walk comes to the same
place after a write as before it (`walk_replace`). The write changes the one
file that its path leads to, by whatever path that is looked at, and no other
(`file?_write`).
-/

namespace S100

/-- A file with what a write makes of its contents. -/
def HostFile.written (file : HostFile) (w : FileWrite) : HostFile :=
  { file with bytes := w.apply file.bytes }

namespace FileTree

variable {tree : FileTree} {names : List String} {file after : HostFile}

/-! ## Another file in place of one -/

/-- An entry, with another file if it is for these names. -/
def exchange (names : List String) (after : HostFile)
    (listed : List String × TreeEntry) : List String × TreeEntry :=
  if listed.1 == names then (listed.1, .file after) else listed

theorem fst_exchange (names : List String) (after : HostFile)
    (listed : List String × TreeEntry) :
    (exchange names after listed).1 = listed.1 := by
  unfold exchange
  split <;> rfl

def replace (tree : FileTree) (names : List String) (after : HostFile) :
    FileTree :=
  { tree with entries := tree.entries.map (exchange names after) }

theorem write_of_file? {w : FileWrite}
    (h : tree.file? w.path = .ok (names, file)) :
    tree.write w = tree.replace names (file.written w) := by
  rw [write, h]
  rfl

theorem find?_replace (other : List String) :
    (tree.replace names after).entries.find? (·.1 == other) =
      (tree.entries.find? (·.1 == other)).map (exchange names after) := by
  rw [replace, List.find?_map]
  congr 2
  funext listed
  exact congrArg (· == other) (fst_exchange names after listed)

theorem any_replace (p : List String → Bool) :
    (tree.replace names after).entries.any (p ·.1) =
      tree.entries.any (p ·.1) := by
  rw [replace, List.any_map]
  congr 1
  funext listed
  exact congrArg p (fst_exchange names after listed)

theorem entry?_replace (h : tree.entry? names = some (.file file))
    (other : List String) :
    FileTree.entry? (tree.replace names after) other =
      if other = names then some (.file after) else tree.entry? other := by
  unfold entry? at h ⊢
  rw [find?_replace, any_replace (other.isPrefixOf ·)]
  cases hfind : tree.entries.find? (·.1 == other) with
  | none =>
      -- a file is listed under its names
      have hother : other ≠ names := by
        rintro rfl
        rw [hfind] at h
        dsimp only at h
        split at h
        · cases h
        · cases h
      rw [if_neg hother]
      rfl
  | some listed =>
      have hkey : listed.1 = other := by
        simpa using List.find?_some hfind
      rw [Option.map_some]
      unfold exchange
      rw [hkey]
      by_cases hother : other = names
      · rw [if_pos hother, if_pos (by simpa using hother)]
      · rw [if_neg hother, if_neg (by simpa using hother)]

/-! ## Walks -/

/-- The place that an entry makes of some names. -/
def Place.ofEntry (reversed : List String) :
    Option TreeEntry → Except Fault Place
  | none => .error .notFound
  | some (.file file) => .ok (.inside reversed (some file))
  | some .directory => .ok (.inside reversed none)

/-- No file is at the place. -/
def Place.IsOpen : Place → Prop
  | .inside _ (some _) => False
  | _ => True

/-- Where a name leads does not depend on the tree, or only on one of its
entries. -/
theorem walkName_cases (place : Place) (name : String) :
    (∃ fault, ∀ tree : FileTree, tree.walkName place name = .error fault)
      ∨ (∃ next : Place, next.IsOpen
        ∧ ∀ tree : FileTree, tree.walkName place name = .ok next)
      ∨ ∃ reversed, ∀ tree : FileTree, tree.walkName place name =
        Place.ofEntry reversed (tree.entry? reversed.reverse) := by
  cases place with
  | outside =>
      by_cases hstays : (Path.isIdle name || name == "..") = true
      · exact .inr (.inl ⟨.outside, trivial, fun tree => if_pos hstays⟩)
      · by_cases hlong : maxName < name.utf8ByteSize
        · exact .inl ⟨_, fun tree => (if_neg hstays).trans (if_pos hlong)⟩
        · exact .inl ⟨_, fun tree => (if_neg hstays).trans (if_neg hlong)⟩
  | inside reversed here =>
      cases here with
      | some file => exact .inl ⟨_, fun tree => rfl⟩
      | none =>
          by_cases hidle : Path.isIdle name = true
          · exact .inr (.inl ⟨.inside reversed none, trivial,
              fun tree => if_pos hidle⟩)
          by_cases hup : (name == "..") = true
          · cases reversed with
            | nil =>
                exact .inr (.inl ⟨.outside, trivial,
                  fun tree => (if_neg hidle).trans (if_pos hup)⟩)
            | cons last above =>
                exact .inr (.inl ⟨.inside above none, trivial,
                  fun tree => (if_neg hidle).trans (if_pos hup)⟩)
          by_cases hlong : maxName < name.utf8ByteSize
          · exact .inl ⟨_, fun tree =>
              (if_neg hidle).trans ((if_neg hup).trans (if_pos hlong))⟩
          refine .inr (.inr ⟨name :: reversed, fun tree => ?_⟩)
          refine (if_neg hidle).trans ((if_neg hup).trans
            ((if_neg hlong).trans ?_))
          rcases tree.entry? (name :: reversed).reverse with _ | _ | file
          · rfl
          · rfl
          · rfl

/-- The place with the other file, if that is where the file is. -/
def Place.replace (names : List String) (after : HostFile) : Place → Place
  | .inside reversed (some file) =>
    .inside reversed
      (some (if reversed.reverse = names then after else file))
  | place => place

theorem Place.replace_of_isOpen {place : Place} (h : place.IsOpen) :
    place.replace names after = place := by
  cases place with
  | outside => rfl
  | inside reversed here =>
      cases here with
      | none => rfl
      | some file => exact h.elim

theorem ofEntry_replace (h : tree.entry? names = some (.file file))
    (reversed : List String) :
    Place.ofEntry reversed
        (FileTree.entry? (tree.replace names after) reversed.reverse) =
      (Place.ofEntry reversed (tree.entry? reversed.reverse)).map
        (Place.replace names after) := by
  rw [entry?_replace h]
  by_cases hnames : reversed.reverse = names
  · rw [if_pos hnames, hnames, h]
    simp only [Place.ofEntry, Except.map, Place.replace, if_pos hnames]
  · rw [if_neg hnames]
    rcases tree.entry? reversed.reverse with _ | _ | other
    · rfl
    · simp only [Place.ofEntry, Except.map, Place.replace, if_neg hnames]
    · rfl

theorem walkName_replace (h : tree.entry? names = some (.file file))
    (place : Place) (name : String) :
    (tree.replace names after).walkName (place.replace names after) name =
      (tree.walkName place name).map (Place.replace names after) := by
  -- A name never leads on from a file, whichever file it is.
  have hplace (other : FileTree) :
      other.walkName (place.replace names after) name =
        other.walkName place name := by
    cases place with
    | outside => rfl
    | inside reversed here => cases here <;> rfl
  rw [hplace]
  rcases walkName_cases place name with
    ⟨fault, hall⟩ | ⟨next, hopen, hall⟩ | ⟨reversed, hall⟩
  · rw [hall, hall]
    rfl
  · rw [hall, hall]
    exact congrArg Except.ok (Place.replace_of_isOpen hopen).symm
  · rw [hall, hall, ofEntry_replace h]

theorem foldlM_walkName_replace (h : tree.entry? names = some (.file file))
    (path : List String) (place : Place) :
    path.foldlM (tree.replace names after).walkName
        (place.replace names after) =
      (path.foldlM tree.walkName place).map (Place.replace names after) := by
  induction path generalizing place with
  | nil => rfl
  | cons name rest ih =>
      rw [List.foldlM_cons, List.foldlM_cons, walkName_replace h]
      cases tree.walkName place name with
      | error fault => rfl
      | ok place => exact ih place

theorem walk_replace (h : tree.entry? names = some (.file file))
    (path : String) :
    (tree.replace names after).walk path =
      (tree.walk path).map (Place.replace names after) := by
  have hstart : ∀ absolute : Bool,
      (if absolute then Place.outside else .inside [] none) =
        (if absolute then Place.outside else .inside [] none).replace names
          after := by
    intro absolute
    cases absolute <;> rfl
  unfold walk
  split
  · rfl
  · split
    · rfl
    · split
      · rfl
      · dsimp only
        rw [← foldlM_walkName_replace h, ← hstart]

/-! ## Files -/

/-- A file at a place is listed in the tree. -/
def Place.Listed (tree : FileTree) : Place → Prop
  | .inside reversed (some file) =>
    tree.entry? reversed.reverse = some (.file file)
  | _ => True

theorem Place.listed_of_isOpen {place : Place} (h : place.IsOpen) :
    place.Listed tree := by
  cases place with
  | outside => trivial
  | inside reversed here =>
      cases here with
      | none => trivial
      | some file => exact h.elim

theorem listed_walkName {place next : Place} {name : String}
    (h : tree.walkName place name = .ok next) : next.Listed tree := by
  rcases walkName_cases place name with
    ⟨fault, hall⟩ | ⟨there, hopen, hall⟩ | ⟨reversed, hall⟩
  · rw [hall] at h
    cases h
  · rw [hall] at h
    cases h
    exact Place.listed_of_isOpen hopen
  · rw [hall] at h
    cases hentry : tree.entry? reversed.reverse with
    | none =>
        rw [hentry] at h
        cases h
    | some entry =>
        rw [hentry] at h
        cases entry with
        | directory =>
            cases h
            trivial
        | file file =>
            cases h
            exact hentry

theorem listed_foldlM {path : List String} {place last : Place}
    (hplace : place.Listed tree)
    (h : path.foldlM tree.walkName place = .ok last) : last.Listed tree := by
  induction path generalizing place with
  | nil =>
      cases h
      exact hplace
  | cons name rest ih =>
      rw [List.foldlM_cons] at h
      cases hnext : tree.walkName place name with
      | error fault =>
          rw [hnext] at h
          cases h
      | ok next =>
          rw [hnext] at h
          exact ih (listed_walkName hnext) h

theorem listed_walk {path : String} {last : Place}
    (h : tree.walk path = .ok last) : last.Listed tree := by
  unfold walk at h
  split at h
  · cases h
  · split at h
    · cases h
    · split at h
      · cases h
      · refine listed_foldlM ?_ h
        split
        · trivial
        · trivial

/-- The file that a path leads to is listed under the names on the way. -/
theorem listed_of_file? {path : String}
    (h : tree.file? path = .ok (names, file)) :
    tree.entry? names = some (.file file) := by
  unfold file? at h
  split at h
  · cases h
  · rename_i reversed found hwalk
    cases h
    exact listed_walk hwalk
  · cases h

/-- A write changes the file that its path leads to, and no other. -/
theorem file?_write {w : FileWrite}
    (h : tree.file? w.path = .ok (names, file)) (path : String) :
    (tree.write w).file? path =
      (tree.file? path).map fun found =>
        (found.1, if found.1 = names then file.written w else found.2) := by
  rw [write_of_file? h, file?, file?, walk_replace (listed_of_file? h)]
  cases tree.walk path with
  | error fault => rfl
  | ok place =>
      cases place with
      | outside => rfl
      | inside reversed here =>
          cases here with
          | none => rfl
          | some other => rfl

/-- Writes along one path make of its file what they make of its contents. -/
theorem file?_foldl_write {path : String} {writes : List FileWrite}
    (h : tree.file? path = .ok (names, file))
    (hpath : ∀ w ∈ writes, w.path = path) :
    (writes.foldl FileTree.write tree).file? path =
      .ok (names,
        { file with
          bytes := writes.foldl (fun c w => w.apply c) file.bytes }) := by
  induction writes generalizing tree file with
  | nil => exact h
  | cons w rest ih =>
      obtain ⟨rfl, hrest⟩ := List.forall_mem_cons.mp hpath
      have hwritten := file?_write h w.path
      rw [h] at hwritten
      simp only [Except.map, if_true] at hwritten
      exact ih hwritten hrest

end FileTree

end S100
