import S100.Proofs.Files.Writes
import S100.Proofs.Floppy.Durability

/-!
# A diskette and its file

A diskette that is held in a file is used like one that is only in memory: its
bytes are read and stored, and spans of them are committed. `respond` says what
comes of that. The answers do not depend on the file (`answers_inMemory`).

The file follows from one commit to the next. What is stored in between is not
seen there, and spans that do not lie inside the image are never written; so
each byte of the file is what the diskette held there when a span over it was
last committed (`LastCommitted`), or what it was in the beginning.
`follows_commits` says so of a file in a file tree, at the end of any path.
-/

namespace S100

namespace Diskette

/-! ## What is done with a diskette -/

/-- Something that is done with a diskette, at any offset or over any span. -/
inductive Call where
  | read (offset : Nat)
  | write (offset : Nat) (value : UInt8)
  | commit (span : Span)
deriving DecidableEq

inductive Answer where
  | byte (byte : Option UInt8)
  | stored (stored : Bool)
  | done
deriving DecidableEq

/-- The answer to a call, and the diskette after it. -/
def respond (x : Diskette) : Call → Answer × Diskette
  | .read offset => (.byte (x.read offset), x)
  | .write offset value => (.stored (x.accepts offset), x.write offset value)
  | .commit span => (.done, x.commit span)

/-- What a call has written into the diskette's file, if anything. -/
def noted (x : Diskette) : Call → Option FileWrite
  | .commit span => x.fileWrite? span
  | _ => none

/-- The diskette after some calls. -/
def after (x : Diskette) (calls : List Call) : Diskette :=
  calls.foldl (fun x call => (x.respond call).2) x

def answers (x : Diskette) : List Call → List Answer
  | [] => []
  | call :: rest => (x.respond call).1 :: (x.respond call).2.answers rest

/-- All that some calls have written into the file, oldest first. -/
def writes (x : Diskette) : List Call → List FileWrite
  | [] => []
  | call :: rest => (x.noted call).toList ++ (x.respond call).2.writes rest

variable {x : Diskette} {calls : List Call} {call : Call} {span : Span}
  {i : Nat}

theorem writes_concat (x : Diskette) (calls : List Call) (call : Call) :
    x.writes (calls ++ [call]) =
      x.writes calls ++ ((x.after calls).noted call).toList := by
  induction calls generalizing x with
  | nil => exact List.append_nil _
  | cons first rest ih =>
      rw [List.cons_append, writes, ih, ← List.append_assoc]
      rfl

end Diskette

/-! ## In memory and in a file -/

/-- A diskette from outside: the byte at each offset, as far as there are any,
and whether another can be stored there. -/
structure Store where
  contents : Nat → Option UInt8
  writeProtected : Bool

namespace Store

open Diskette (Call Answer)

def respond (s : Store) : Call → Answer × Store
  | .read offset => (.byte (s.contents offset), s)
  | .write offset value =>
    if s.writeProtected = false ∧ (s.contents offset).isSome then
      (.stored true, { s with
        contents := fun i => if i = offset then some value else s.contents i })
    else (.stored false, s)
  | .commit _ => (.done, s)

def after (s : Store) (calls : List Call) : Store :=
  calls.foldl (fun s call => (s.respond call).2) s

def answers (s : Store) : List Call → List Answer
  | [] => []
  | call :: rest => (s.respond call).1 :: (s.respond call).2.answers rest

end Store

namespace Diskette

variable {x : Diskette} {calls : List Call} {call : Call} {span : Span} {i : Nat}

def store (x : Diskette) : Store :=
  ⟨x.read, x.writeProtected⟩

/-- A diskette with the same bytes and the same protection, in no file. -/
def inMemory (x : Diskette) : Diskette :=
  { bytes := x.bytes, writeProtected := x.writeProtected }

theorem accepts_iff (x : Diskette) (offset : Nat) :
    x.accepts offset = true ↔
      x.writeProtected = false ∧ (x.read offset).isSome = true := by
  rw [accepts, Bool.and_eq_true, Bool.not_eq_true', read,
    Option.isSome_iff_ne_none, ne_eq, Array.getElem?_eq_none_iff,
    Nat.not_le, decide_eq_true_eq]
  rfl

theorem respond_store (x : Diskette) (call : Call) :
    (x.respond call).1 = (x.store.respond call).1
      ∧ (x.respond call).2.store = (x.store.respond call).2 := by
  cases call with
  | read offset => exact ⟨rfl, rfl⟩
  | commit span => exact ⟨rfl, rfl⟩
  | write offset value =>
      have hread (i : Nat) : (x.write offset value).read i =
          if offset = i ∧ x.accepts offset = true then some value
          else x.read i := x.read_write offset i value
      have hprotected := x.writeProtected_write offset value
      by_cases haccepts : x.accepts offset = true
      · have hstored : x.store.respond (.write offset value) = _ :=
          if_pos ((x.accepts_iff offset).mp haccepts)
        rw [hstored]
        refine ⟨congrArg Answer.stored haccepts, ?_⟩
        refine Store.mk.injEq .. |>.mpr ⟨funext fun i => ?_, hprotected⟩
        refine (hread i).trans ?_
        by_cases hi : i = offset
        · rw [if_pos ⟨hi.symm, haccepts⟩, if_pos hi]
        · rw [if_neg fun h => hi h.1.symm, if_neg hi]
          rfl
      · have hstored : x.store.respond (.write offset value) = _ :=
          if_neg (mt (x.accepts_iff offset).mpr haccepts)
        rw [hstored]
        refine ⟨congrArg Answer.stored (Bool.eq_false_iff.mpr haccepts), ?_⟩
        refine Store.mk.injEq .. |>.mpr ⟨funext fun i => ?_, hprotected⟩
        exact (hread i).trans (if_neg fun h => haccepts h.2)

theorem answers_store (x : Diskette) (calls : List Call) :
    x.answers calls = x.store.answers calls := by
  induction calls generalizing x with
  | nil => rfl
  | cons call rest ih =>
      obtain ⟨hanswer, hnext⟩ := x.respond_store call
      rw [answers, ih, Store.answers, hanswer, hnext]

theorem after_store (x : Diskette) (calls : List Call) :
    (x.after calls).store = x.store.after calls := by
  induction calls generalizing x with
  | nil => rfl
  | cons call rest ih =>
      refine (ih _).trans ?_
      rw [(x.respond_store call).2]
      rfl

theorem bytes_after_inMemory (x : Diskette) (calls : List Call) :
    (x.after calls).bytes = (x.inMemory.after calls).bytes := by
  have hstore : (x.after calls).store = (x.inMemory.after calls).store :=
    (x.after_store calls).trans (x.inMemory.after_store calls).symm
  have hread := congrArg Store.contents hstore
  exact Array.ext_getElem? fun i => congrFun hread i

/-! ## What does not change -/

theorem size_respond (x : Diskette) (call : Call) :
    (x.respond call).2.size = x.size := by
  cases call with
  | read offset => rfl
  | write offset value => exact x.size_write offset value
  | commit span => rfl

theorem file_respond (x : Diskette) (call : Call) :
    (x.respond call).2.file = x.file := by
  cases call with
  | read offset => rfl
  | write offset value => exact x.file_write offset value
  | commit span => rfl

theorem writeProtected_respond (x : Diskette) (call : Call) :
    (x.respond call).2.writeProtected = x.writeProtected := by
  cases call with
  | read offset => rfl
  | write offset value => exact x.writeProtected_write offset value
  | commit span => rfl

theorem bytes_respond_of_protected (hprotected : x.writeProtected = true)
    (call : Call) : (x.respond call).2.bytes = x.bytes := by
  cases call with
  | read offset => rfl
  | write offset value =>
      show (x.write offset value).bytes = x.bytes
      rw [write, if_pos hprotected]
  | commit span => rfl

/-- What no call changes is as it was after all of them. -/
theorem after_of_respond {α : Type} {f : Diskette → α}
    (h : ∀ y call, f (y.respond call).2 = f y) (x : Diskette)
    (calls : List Call) : f (x.after calls) = f x := by
  induction calls generalizing x with
  | nil => rfl
  | cons call rest ih => exact (ih _).trans (h x call)

theorem bytes_after_of_protected (hprotected : x.writeProtected = true)
    (calls : List Call) : (x.after calls).bytes = x.bytes := by
  induction calls generalizing x with
  | nil => rfl
  | cons call rest ih =>
      have hrest := ih ((writeProtected_respond x call).trans hprotected)
      exact hrest.trans (bytes_respond_of_protected hprotected call)

/-! ## What is written -/

theorem path_of_noted {w : FileWrite} (h : x.noted call = some w) :
    x.file = some w.path := by
  cases call with
  | commit span => exact (fileWrite?_eq_some h).1
  | read offset => cases h
  | write offset value => cases h

theorem path_of_mem_writes {w : FileWrite} (h : w ∈ x.writes calls) :
    x.file = some w.path := by
  induction calls generalizing x with
  | nil => cases h
  | cons call rest ih =>
      rw [writes, List.mem_append] at h
      rcases h with hfirst | hrest
      · rw [Option.mem_toList] at hfirst
        exact path_of_noted hfirst
      · exact (file_respond x call).symm.trans (ih hrest)

theorem noted_of_protected (hprotected : x.writeProtected = true)
    (call : Call) : x.noted call = none := by
  cases hnoted : x.noted call with
  | none => rfl
  | some w =>
      cases call with
      | commit span =>
          have hwritable := (fileWrite?_eq_some hnoted).2.1
          rw [hprotected] at hwritable
          cases hwritable
      | read offset => cases hnoted
      | write offset value => cases hnoted

theorem writes_of_protected (hprotected : x.writeProtected = true)
    (calls : List Call) : x.writes calls = [] := by
  induction calls generalizing x with
  | nil => rfl
  | cons call rest ih =>
      rw [writes, noted_of_protected hprotected,
        ih ((writeProtected_respond x call).trans hprotected)]
      rfl

/-! ## The file after some calls -/

/-- Contents of a file when writes have been carried out. -/
def carried (contents : Bytes) (writes : List FileWrite) : Bytes :=
  writes.foldl (fun contents w => w.apply contents) contents

theorem carried_append (contents : Bytes) (first rest : List FileWrite) :
    carried contents (first ++ rest) = carried (carried contents first) rest :=
  List.foldl_append

theorem size_carried (contents : Bytes) (writes : List FileWrite) :
    (carried contents writes).size = contents.size := by
  induction writes generalizing contents with
  | nil => rfl
  | cons w rest ih => exact (ih _).trans (w.size_apply contents)

/-- A file that cannot be written stays the image of its diskette. -/
theorem carried_of_protected (hprotected : x.writeProtected = true)
    (calls : List Call) :
    carried x.bytes (x.writes calls) = (x.after calls).bytes := by
  rw [writes_of_protected hprotected, bytes_after_of_protected hprotected]
  rfl

/-- A span lies inside the image and covers an offset. -/
def Covers (x : Diskette) (i : Nat) (span : Span) : Prop :=
  span.stop ≤ x.size ∧ span.start ≤ i ∧ i < span.stop

/-- What a file of the diskette holds at an offset: what the diskette held
there when a span over it was last committed, or what it held before all
calls. -/
def LastCommitted (x : Diskette) (calls : List Call) (i : Nat)
    (byte : Option UInt8) : Prop :=
  (∃ before span later, calls = before ++ .commit span :: later
      ∧ x.Covers i span
      ∧ (∀ other, Call.commit other ∈ later → ¬ x.Covers i other)
      ∧ byte = (x.after before).read i)
    ∨ (∀ span, Call.commit span ∈ calls → ¬ x.Covers i span)
      ∧ byte = x.read i

theorem lastCommitted_commit (hcovers : x.Covers i span)
    (calls : List Call) :
    LastCommitted x (calls ++ [.commit span]) i ((x.after calls).read i) :=
  .inl ⟨calls, span, [], rfl, hcovers,
    fun _ h => absurd h List.not_mem_nil, rfl⟩

/-- A call that does not commit a span over the offset. -/
theorem LastCommitted.concat {byte : Option UInt8}
    (h : LastCommitted x calls i byte)
    (hcall : ∀ span, call = .commit span → ¬ x.Covers i span) :
    LastCommitted x (calls ++ [call]) i byte := by
  have hlast {later : List Call}
      (hlater : ∀ span, .commit span ∈ later → ¬ x.Covers i span) :
      ∀ span, .commit span ∈ later ++ [call] → ¬ x.Covers i span := by
    intro span hmem
    rcases List.mem_append.mp hmem with hmem | hmem
    · exact hlater span hmem
    · exact hcall span (List.mem_singleton.mp hmem).symm
  rcases h with ⟨before, span, later, rfl, hcovers, hlater, hbyte⟩ |
    ⟨hnone, hbyte⟩
  · refine .inl ⟨before, span, later ++ [call], ?_, hcovers, hlast hlater,
      hbyte⟩
    rw [List.append_assoc, List.cons_append]
  · exact .inr ⟨hlast hnone, hbyte⟩

/-- A span that is committed inside the image is in the file afterwards. Where
nothing can be written, the file has not changed and neither has the image. -/
theorem getElem?_carried_of_covers {path : String} {contents : Bytes}
    (hfile : x.file = some path) (hsize : contents.size = x.size)
    (hprotected : x.writeProtected = true → contents = x.bytes)
    (hcovers : x.Covers i span) :
    (carried contents (x.noted (.commit span)).toList)[i]? = x.read i := by
  obtain ⟨hstop, hstart, hi⟩ := hcovers
  cases hprotect : x.writeProtected with
  | true =>
      rw [noted_of_protected hprotect, hprotected hprotect]
      rfl
  | false =>
      have hnoted : x.noted (.commit span) = _ :=
        fileWrite?_of_fits hfile hprotect (by omega) hstop
      rw [hnoted]
      exact Floppy.getElem?_apply_extract hsize hstop hstart hi

theorem start_le_stop_of_fileWrite? {w : FileWrite}
    (h : x.fileWrite? span = some w) : span.start ≤ span.stop := by
  unfold fileWrite? at h
  split at h
  · cases h
  · split at h
    · rename_i hinside
      simp only [Bool.and_eq_true, decide_eq_true_eq] at hinside
      exact hinside.1.2
    · cases h

/-- What is written of a span does not go past it. -/
theorem getElem?_apply_of_not_covers {w : FileWrite} {contents : Bytes}
    (hsize : contents.size = x.size) (h : x.fileWrite? span = some w)
    (hcovers : ¬ x.Covers i span) : (w.apply contents)[i]? = contents[i]? := by
  have hstart := start_le_stop_of_fileWrite? h
  obtain ⟨-, -, hstop, hoffset, hbytes⟩ := fileWrite?_eq_some h
  have hlength : w.bytes.size = span.stop - span.start := by
    rw [hbytes, Array.size_extract]
    exact congrArg (· - span.start) (Nat.min_eq_left hstop)
  have hnot : ¬ (w.offset ≤ i ∧ i < w.offset + w.bytes.size) := by
    rintro ⟨hfrom, hto⟩
    exact hcovers ⟨hstop, by omega, by omega⟩
  rw [FileWrite.apply, getElem?_overlay _ _ _ _ (by omega), if_neg hnot]

theorem getElem?_carried_of_not_covers {contents : Bytes}
    (hsize : contents.size = x.size)
    (hcall : ∀ span, call = .commit span → ¬ x.Covers i span) :
    (carried contents (x.noted call).toList)[i]? = contents[i]? := by
  cases call with
  | read offset => rfl
  | write offset value => rfl
  | commit span =>
      cases hnoted : x.fileWrite? span with
      | none =>
          rw [noted, hnoted]
          rfl
      | some w =>
          rw [noted, hnoted]
          exact getElem?_apply_of_not_covers hsize hnoted (hcall span rfl)

/-- At any time, each byte of the file is what the diskette held there when it
was last committed. -/
theorem lastCommitted_carried {path : String} (hfile : x.file = some path)
    (calls : List Call) (i : Nat) :
    LastCommitted x calls i (carried x.bytes (x.writes calls))[i]? := by
  induction calls using List.reverseRecOn with
  | nil => exact .inr ⟨fun span h => absurd h List.not_mem_nil, rfl⟩
  | append_singleton calls call ih =>
      have hsize : (x.after calls).size = x.size :=
        after_of_respond size_respond x calls
      have hfile' : (x.after calls).file = some path :=
        (after_of_respond file_respond x calls).trans hfile
      have hheld : (carried x.bytes (x.writes calls)).size =
          (x.after calls).size := (size_carried _ _).trans hsize.symm
      have hcovers (span : Span) :
          (x.after calls).Covers i span ↔ x.Covers i span := by
        rw [Covers, Covers, hsize]
      rw [writes_concat, carried_append]
      by_cases hcommit : ∃ span, call = .commit span ∧ x.Covers i span
      · obtain ⟨span, rfl, hspan⟩ := hcommit
        have hprotected (h : (x.after calls).writeProtected = true) :
            carried x.bytes (x.writes calls) = (x.after calls).bytes :=
          carried_of_protected
            ((after_of_respond writeProtected_respond x calls).symm.trans h)
            calls
        rw [getElem?_carried_of_covers hfile' hheld hprotected
          ((hcovers span).mpr hspan)]
        exact lastCommitted_commit hspan calls
      · have hcall (span : Span) (h : call = .commit span) :
            ¬ x.Covers i span := fun hspan => hcommit ⟨span, h, hspan⟩
        rw [getElem?_carried_of_not_covers hheld
          fun span h => mt (hcovers span).mp (hcall span h)]
        exact ih.concat hcall

/-! ## A file in a tree -/

/-- A diskette that was opened from a file answers whatever is done with it as
one with the same bytes and the same protection does that is only in memory, and
has the same bytes afterwards.

Its file is at any time as long as it was. Each byte of it is what the diskette
held there when a span was last committed that lies inside the image and covers
the byte, and where there was no such span it is what it was when the file was
opened. Where the diskette is write-protected, neither its bytes nor the file
change. -/
theorem follows_commits {tree : FileTree} {path : String}
    (hopened : tree.source.diskette path = .ok x) (calls : List Call) :
    let files := (x.writes calls).foldl FileTree.write tree
    x.answers calls = x.inMemory.answers calls
      ∧ x.inMemory.answers calls = x.store.answers calls
      ∧ (x.after calls).bytes = (x.inMemory.after calls).bytes
      ∧ tree.read path = .ok x.bytes
      ∧ ∃ contents, files.read path = .ok contents
        ∧ contents.size = x.size
        ∧ (∀ i, LastCommitted x calls i contents[i]?)
        ∧ (x.writeProtected = true →
          files = tree ∧ contents = x.bytes
            ∧ (x.after calls).bytes = x.bytes) := by
  intro files
  obtain ⟨names, file, hfound, hreadable, hx⟩ := Floppy.image_of_open hopened
  have hbytes : x.bytes = file.bytes := by rw [hx]
  have hfile : x.file = some path := by rw [hx]
  have hpaths : ∀ w ∈ x.writes calls, w.path = path := by
    intro w hw
    have hpath := path_of_mem_writes hw
    rw [hfile] at hpath
    exact (Option.some.inj hpath).symm
  have hwritten := FileTree.file?_foldl_write hfound hpaths
  have hanswers : x.inMemory.answers calls = x.store.answers calls :=
    x.inMemory.answers_store calls
  refine ⟨(x.answers_store calls).trans hanswers.symm, hanswers,
    x.bytes_after_inMemory calls, ?_, carried x.bytes (x.writes calls), ?_,
    size_carried _ _, lastCommitted_carried hfile calls,
    fun hprotected => ⟨?_, ?_, ?_⟩⟩
  · rw [FileTree.read, hfound, hbytes]
    exact if_pos hreadable
  · rw [FileTree.read, hwritten, hbytes]
    exact if_pos hreadable
  · show (x.writes calls).foldl FileTree.write tree = tree
    rw [writes_of_protected hprotected]
    rfl
  · rw [writes_of_protected hprotected]
    rfl
  · exact bytes_after_of_protected hprotected calls

/-- A file of three bytes. Its second byte is stored and committed, then stored
again; a span that is turned round and one that goes past the end are not
written. -/
theorem follows_commits_three_bytes :
    let tree : FileTree :=
      { entries := [(["a"], .file { bytes := #[1, 2, 3] })] }
    let x : Diskette := { bytes := #[1, 2, 3], file := some "./a" }
    let calls : List Call := [.write 1 9, .commit ⟨0, 2⟩, .write 1 8,
      .write 2 7, .commit ⟨2, 1⟩, .commit ⟨1, 4⟩, .read 1]
    let files := (x.writes calls).foldl FileTree.write tree
    tree.source.diskette "./a" = .ok x
      ∧ x.answers calls = x.inMemory.answers calls
      ∧ ∃ contents, files.read "./a" = .ok contents ∧ contents.size = 3
        ∧ ∀ i, LastCommitted x calls i contents[i]? := by
  intro tree x calls files
  have hnames : Path.names "./a" = [".", "a"] := by
    rw [Path.names, String.splitOn, if_neg (by decide)]
    -- at the dot, at the slash, at the name, at the end
    rw [String.splitOnAux, if_neg (by decide), if_neg (by decide)]
    rw [String.splitOnAux, if_neg (by decide), if_pos (by decide)]
    dsimp only
    rw [if_pos (by decide)]
    rw [String.splitOnAux, if_neg (by decide), if_neg (by decide)]
    rw [String.splitOnAux, if_pos (by decide)]
    decide
  have hfound : tree.file? "./a" = .ok (["a"], { bytes := #[1, 2, 3] }) := by
    have habsolute : Path.isAbsolute "./a" = false := by
      simp [Path.isAbsolute]
    have hnull : "./a".contains '\x00' = false := by simp
    rw [FileTree.file?, FileTree.walk, hnames, habsolute, hnull]
    rfl
  have hopened : tree.source.diskette "./a" = .ok x := by
    show ((tree.openDisk "./a").mapError _ >>= _ : Except SetupError _) = _
    rw [FileTree.openDisk, hfound]
    rfl
  obtain ⟨hanswers, -, -, -, contents, hread, hsize, hlast, -⟩ :=
    follows_commits hopened calls
  exact ⟨hopened, hanswers, contents, hread, hsize, hlast⟩

end Diskette

end S100
