import Flattener.Encoding.Utf8
import Flattener.Path.Basic

/-!
# File trees

A snapshot of the files and directories that a run can see. Every place is the list of names on
the way from the root; there are no links, so a place has one name only.

* `FileTree.locate` follows a path, `..` included, as far as the directories exist.
* `FileTree.isFile`, `isDirectory` and `occupied` tell what is found at a path.
* `FileTree.write`, `remove` and `makeDirectory` change one place.
-/

namespace Flattener

/-- What stands at a place of a file tree. -/
inductive Entry where
  | file (bytes : List UInt8)
  | directory
  deriving DecidableEq, Repr

/-- A place: the names on the way from the root. -/
abbrev Place := List Text

/-- The entries of a file tree by place. The root is a directory and is not listed. -/
structure FileTree where
  entries : List (Place × Entry)
  deriving Repr

namespace FileTree

/-- The tree with nothing but its root. -/
def empty : FileTree := ⟨[]⟩

/-- What stands at a place. -/
def entryAt? (t : FileTree) (p : Place) : Option Entry :=
  if p = [] then some .directory else t.entries.lookup p

/-- Follows segments from the directory `at`; every step but the last has to end in a
directory. -/
def follow (t : FileTree) (here : Place) : List Text → Option Place
  | [] => some here
  | s :: segments =>
    if t.entryAt? here = some .directory then
      if s = Path.up then t.follow here.dropLast segments
      else if (t.entryAt? (here ++ [s])).isSome then t.follow (here ++ [s]) segments
      else none
    else none

/-- The existing place that an absolute path leads to. -/
def locate (t : FileTree) (p : Path) : Option Place := t.follow [] p.segments

/-- What an absolute path leads to. -/
def find? (t : FileTree) (p : Path) : Option Entry := t.locate p >>= t.entryAt?

/-- Whether an absolute path leads to a file. -/
def isFile (t : FileTree) (p : Path) : Bool :=
  match t.find? p with
  | some (.file _) => true
  | _ => false

/-- Whether an absolute path leads to a directory. -/
def isDirectory (t : FileTree) (p : Path) : Bool := t.find? p = some .directory

/-- Whether an absolute path leads anywhere. -/
def occupied (t : FileTree) (p : Path) : Bool := (t.find? p).isSome

/-- The bytes of the file that an absolute path leads to. -/
def read? (t : FileTree) (p : Path) : Option (List UInt8) :=
  match t.find? p with
  | some (.file bytes) => some bytes
  | _ => none

/-! ### Changes -/

/-- The tree with the given entry at a place, whatever was there. -/
def put (t : FileTree) (p : Place) (e : Entry) : FileTree :=
  ⟨t.entries.filter (fun x => x.1 ≠ p) ++ [(p, e)]⟩

/-- The tree without the entry at a place. -/
def erase (t : FileTree) (p : Place) : FileTree := ⟨t.entries.filter (fun x => x.1 ≠ p)⟩

/-- What a list of entries says about a place once another place is left out. -/
theorem lookup_filter_ne (entries : List (Place × Entry)) (p q : Place) :
    (entries.filter fun x => x.1 ≠ p).lookup q = if q = p then none else entries.lookup q := by
  induction entries with
  | nil => simp
  | cons x entries ih =>
    obtain ⟨k, e⟩ := x
    by_cases hk : k = p
    · subst hk
      rw [List.filter_cons_of_neg (by simp), ih]
      by_cases hq : q = k
      · simp [hq]
      · have : (q == k) = false := by simpa using hq
        simp [hq, List.lookup_cons, this]
    · rw [List.filter_cons_of_pos (by simpa using hk)]
      by_cases hq : q = k
      · subst hq
        simp [hk]
      · have : (q == k) = false := by simpa using hq
        rw [List.lookup_cons, List.lookup_cons, this, ih]

/-- Erasing a place empties it and leaves all others alone. -/
theorem entryAt?_erase (t : FileTree) {p : Place} (hp : p ≠ []) (q : Place) :
    (t.erase p).entryAt? q = if q = p then none else t.entryAt? q := by
  unfold entryAt? erase
  by_cases hq : q = []
  · subst hq
    simp [hp.symm]
  · simp only [hq, if_false]
    exact lookup_filter_ne t.entries p q

/-- Putting an entry at a place leaves all others alone. -/
theorem entryAt?_put (t : FileTree) {p : Place} (hp : p ≠ []) (e : Entry) (q : Place) :
    (t.put p e).entryAt? q = if q = p then some e else t.entryAt? q := by
  unfold entryAt? put
  by_cases hq : q = []
  · subst hq
    simp [hp.symm]
  · simp only [hq, if_false, List.lookup_append]
    rw [lookup_filter_ne]
    by_cases h : q = p
    · subst h
      simp
    · have : (q == p) = false := by simpa using h
      simp [h, List.lookup_cons, this]

/-- The tree without the entry at a place and all below it. -/
def eraseAll (t : FileTree) (p : Place) : FileTree :=
  ⟨t.entries.filter fun x => !p.isPrefixOf x.1⟩

/-- The place where an absolute path puts a new entry: its last segment in the existing directory
that the others lead to. -/
def newPlace (t : FileTree) (p : Path) : Option Place :=
  match p.segments.getLast? with
  | none => none
  | some name =>
    if name = Path.up then none
    else
      match t.follow [] p.segments.dropLast with
      | none => none
      | some parent => if t.entryAt? parent = some .directory then some (parent ++ [name]) else none

/-- Stores bytes in the file at an absolute path, new or not; nothing if there is no directory
for it or it is a directory itself. -/
def write (t : FileTree) (p : Path) (bytes : List UInt8) : Option FileTree :=
  match t.newPlace p with
  | none => none
  | some place =>
    if t.entryAt? place = some .directory then none else some (t.put place (.file bytes))

/-- Removes the file at an absolute path. -/
def removeFile (t : FileTree) (p : Path) : FileTree :=
  match t.locate p with
  | none => t
  | some place => t.erase place

/-- The greatest number of bytes of a name. -/
def nameLimit : Nat := 255

/-- Whether no directory can hold the name since it has too many bytes. -/
def isLongName (name : Text) : Bool := nameLimit < Utf8.length name

/-- Makes sure that the segments `done` lead to a directory, then those that continue them. A
missing directory is made. If a file is in the way, or the name of a missing directory is too long,
the segments that lead there are given; what was made before stays. -/
def makeDirectories (t : FileTree) (done : List Text) : List Text → FileTree × Option (List Text)
  | [] => (t, none)
  | s :: segments =>
    let p : Path := ⟨.root, done ++ [s]⟩
    match t.find? p with
    | some .directory => t.makeDirectories (done ++ [s]) segments
    | some (.file _) => (t, some (done ++ [s]))
    | none =>
      if isLongName s then (t, some (done ++ [s]))
      else
        match t.newPlace p with
        | none => (t, some (done ++ [s]))
        | some place => (t.put place .directory).makeDirectories (done ++ [s]) segments

/-- Makes the directory at an absolute path and all directories on the way to it. -/
def makeDirectory (t : FileTree) (p : Path) : FileTree × Option (List Text) :=
  t.makeDirectories [] p.segments

/-! ### Listing -/

/-- The places below a place, written from there; directories end with a slash. -/
def listing (t : FileTree) (base : Place) : List Text :=
  t.entries.filterMap fun x =>
    match Path.below? base x.1 with
    | none | some [] => none
    | some segments =>
      let name := ['/'].intercalate segments
      some (if x.2 = .directory then name ++ ['/'] else name)

end FileTree

end Flattener
