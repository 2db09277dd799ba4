import Flattener.Graph.Basic
import Flattener.Path.Specifier
import Flattener.Source.Directive

/-!
# Walking the imports

From the entry files on, imports are followed depth first and in source order, each one fully
before the next. A *resolver* says which text and which label a specifier stands for. What was
once loaded is remembered under its label and under the specifier that asked for it.

* `load` looks a specifier up, through what is remembered.
* `walk` follows the imports that are pending on a stack of files.
* `build` collects the graph of all files that can be reached from the entries.

A resolver may know infinitely many labels, so `build` is given a limit on the number of files.
-/

namespace Flattener

/-- What a resolver answers: a text, and the label under which its file is known. -/
structure Resolved where
  content : Text
  path : Text
  deriving DecidableEq, Repr

/-- A resolver finds the file that a specifier stands for. -/
abbrev Resolver (ε : Type) := Text → Except ε Resolved

/-- What happens in a walk, as far as others may want to know. -/
inductive WalkEvent where
  /-- The resolver was asked for a specifier. -/
  | asked (specifier : Text)
  /-- An import was followed. -/
  | linked (edge : Edge)
  /-- All imports of a file have been followed. -/
  | exhausted (path : Text)
  deriving DecidableEq, Repr

/-- Why a walk ends without a graph. -/
inductive WalkFault (ε : Type) where
  /-- The resolver does not find a specifier. -/
  | lookup (e : ε)
  /-- The directives of a file cannot be read. -/
  | unparsable (file : Text) (e : SyntaxError)
  /-- There are more files than the limit allows. -/
  | tooManyFiles
  deriving DecidableEq, Repr

/-- What is remembered between lookups, and what has happened. -/
structure Session where
  loaded : List (Text × SourceFile) := []
  events : List WalkEvent := []
  deriving DecidableEq, Repr

namespace Session

/-- The file that is remembered under a label or specifier. -/
def known? (s : Session) (name : Text) : Option SourceFile := s.loaded.lookup name

/-- Remembers a file under a label or specifier. -/
def remember (s : Session) (name : Text) (f : SourceFile) : Session :=
  { s with loaded := (name, f) :: s.loaded }

/-- Notes that something happened. -/
def note (s : Session) (e : WalkEvent) : Session := { s with events := s.events ++ [e] }

/-- The specifiers that the resolver was asked for, in order. -/
def asked (s : Session) : List Text :=
  s.events.filterMap fun
    | .asked specifier => some specifier
    | _ => none

/-- The files whose imports have all been followed, in the order in which that happened. -/
def exhausted (s : Session) : List Text :=
  s.events.filterMap fun
    | .exhausted path => some path
    | _ => none

end Session

/-- A resolved text as a file of a run. -/
def SourceFile.read (r : Resolved) : Except SyntaxError SourceFile := do
  let ds ← Directive.findAll r.content
  return ⟨r.path, r.content, Directive.valuesOf .imports ds, Directive.valuesOf .version ds⟩

section

variable {ε : Type}

/-- The file that a specifier stands for. -/
def load (resolver : Resolver ε) (s : Session) (specifier : Text) :
    Session × Except (WalkFault ε) SourceFile :=
  match s.known? specifier with
  | some f => (s, .ok f)
  | none =>
    let s := s.note (.asked specifier)
    match resolver specifier with
    | .error e => (s, .error (.lookup e))
    | .ok r =>
      match s.known? r.path with
      | some f => (s.remember specifier f, .ok f)
      | none =>
        match SourceFile.read r with
        | .error e => (s, .error (.unparsable r.path e))
        | .ok f => ((s.remember r.path f).remember specifier f, .ok f)

/-- The steps that a stack of files takes if no file is added: one for each pending import and one
for each file. -/
def stepsLeft : List (Text × List Text) → Nat
  | [] => 0
  | frame :: stack => frame.2.length + 1 + stepsLeft stack

/-- Follows the pending imports of the files on the stack, the top one first. A frame holds a
file's label and the imports of it that are still to be followed. -/
def walk (resolver : Resolver ε) (limit : Nat) (s : Session) (g : Graph)
    (stack : List (Text × List Text)) : Session × Except (WalkFault ε) Graph :=
  match stack with
  | [] => (s, .ok g)
  | (path, []) :: stack => walk resolver limit (s.note (.exhausted path)) g stack
  | (path, specifier :: pending) :: stack =>
    match load resolver s (Specifier.target path specifier) with
    | (s, .error e) => (s, .error e)
    | (s, .ok f) =>
      let edge := ⟨f.path, path⟩
      let s := s.note (.linked edge)
      if f.path ∈ g.addEdge edge then
        walk resolver limit s (g.addEdge edge) ((path, pending) :: stack)
      else if g.size < limit then
        walk resolver limit s ((g.addEdge edge).addFile f)
          ((f.path, f.imports) :: (path, pending) :: stack)
      else (s, .error .tooManyFiles)
termination_by (limit - g.size, stepsLeft stack)
decreasing_by
  · exact Prod.Lex.right _ (by simp only [stepsLeft]; omega)
  · rw [Graph.size_addEdge]
    exact Prod.Lex.right _ (by simp only [stepsLeft, List.length_cons]; omega)
  · refine Prod.Lex.left _ _ ?_
    rw [Graph.size_addFile (by assumption), Graph.size_addEdge]
    omega

theorem walk_nil (resolver : Resolver ε) (limit : Nat) (s : Session) (g : Graph) :
    walk resolver limit s g [] = (s, .ok g) := by
  rw [walk]

/-- A file without pending imports is left. -/
theorem walk_exhausted (resolver : Resolver ε) (limit : Nat) (s : Session) (g : Graph)
    (path : Text) (stack : List (Text × List Text)) :
    walk resolver limit s g ((path, []) :: stack) =
      walk resolver limit (s.note (.exhausted path)) g stack := by
  rw [walk]

section

variable {resolver : Resolver ε} {limit : Nat} {s s' : Session} {g : Graph} {path specifier : Text}
  {pending : List Text} {stack : List (Text × List Text)}

/-- A file that cannot be loaded ends the walk. -/
theorem walk_of_error {e : WalkFault ε}
    (h : load resolver s (Specifier.target path specifier) = (s', .error e)) :
    walk resolver limit s g ((path, specifier :: pending) :: stack) = (s', .error e) := by
  rw [walk, h]

/-- The import of a known file is noted, and the walk goes on with the next import. -/
theorem walk_of_known {f : SourceFile}
    (h : load resolver s (Specifier.target path specifier) = (s', .ok f)) (hf : f.path ∈ g) :
    walk resolver limit s g ((path, specifier :: pending) :: stack) =
      walk resolver limit (s'.note (.linked ⟨f.path, path⟩)) (g.addEdge ⟨f.path, path⟩)
        ((path, pending) :: stack) := by
  rw [walk, h]
  exact if_pos (Graph.mem_addEdge.2 hf)

/-- The import of a new file is noted, and the walk goes on with the imports of that file. -/
theorem walk_of_new {f : SourceFile}
    (h : load resolver s (Specifier.target path specifier) = (s', .ok f)) (hf : f.path ∉ g)
    (hlimit : g.size < limit) :
    walk resolver limit s g ((path, specifier :: pending) :: stack) =
      walk resolver limit (s'.note (.linked ⟨f.path, path⟩)) ((g.addEdge ⟨f.path, path⟩).addFile f)
        ((f.path, f.imports) :: (path, pending) :: stack) := by
  rw [walk, h]
  exact (if_neg (mt Graph.mem_addEdge.1 hf)).trans (if_pos hlimit)

/-- A new file that finds no room ends the walk. -/
theorem walk_of_full {f : SourceFile}
    (h : load resolver s (Specifier.target path specifier) = (s', .ok f)) (hf : f.path ∉ g)
    (hlimit : limit ≤ g.size) :
    walk resolver limit s g ((path, specifier :: pending) :: stack) =
      (s'.note (.linked ⟨f.path, path⟩), .error .tooManyFiles) := by
  rw [walk, h]
  exact (if_neg (mt Graph.mem_addEdge.1 hf)).trans (if_neg (Nat.not_lt.2 hlimit))

end

/-- Adds everything that can be reached from the entries to the graph. -/
def buildFrom (resolver : Resolver ε) (limit : Nat) (s : Session) (g : Graph) :
    List Text → Session × Except (WalkFault ε) Graph
  | [] => (s, .ok g)
  | entry :: entries =>
    match load resolver s (Path.slashed entry) with
    | (s, .error e) => (s, .error e)
    | (s, .ok f) =>
      if f.path ∈ g then buildFrom resolver limit s g entries
      else if g.size < limit then
        match walk resolver limit s (g.addFile f) [(f.path, f.imports)] with
        | (s, .error e) => (s, .error e)
        | (s, .ok g) => buildFrom resolver limit s g entries
      else (s, .error .tooManyFiles)

section

variable {resolver : Resolver ε} {limit : Nat} {s s' s'' : Session} {g g' : Graph} {entry : Text}
  {entries : List Text} {f : SourceFile}

/-- An entry that cannot be loaded ends the build. -/
theorem buildFrom_of_error {e : WalkFault ε}
    (h : load resolver s (Path.slashed entry) = (s', .error e)) :
    buildFrom resolver limit s g (entry :: entries) = (s', .error e) := by
  rw [buildFrom, h]

/-- A known entry is passed over. -/
theorem buildFrom_of_known (h : load resolver s (Path.slashed entry) = (s', .ok f))
    (hf : f.path ∈ g) :
    buildFrom resolver limit s g (entry :: entries) = buildFrom resolver limit s' g entries := by
  rw [buildFrom, h]
  exact if_pos hf

/-- The imports of a new entry are followed before the next entry. -/
theorem buildFrom_of_new (h : load resolver s (Path.slashed entry) = (s', .ok f))
    (hf : f.path ∉ g) (hlimit : g.size < limit)
    (hw : walk resolver limit s' (g.addFile f) [(f.path, f.imports)] = (s'', .ok g')) :
    buildFrom resolver limit s g (entry :: entries) = buildFrom resolver limit s'' g' entries := by
  rw [buildFrom, h]
  refine (if_neg hf).trans ((if_pos hlimit).trans ?_)
  rw [hw]

/-- A failure among the imports of a new entry ends the build. -/
theorem buildFrom_of_new_error {e : WalkFault ε}
    (h : load resolver s (Path.slashed entry) = (s', .ok f)) (hf : f.path ∉ g)
    (hlimit : g.size < limit)
    (hw : walk resolver limit s' (g.addFile f) [(f.path, f.imports)] = (s'', .error e)) :
    buildFrom resolver limit s g (entry :: entries) = (s'', .error e) := by
  rw [buildFrom, h]
  refine (if_neg hf).trans ((if_pos hlimit).trans ?_)
  rw [hw]

/-- A new entry that finds no room ends the build. -/
theorem buildFrom_of_full (h : load resolver s (Path.slashed entry) = (s', .ok f))
    (hf : f.path ∉ g) (hlimit : limit ≤ g.size) :
    buildFrom resolver limit s g (entry :: entries) = (s', .error .tooManyFiles) := by
  rw [buildFrom, h]
  exact (if_neg hf).trans (if_neg (Nat.not_lt.2 hlimit))

end

/-- The graph of all files that can be reached from the entries. -/
def build (resolver : Resolver ε) (limit : Nat) (s : Session) (entries : List Text) :
    Session × Except (WalkFault ε) Graph :=
  buildFrom resolver limit s .empty entries

end

end Flattener
