import Flattener.Bundle
import Flattener.Encoding.Codec
import Flattener.FileTree.Basic

/-!
# Looking up sources in a project

A specifier is looked up under the project root and then under each package directory, in order.
The label of a file is its specifier in normal form; a file in a package directory is labelled
from there, so that it has the same label however it was named, unless a file of the project
itself has that label.

* `Lookup.candidates` lists the places to look at, each with the label it would give.
* `Lookup.resolve` finds the first of them that is a file.
-/

namespace Flattener

/-- Where a project's sources are looked for: its root, its package directories, and the encoding
of the files, as configured, which is one of the codecs that there are. -/
structure Lookup where
  root : Path
  packageDirs : List Text
  encoding : Setting
  codecs : Codecs

namespace Lookup

/-- A place to look at, and the label of the file there. -/
structure Candidate where
  path : Path
  label : Text
  deriving DecidableEq, Repr

/-- The places to look at for a specifier, in order. -/
def candidates (l : Lookup) (specifier : Text) : Except PathFault (List Candidate) :=
  let p := Path.ofText specifier
  if p.isAbsolute then do
    let place ← Path.resolve l.root p
    let label :=
      match Path.below? l.root.segments place.segments with
      | some segments => (Path.mk .relative segments).toText
      | none => place.toText
    return [⟨place, label⟩]
  else
    let label := Path.normalize specifier
    .ok (⟨l.root.child label, label⟩ ::
      l.packageDirs.map fun dir => ⟨(l.root.child dir).child label, label⟩)

/-- The first of the places that is a file. -/
def firstFile (tree : FileTree) (cs : List Candidate) : Option Candidate :=
  cs.find? fun c => tree.isFile c.path

/-- The rest of a label that starts with a package directory, and the places to look at for that
rest. -/
def inside (l : Lookup) (label dir : Text) : Option (Text × List Candidate) :=
  match Text.dropPrefix? (Path.normalize (Path.slashed dir) ++ ['/']) label with
  | none => none
  | some rest => (l.candidates rest).toOption.map fun cs => (rest, cs)

/-- The label without the leading package directory, when the rest leads to the same file. -/
def stripDir (l : Lookup) (tree : FileTree) (place : Option Place) (label dir : Text) :
    Option Text :=
  match l.inside label dir with
  | none => none
  | some (rest, cs) =>
    match firstFile tree cs with
    | some c => if tree.locate c.path = place then some rest else none
    | none => none

/-- The label of a file as seen from its package directory, if it lies in one. -/
def packageLabel (l : Lookup) (tree : FileTree) (c : Candidate) : Text :=
  (l.packageDirs.findSome? (l.stripDir tree (tree.locate c.path) c.label)).getD c.label

/-- The text of a file, with plain line feeds. -/
def readText (l : Lookup) (tree : FileTree) (specifier : Text) (path : Path) :
    Except Fault Text := do
  let codec ← (l.codecs.ofSetting l.encoding).mapError .encoding
  match codec.decode ((tree.read? path).getD []) with
  | .ok t => return Text.unifyNewlines t
  | .error (.located _) => .error (.failure (.unresolved specifier [path.toText]))
  | .error (.whole message) => .error (.encoding (.refused message))

/-- Finds the file that a specifier stands for. -/
def resolve (l : Lookup) (tree : FileTree) : Resolver Fault := fun specifier => do
  let specifier := Path.slashed specifier
  let cs ← (l.candidates specifier).mapError .path
  match firstFile tree cs with
  | some c =>
    let content ← l.readText tree specifier c.path
    return ⟨content, l.packageLabel tree c⟩
  | none => .error (.failure (.unresolved specifier (cs.map fun c => c.path.toText)))

/-- What is logged about looking up a specifier: the file that was found, and what is wrong with
it if it is no text. -/
def trail (l : Lookup) (tree : FileTree) (specifier : Text) : List Log.Record :=
  let specifier := Path.slashed specifier
  match l.candidates specifier with
  | .error _ => []
  | .ok cs =>
    match firstFile tree cs with
    | none => []
    | some c =>
      let logger := Log.loggerOf "analyzers.resolver"
      let found : Log.Record :=
        ⟨.debug, logger, "Resolved ".toList ++ specifier ++ " -> ".toList ++ c.path.toText, []⟩
      match l.codecs.ofSetting l.encoding with
      | .error _ => [found]
      | .ok codec =>
        match codec.decode ((tree.read? c.path).getD []) with
        | .ok _ | .error (.whole _) => [found]
        | .error (.located e) =>
          [found, ⟨.debug, logger,
            "Failed to read ".toList ++ c.path.toText ++ ": ".toList ++ e.message, []⟩]

/-- The paths that are looked at for a specifier, also to find the label of its file. -/
def paths (l : Lookup) (specifier : Text) : List Path :=
  let cs := (l.candidates (Path.slashed specifier)).toOption.getD []
  let renamed := cs.flatMap fun c => l.packageDirs.filterMap (l.inside c.label)
  (cs ++ renamed.flatMap (·.2)).map (·.path)

/-- Looks for files in a project, up to `limit` of them. -/
def finder (l : Lookup) (tree : FileTree) (limit : Nat) : Bundle.Finder :=
  ⟨l.resolve tree, l.trail tree, limit⟩

end Lookup

end Flattener
