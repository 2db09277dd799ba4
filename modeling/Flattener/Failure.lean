import Flattener.Text.Basic

/-!
# Failures of a run

What can go wrong with a project that is otherwise read and understood: a file that cannot be
parsed or found, imports that form a cycle, version declarations that do not fit together, a
missing project, an output place that cannot be written. `Failure.message` is what the user is
told.
-/

namespace Flattener

/-- Why a run ends without output. -/
inductive Failure where
  /-- The directives of a file cannot be read. -/
  | unparsable (file : Text) (reason : Option Text)
  /-- An import names no file; the places that were tried, in order. -/
  | unresolved (specifier : Text) (searched : List Text)
  /-- The imports form a cycle; all files of the run in order of discovery. -/
  | cyclic (visited : List Text)
  /-- Two files declare versions that exclude each other. -/
  | versionConflict (summary firstFile firstVersion secondFile secondVersion : Text)
  /-- A file declares a version that is not understood. -/
  | malformedVersion (file declaration : Text) (reason : Option Text)
  /-- No directory from `start` upwards holds one of the expected files. -/
  | outsideProject (expected : List Text) (start : Option Text)
  /-- The output cannot be written to its place. -/
  | badTarget (path reason : Text)
  /-- Any other failure, told by its message alone. -/
  | general (text : Text)
  deriving DecidableEq, Repr

namespace Failure

/-- The texts with a comma and a space between neighbours. -/
def commaList (ts : List Text) : Text := ", ".toList.intercalate ts

/-- A text that is present and not empty. -/
def nonempty (t : Option Text) : Option Text := t.filter fun t => !t.isEmpty

/-- What the user is told about a failure. -/
def message : Failure → Text
  | unparsable file reason =>
    "Could not parse ".toList ++ file ++ " for extracting its imports.".toList ++
      match nonempty reason with
      | none => []
      | some r => ' ' :: r
  | unresolved specifier searched =>
    "Could not find ".toList ++ specifier ++ " from any sources".toList ++
      if searched.isEmpty then []
      else " (searched: ".toList ++ commaList searched ++ [')']
  | cyclic visited =>
    ("There is a cycle in the dependency graph, can't compute topological " ++
      "ordering. Files:\n\t").toList ++ "\n\t".toList.intercalate visited
  | versionConflict summary firstFile firstVersion secondFile secondVersion =>
    summary ++ " in ".toList ++ firstFile ++ " (".toList ++ firstVersion ++ ") and ".toList ++
      secondFile ++ " (".toList ++ secondVersion ++ [')']
  | malformedVersion file declaration reason =>
    match nonempty reason with
    | some r => r
    | none =>
      "Unsupported compiler version declaration in ".toList ++ file ++ ": ".toList ++
        declaration ++ ". Only pinned or ^ versions are supported.".toList
  | outsideProject expected start =>
    "solflat must be run inside a project: none of ".toList ++ commaList expected ++
      " found".toList ++
      match nonempty start with
      | none => []
      | some s => " in ".toList ++ s ++ " or any parent directory".toList
  | badTarget path reason =>
    "Invalid output target ".toList ++ path ++ ": ".toList ++ reason
  | general text => text

end Failure

end Flattener
