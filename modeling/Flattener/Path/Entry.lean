import Flattener.Path.Basic

/-!
# Entry paths

The files to flatten are named from the working directory, absolutely or relatively. Inside a
run every file is named from the project root, so an entry is first made absolute, then
collapsed, and then written as the way from the root to it.
-/

namespace Flattener

/-- A path that no directory can hold: one of its segments has a NUL character. -/
inductive PathFault where
  | embeddedNull
  deriving DecidableEq, Repr

/-- What is said about a path fault. -/
def PathFault.message : PathFault → Text
  | embeddedNull => "embedded null byte".toList

namespace Path

/-- The absolute path without `.` and `..` that `p` stands for in the directory `cwd`. There are
no links to follow, so the text decides. -/
def resolve (cwd p : Path) : Except PathFault Path :=
  let q := cwd.join p
  if q.segments.any (·.contains '\x00') then .error .embeddedNull
  else .ok ⟨.root, collapseSegments true q.segments⟩

/-- The segments of an absolute path, with backslashes counted as separators. -/
def slashedSegments (p : Path) : List Text := (ofText (slashed p.toText)).collapse.segments

/-- The label of the entry `path`, given in the directory `cwd`, under the project `root`. -/
def entryLabel (path root cwd : Path) : Except PathFault Text := do
  let target ← resolve cwd path
  let base ← resolve cwd root
  return (relativeTo (slashedSegments base) (slashedSegments target)).toText

end Path

end Flattener
