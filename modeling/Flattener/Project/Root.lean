import Flattener.Failure
import Flattener.FileTree.Basic
import Flattener.Fault
import Flattener.Log.Record

/-!
# Project roots

A run belongs to a project: the nearest directory, from the working directory upwards, that holds
one of the files by which projects are known.
-/

namespace Flattener.Project

/-- The files by which a project root is known. -/
def markers : List Text :=
  ["truffle.js".toList, "truffle-config.js".toList, "solflat.yaml".toList]

/-- The first of the directories that holds one of the files, and that file. -/
def firstMarked (tree : FileTree) (markers : List Text) (dirs : List Path) : Option (Path × Text) :=
  dirs.findSome? fun dir =>
    (markers.find? fun m => tree.isFile (dir.child m)).map fun m => (dir, m)

/-- The project root for the directory `start`, seen from `cwd`. -/
def findRoot (tree : FileTree) (markers : List Text) (cwd start : Path) : Logged Fault Path :=
  match Path.resolve cwd start with
  | .error e => .fail (.path e)
  | .ok start =>
    match firstMarked tree markers (start :: start.ancestors) with
    | some (dir, marker) =>
      ⟨[⟨.debug, Log.loggerOf "config",
        "Project root: ".toList ++ dir.toText ++ " (".toList ++ marker ++ [')'], []⟩], .ok dir⟩
    | none => .fail (.failure (.outsideProject markers (some start.toText)))

end Flattener.Project
