import Flattener.Config.Load
import Flattener.Project.Lookup
import Flattener.Project.Root

/-!
# Flattening in a project

A project root and its settings together say where sources are found and how the bundle is
written. `Project.flatten` does all from the working directory on: it finds the project, reads
its settings, and makes the bundle of the named files.
-/

namespace Flattener.Project

/-- The template of the file markers, as configured. -/
def template (c : Config) : Except Fault Marker.Template :=
  match c.marker with
  | .text t => (Marker.Template.parse t).mapError .template
  | _ => .error .markerShape

/-- Where the sources of a project are looked for. -/
def lookup (codecs : Codecs) (cwd root : Path) (c : Config) : Except Fault Lookup := do
  let root ← (Path.resolve cwd root).mapError .path
  return ⟨root, c.packageDirs, c.encoding, codecs⟩

/-- What a run in a project needs: how to find files and how to write markers. -/
structure Setup where
  finder : Bundle.Finder
  template : Marker.Template

/-- Makes a project ready for a run over at most `limit` files. -/
def setup (codecs : Codecs) (tree : FileTree) (limit : Nat) (cwd root : Path) (c : Config) :
    Except Fault Setup := do
  let l ← lookup codecs cwd root c
  let t ← template c
  return ⟨l.finder tree limit, t⟩

/-- The labels of entry files that are named from `cwd`. -/
def entries (cwd root : Path) (files : List Text) : Except Fault (List Text) :=
  files.mapM fun f => (Path.entryLabel (Path.ofText f) root cwd).mapError .path

/-- Makes the bundle of the files, named from `cwd`, in the project that `cwd` lies in. Without
given settings those of the project are taken. -/
def flatten (env : Environment) (codecs : Codecs) (tree : FileTree) (limit : Nat) (cwd : Path)
    (config : Option Config) (files : List Text) : Logged Fault Bundle := do
  let root ← findRoot tree markers cwd cwd
  let config ←
    match config with
    | some c => pure c
    | none => Logged.ofExcept ((Config.load env tree cwd none (some root)).mapError .config)
  let labels ← Logged.ofExcept (entries cwd root files)
  Logged.log ⟨.debug, Log.loggerOf "pipeline",
    "Entry points relative to ".toList ++ root.toText ++ ": ".toList ++
      Failure.commaList labels, []⟩
  let s ← Logged.ofExcept (setup codecs tree limit cwd root config)
  Bundle.run s.finder s.template labels

end Flattener.Project
