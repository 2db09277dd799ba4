import Flattener.Command.Run

/-!
# What a command looks at

A command is a function of a file tree and of an environment, of which it looks at a small part
only. Which part this is depends on what the files say: a source names other sources, and a
configuration names variables. So it is found in rounds: on the part that is known so far,
`Command.scope` tells what the command looks at, and what is new in it is added before the next
round. A round that adds nothing is the last one.
-/

namespace Flattener.Command

open Arguments (Invocation)

/-- What a command looks at: paths, seen from the root, and names of variables of the
environment. -/
structure Scope where
  paths : List Path
  names : List Text

/-- The paths that tell which project a directory belongs to, and its settings. -/
def projectPaths (cwd : Path) : List Path :=
  (cwd :: cwd.ancestors).flatMap fun dir => Project.markers.map dir.child ++ Config.places dir

/-- The paths that a command line names, and the one where a new configuration is put. -/
def namedPaths (cwd : Path) (i : Invocation) : List Path :=
  (i.paths ++ [configName]).map cwd.child

/-- The paths that are looked at on the way through the sources. -/
def sourcePaths (ctx : Context) (tree : FileTree) (root : Path) (config : Config)
    (files : List Text) : List Path :=
  match Project.entries ctx.cwd root files, Project.lookup ctx.host.codecs ctx.cwd root config with
  | .ok labels, .ok l => (build (l.resolve tree) ctx.limit {} labels).1.asked.flatMap l.paths
  | _, _ => []

/-- What the invocation `i` looks at in a known part of a file tree. -/
def scopeOf (host : Host) (cwd : Path) (limit : Nat) (tree : FileTree) (i : Invocation) : Scope :=
  let ctx : Context := ⟨host, cwd, limit, i.config.map Path.ofText⟩
  let named := projectPaths cwd ++ namedPaths cwd i
  match (loadProject ctx tree i.command.packageDirs).result with
  | .error (.config (.unsetVariable name)) => ⟨named, [name]⟩
  | .error _ => ⟨named, []⟩
  | .ok (root, config) =>
    let place := ((target root config i.command.output?).toOption.bind id).map cwd.join
    ⟨named ++ place.toList ++ sourcePaths ctx tree root config i.command.files, []⟩

/-- What a command line looks at in a known part of a file tree. -/
def scope (host : Host) (cwd : Path) (limit : Nat) (tree : FileTree) (args : List Text) : Scope :=
  match Arguments.read args with
  | some (.run i) => scopeOf host cwd limit tree i
  | _ => ⟨[], []⟩

end Flattener.Command
