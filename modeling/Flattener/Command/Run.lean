import Flattener.Command.Arguments
import Flattener.Command.Console
import Flattener.Log.Format
import Flattener.Output
import Flattener.Project.Flatten

/-!
# Commands

What the commands do, as functions from a file tree to a file tree and what is printed and
logged. The flattened source is printed only once it is complete; a run that fails prints
nothing and leaves the tree alone. What is printed is what the console shows.

* `Command.flatten` makes a bundle and prints it or writes it to a file.
* `Command.order` prints the labels of the files in order.
* `Command.init` writes a configuration file with the default settings.
* `Command.respond` reads a command line and does what it asks for.
-/

namespace Flattener.Command

open Arguments (Invocation)

/-- The system that a command runs on: its environment, the codecs that it has, and its console. -/
structure Host where
  env : Environment
  codecs : Codecs
  console : Console

/-- What a command starts from: the system, the working directory, the limit on the number of files,
and the configuration file that was asked for. -/
structure Context where
  host : Host
  cwd : Path
  limit : Nat
  config : Option Path

/-- What a command comes to: its exit code, what it prints, what it logs, the file tree after
it, and a fault that the user is not told about in words. -/
structure Outcome where
  exit : Nat
  printed : Text
  records : List Log.Record
  tree : FileTree
  raised : Option Fault

/-- A record of the command itself. -/
def record (level : Log.Level) (message : Text) : Log.Record := ⟨level, Log.rootLogger, message, []⟩

/-- Ends with an error message. -/
def refuse (tree : FileTree) (records : List Log.Record) (message : Text) : Outcome :=
  ⟨1, [], records ++ [record .error message], tree, none⟩

/-- Ends with a fault: a failure is told as it is, something invalid after the given words. -/
def failWith (tree : FileTree) (records : List Log.Record) (invalid : Text) (e : Fault) : Outcome :=
  match e, e.invalid? with
  | .failure f, _ => refuse tree records f.message
  | .config (.missingFile p), _ =>
    refuse tree records (invalid ++ (ConfigFault.missingFile p).message)
  | _, some message => refuse tree records (invalid ++ message)
  | e, none => ⟨1, [], records, tree, some e⟩

/-- The words before what is wrong with the settings. -/
def loadingWords : Text := "Failed to load config: ".toList

/-- The words before what is wrong with a value that is used. -/
def usingWords : Text := "Invalid configuration: ".toList

/-- Finds the project of the working directory and its settings. Package directories that are
given replace the configured ones. -/
def loadProject (ctx : Context) (tree : FileTree) (packageDirs : List Text) :
    Logged Fault (Path × Config) := do
  let root ← Project.findRoot tree Project.markers ctx.cwd ctx.cwd
  Logged.log (record .debug ("Project root: ".toList ++ root.toText))
  let config ← Logged.ofExcept
    ((Config.load ctx.host.env tree ctx.cwd ctx.config (some root)).mapError .config)
  match config.origin with
  | some p => Logged.log (record .debug ("Loaded config from: ".toList ++ p.toText))
  | none => pure ()
  if packageDirs.isEmpty then return (root, config)
  else
    let config ← Logged.ofExcept
      ((config.withPackageDirs (packageDirs.map .text)).mapError .config)
    return (root, config)

/-- The place for the output: the one that was asked for, or the configured one under the root, if
any. -/
def target (root : Path) (config : Config) (asked : Option Text) : Except Fault (Option Path) :=
  match asked with
  | some t => .ok (some (Path.ofText t))
  | none =>
    if config.output.truthy then
      match config.output with
      | .text t => .ok (some (root.child t))
      | _ => .error .outputShape
    else .ok none

/-- The bundle of files that are named from the working directory. -/
def bundle (ctx : Context) (tree : FileTree) (root : Path) (config : Config) (files : List Text) :
    Logged Fault Bundle := do
  let labels ← Logged.ofExcept (Project.entries ctx.cwd root files)
  let s ← Logged.ofExcept (Project.setup ctx.host.codecs tree ctx.limit ctx.cwd root config)
  Bundle.run s.finder s.template labels

/-- The labels of files that are named from the working directory and of all they import. -/
def labelsInOrder (ctx : Context) (tree : FileTree) (root : Path) (config : Config)
    (files : List Text) : Logged Fault (List Text) := do
  let labels ← Logged.ofExcept (Project.entries ctx.cwd root files)
  let s ← Logged.ofExcept (Project.setup ctx.host.codecs tree ctx.limit ctx.cwd root config)
  Bundle.sortedFiles s.finder labels

/-- Gives a bundle away: to a file if there is a place for it, else by printing it. -/
def deliver (ctx : Context) (tree : FileTree) (records : List Log.Record) (config : Config)
    (place : Option Path) (b : Bundle) : Outcome :=
  match place with
  | none =>
    match ctx.host.console b.text with
    | .ok shown => ⟨0, shown, records, tree, none⟩
    | .error message => failWith tree records usingWords (.unprintable message)
  | some p =>
    let change := Output.write ctx.host.codecs tree ctx.cwd p b.text config.encoding
    let records := records ++ change.records
    match change.fault with
    | some e => failWith change.tree records usingWords e
    | none =>
      ⟨0, [], records ++ [record .info ("Flattened source written to: ".toList ++ p.toText)],
        change.tree, none⟩

/-- Makes the bundle of the files and gives it away. -/
def flatten (ctx : Context) (tree : FileTree) (files : List Text) (asked : Option Text)
    (packageDirs : List Text) : Outcome :=
  match loadProject ctx tree packageDirs with
  | ⟨records, .error e⟩ => failWith tree records loadingWords e
  | ⟨records, .ok (root, config)⟩ =>
    match target root config asked with
    | .error e => ⟨1, [], records, tree, some e⟩
    | .ok place =>
      match bundle ctx tree root config files with
      | ⟨more, .error e⟩ => failWith tree (records ++ more) usingWords e
      | ⟨more, .ok b⟩ => deliver ctx tree (records ++ more) config place b

/-- Prints the labels of the files and of all they import, one on a line. -/
def order (ctx : Context) (tree : FileTree) (files packageDirs : List Text) : Outcome :=
  match loadProject ctx tree packageDirs with
  | ⟨records, .error e⟩ => failWith tree records loadingWords e
  | ⟨records, .ok (root, config)⟩ =>
    match labelsInOrder ctx tree root config files with
    | ⟨more, .error e⟩ => failWith tree (records ++ more) usingWords e
    | ⟨more, .ok labels⟩ =>
      match ctx.host.console.showLines labels with
      | (shown, none) => ⟨0, shown, records ++ more, tree, none⟩
      | (shown, some message) => ⟨1, shown, records ++ more, tree, some (.unprintable message)⟩

/-- The name of the configuration file in the working directory. -/
def configName : Text := "solflat.yaml".toList

/-- Writes a configuration file with the default settings. -/
def init (ctx : Context) (tree : FileTree) (force : Bool) : Outcome :=
  let p := ctx.cwd.child configName
  if tree.occupied p && !force then
    refuse tree [record .info "Use --force to overwrite".toList]
      ("Config already exists: ".toList ++ configName)
  else
    match tree.write p (Utf8.encode Config.sample) with
    | some tree => ⟨0, [], [record .info ("Created config: ".toList ++ configName)], tree, none⟩
    | none => ⟨1, [], [], tree, some .directoryInPlace⟩

/-- Does what a command line asks for. -/
def perform (host : Host) (cwd : Path) (limit : Nat) (tree : FileTree) (i : Invocation) :
    Outcome :=
  let ctx : Context := ⟨host, cwd, limit, i.config.map Path.ofText⟩
  match i.command with
  | .flatten files output dirs => flatten ctx tree files output dirs
  | .order files dirs => order ctx tree files dirs
  | .init force => init ctx tree force

/-- What the program says about its version. -/
def versionText : Text := "solflat 0.1.0".toList

/-- Prints what the program says about its version. -/
def version (host : Host) (tree : FileTree) : Outcome :=
  match host.console.showLines [versionText] with
  | (shown, none) => ⟨0, shown, [], tree, none⟩
  | (shown, some message) => ⟨1, shown, [], tree, some (.unprintable message)⟩

/-- What a command line comes to, and how its records are to be written. -/
structure Reply where
  outcome : Outcome
  settings : Log.Settings

/-- Reads a command line in the directory `cwd` and does what it asks for; there is no reply to a
command line that is not understood. -/
def respond (host : Host) (terminal : Bool) (cwd : Path) (limit : Nat) (tree : FileTree)
    (args : List Text) : Option Reply :=
  let colors := Log.Settings.wantsColors terminal host.env
  match Arguments.parse tree cwd args with
  | none => none
  | some .version => some ⟨version host tree, Log.Settings.ofFlags false false false colors⟩
  | some (.run i) =>
    some ⟨perform host cwd limit tree i, Log.Settings.ofFlags i.verbose i.quiet i.ci colors⟩

/-- What is written to the log of a reply. -/
def Reply.log (r : Reply) (clock : Log.Clock) : Text :=
  r.outcome.records.flatMap (r.settings.output clock)

end Flattener.Command
