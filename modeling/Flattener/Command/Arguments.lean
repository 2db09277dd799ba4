import Flattener.FileTree.Basic

/-!
# Command-line arguments

The command line is a row of global options, a command, and the options and files of the command.
An option is written with two hyphens and a name or with one hyphen and a letter; its value
follows it or is attached to it. Letters of options without value may stand together.

* `Arguments.scan` sorts arguments into options and others.
* `Arguments.read` reads a whole command line; there is nothing if it is not understood.
* `Arguments.parse` also looks at the files that the command line names.
-/

namespace Flattener.Arguments

/-- An option: its long name, its letter, and whether it has a value. -/
structure Spec where
  long : Text
  short : Option Char
  hasValue : Bool
  deriving DecidableEq, Repr

/-- Options that were given, each with its value if it has one, and the other arguments. -/
structure Scanned where
  options : List (Spec × Text)
  others : List Text

/-- What an argument with options comes to: those it holds, and one that waits for its value. -/
abbrev Step := List (Spec × Text) × Option Spec

/-- Reads the letters after one hyphen. -/
def letters (specs : List Spec) : Text → Option Step
  | [] => some ([], none)
  | c :: t =>
    match specs.find? fun s => s.short = some c with
    | none => none
    | some s =>
      if s.hasValue then if t.isEmpty then some ([], some s) else some ([(s, t)], none)
      else (letters specs t).map fun r => ((s, []) :: r.1, r.2)

/-- Reads an argument that starts with a hyphen. -/
def option (specs : List Spec) (arg : Text) : Option Step :=
  let name := arg.takeWhile (· ≠ '=')
  let attached : Option Text :=
    match arg.dropWhile (· ≠ '=') with
    | [] => none
    | _ :: value => some value
  match specs.find? fun s => s.long = name with
  | some s =>
    match s.hasValue, attached with
    | true, some value => some ([(s, value)], none)
    | true, none => some ([], some s)
    | false, some _ => none
    | false, none => some ([(s, [])], none)
  | none => if "--".toList.isPrefixOf arg then none else letters specs (arg.drop 1)

/-- Whether an argument may hold options. -/
def looksLikeOption : Text → Bool
  | '-' :: _ :: _ => true
  | _ => false

/-- Sorts arguments into options and others. `waiting` is an option whose value comes next. If
options and others may not be mixed, the first other argument ends the options; two hyphens
alone always do. -/
def scan (specs : List Spec) (mixed : Bool) (waiting : Option Spec) : List Text → Option Scanned
  | [] => if waiting.isSome then none else some ⟨[], []⟩
  | arg :: args =>
    match waiting with
    | some s =>
      (scan specs mixed none args).map fun r => { r with options := (s, arg) :: r.options }
    | none =>
      if arg = "--".toList then some ⟨[], args⟩
      else if looksLikeOption arg then do
        let step ← option specs arg
        let r ← scan specs mixed step.2 args
        return { r with options := step.1 ++ r.options }
      else if mixed then
        (scan specs mixed none args).map fun r => { r with others := arg :: r.others }
      else some ⟨[], arg :: args⟩

namespace Scanned

/-- Whether an option was given. -/
def has (r : Scanned) (s : Spec) : Bool := r.options.any (·.1 = s)

/-- The values that an option was given, in order. -/
def values (r : Scanned) (s : Spec) : List Text := (r.options.filter (·.1 = s)).map (·.2)

/-- The last value that an option was given. -/
def value? (r : Scanned) (s : Spec) : Option Text := (r.values s).getLast?

end Scanned

/-! ### The options -/

/-- The configuration file. -/
def config : Spec := ⟨"--config".toList, some 'c', true⟩

/-- Log details. -/
def verbose : Spec := ⟨"--verbose".toList, some 'v', false⟩

/-- Log warnings and errors only. -/
def quiet : Spec := ⟨"--quiet".toList, some 'q', false⟩

/-- Log for machines. -/
def ci : Spec := ⟨"--ci".toList, none, false⟩

/-- Tell the version of the program. -/
def version : Spec := ⟨"--version".toList, none, false⟩

/-- The place of the output. -/
def output : Spec := ⟨"--output".toList, some 'o', true⟩

/-- A package directory. -/
def packageDir : Spec := ⟨"--package-dir".toList, some 'p', true⟩

/-- Overwrite an existing file. -/
def force : Spec := ⟨"--force".toList, none, false⟩

/-! ### The command line -/

/-- What the program is to do. -/
inductive Command where
  | flatten (files : List Text) (output : Option Text) (packageDirs : List Text)
  | order (files : List Text) (packageDirs : List Text)
  | init (force : Bool)
  deriving DecidableEq, Repr

namespace Command

/-- The entry files that are named. -/
def files : Command → List Text
  | flatten files _ _ => files
  | order files _ => files
  | init _ => []

/-- The place for the output that is asked for. -/
def output? : Command → Option Text
  | flatten _ output _ => output
  | _ => none

/-- The package directories that are given. -/
def packageDirs : Command → List Text
  | flatten _ _ dirs => dirs
  | order _ dirs => dirs
  | init _ => []

end Command

/-- The global options and the command. -/
structure Invocation where
  config : Option Text
  verbose : Bool
  quiet : Bool
  ci : Bool
  command : Command
  deriving DecidableEq, Repr

/-- What a command line asks for. -/
inductive Request where
  | version
  | run (i : Invocation)
  deriving DecidableEq, Repr

/-- Reads a command and its arguments. -/
def command (name : Text) (args : List Text) : Option Command :=
  if name = "flatten".toList then do
    let r ← scan [output, packageDir] true none args
    if r.others.isEmpty then none
    else return .flatten r.others (r.value? output) (r.values packageDir)
  else if name = "order".toList then do
    let r ← scan [packageDir] true none args
    if r.others.isEmpty then none else return .order r.others (r.values packageDir)
  else if name = "init".toList then do
    let r ← scan [force] true none args
    if r.others.isEmpty then return .init (r.has force) else none
  else none

/-- The options that stand before the command. -/
def globalOptions : List Spec := [config, verbose, quiet, ci, version]

/-- The names of the commands. -/
def commandNames : List Text := ["flatten", "order", "init"].map String.toList

/-- Reads a command line. If the command is not known, it may be an option for the version that
stands in the place of one. -/
def read (args : List Text) : Option Request := do
  let r ← scan globalOptions false none args
  if r.has version then return .version
  else
    match r.others with
    | [] => none
    | name :: rest =>
      if commandNames.contains name then
        let c ← command name rest
        return .run ⟨r.value? config, r.has verbose, r.has quiet, r.has ci, c⟩
      else
        let r ← scan globalOptions false none (name :: rest)
        if r.has version then return .version else none

/-- The paths that a command line names. -/
def Invocation.paths (i : Invocation) : List Text :=
  i.config.toList ++ i.command.files ++ i.command.output?.toList

/-- Whether the paths that a command line names can be what they are named for: none holds a null
character, the configuration file exists, and no entry is a directory. -/
def acceptable (tree : FileTree) (cwd : Path) (i : Invocation) : Bool :=
  !i.paths.any (·.contains '\x00') && i.config.all (fun c => tree.isFile (cwd.child c)) &&
    i.command.files.all fun f => !tree.isDirectory (cwd.child f)

/-- Reads a command line in the working directory `cwd`, where the files that it names have to
be acceptable. -/
def parse (tree : FileTree) (cwd : Path) (args : List Text) : Option Request :=
  match read args with
  | some (.run i) => if acceptable tree cwd i then some (.run i) else none
  | r => r

end Flattener.Arguments
