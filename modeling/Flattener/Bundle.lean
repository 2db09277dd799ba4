import Flattener.Fault
import Flattener.Log.Record
import Flattener.Source.Body

/-!
# Bundles

A *bundle* is the flattened source: one version declaration, then for every file its marker and
its body, each file after everything that it imports. It is made in four steps: the graph is
built, its files are put in order, their versions are reconciled, and the text is written. All of
them are done before anything is given away, so a failure leaves nothing behind.

* `Bundle.layout` writes the text piece by piece.
* `Bundle.sortedFiles` and `Bundle.run` go through the steps.
-/

namespace Flattener

/-- The outcome of a run: the labels of its files in order, the version, the graph, the text. -/
structure Bundle where
  files : List Text
  version : Option Constraint
  graph : Graph
  chunks : List Text

namespace Bundle

/-- The flattened source. -/
def text (b : Bundle) : Text := b.chunks.flatten

/-! ### Writing -/

/-- The section of a file: its marker and, after an empty line, its body if there is one. -/
def fileSection (template : Marker.Template) (path content : Text) (index : Nat) :
    Except Fault Text := do
  let marker ← (template.render path index).mapError .marker
  let body ← (Body.clean content).mapError .source
  if body.isEmpty then return marker ++ ['\n'] else return marker ++ '\n' :: '\n' :: body

/-- The sections of files from position `index` on, each after an empty line if something has
been written before. -/
def sections (template : Marker.Template) (content : Text → Option Text) (started : Bool)
    (index : Nat) : List Text → Except Fault (List Text)
  | [] => .ok []
  | path :: paths =>
    match content path with
    | none => .error (.unknownFile path)
    | some source => do
      let this ← fileSection template path source index
      let later ← sections template content true (index + 1) paths
      return (if started then [['\n']] else []) ++ this :: later

/-- The line that declares a version. -/
def versionLine (c : Constraint) : Text := "pragma solidity ".toList ++ c.raw ++ ";\n".toList

/-- The pieces of the flattened source of `files`, which hold what `content` says. -/
def layout (template : Marker.Template) (content : Text → Option Text)
    (version : Option Constraint) (files : List Text) : Except Fault (List Text) := do
  let body ← sections template content version.isSome 1 files
  return (version.map versionLine).toList ++ body

/-! ### Steps of a run -/

/-- The texts of the files of a graph. -/
def contentOf (g : Graph) (path : Text) : Option Text := (g.file? path).map SourceFile.content

/-- The version declarations of the files of a graph. -/
def versionsOf (g : Graph) (path : Text) : Option (List Text) :=
  (g.file? path).map SourceFile.versions

/-- Looks for files: a resolver, what it says about its work on a specifier, and the limit on the
number of files. -/
structure Finder where
  resolver : Resolver Fault
  trail : Text → List Log.Record := fun _ => []
  limit : Nat

/-- What is logged about an event of a walk. -/
def eventRecords (finder : Finder) : WalkEvent → List Log.Record
  | .asked specifier => finder.trail specifier
  | .linked edge =>
    [⟨.debug, Log.loggerOf "analyzers.graph_builder",
      edge.dependent ++ " imports ".toList ++ edge.dependency, []⟩]
  | .exhausted _ => []

/-- Builds the graph of everything that can be reached from the entries. -/
def discover (finder : Finder) (entries : List Text) : Logged Fault Graph :=
  match build finder.resolver finder.limit {} entries with
  | (s, .error e) => ⟨s.events.flatMap (eventRecords finder), .error e.toFault⟩
  | (s, .ok g) =>
    ⟨s.events.flatMap (eventRecords finder) ++
      [⟨.debug, Log.loggerOf "analyzers.graph_builder",
        "Discovered ".toList ++ Text.ofNat g.size ++ " files and ".toList ++
          Text.ofNat g.edges.length ++ " import edges".toList, []⟩], .ok g⟩

/-- Puts the files of a graph in order. -/
def arrange (g : Graph) : Logged Fault (List Text) :=
  match g.order with
  | .ok files =>
    ⟨[⟨.debug, Log.loggerOf "analyzers.sorter",
      "Topological order: ".toList ++ Failure.commaList files, []⟩], .ok files⟩
  | .error .cyclic =>
    ⟨[⟨.debug, Log.loggerOf "analyzers.sorter", "Cycle found: *".toList, []⟩],
      .error (OrderFault.cyclic.toFault g)⟩
  | .error e => ⟨[], .error (e.toFault g)⟩

/-- Finds the one version of all files. -/
def unify (g : Graph) (files : List Text) : Logged Fault (Option Constraint) :=
  match reconcile (versionsOf g) files with
  | .error e => ⟨[], .error e.toFault⟩
  | .ok none => ⟨[], .ok none⟩
  | .ok (some c) =>
    ⟨[⟨.info, Log.loggerOf "analyzers.versions",
      "Unified compiler version: ".toList ++ c.raw, []⟩], .ok (some c)⟩

/-- The labels of everything that can be reached from the entries, in order. -/
def sortedFiles (finder : Finder) (entries : List Text) : Logged Fault (List Text) := do
  arrange (← discover finder entries)

/-- Makes the bundle of the entries. -/
def run (finder : Finder) (template : Marker.Template) (entries : List Text) :
    Logged Fault Bundle := do
  Logged.log ⟨.info, Log.loggerOf "pipeline",
    "Flattening ".toList ++ Text.ofNat entries.length ++ " entry file(s)".toList, []⟩
  let graph ← discover finder entries
  let files ← arrange graph
  let version ← unify graph files
  let chunks ← Logged.ofExcept (layout template (contentOf graph) version files)
  Logged.log ⟨.info, Log.loggerOf "pipeline",
    "Flattened ".toList ++ Text.ofNat files.length ++ " file(s)".toList,
    [("files".toList, .int files.length), ("edges".toList, .int graph.edges.length),
      ("version".toList, (version.map fun c => Value.text c.raw).getD .null)]⟩
  return ⟨files, version, graph, chunks⟩

end Bundle

end Flattener
