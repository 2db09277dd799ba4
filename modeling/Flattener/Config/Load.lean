import Flattener.Config.Basic
import Flattener.Config.Yaml.Basic
import Flattener.FileTree.Basic

/-!
# Configuration files

The settings of a project are read from the file that was asked for, or else from one of two
places under the project root. Without such a file the settings are the default ones.
-/

namespace Flattener.Config

/-- The places of a project's configuration file, in order. -/
def places (root : Path) : List Path :=
  [(root.child ".solflat".toList).child "config.yaml".toList, root.child "solflat.yaml".toList]

/-- The configuration file of a project, seen from `cwd`. -/
def findFile (tree : FileTree) (cwd root : Path) : Option Path :=
  (places root).find? fun p => tree.isFile (cwd.join p)

/-- Reads a text as a document; one that counts as nothing has no settings. -/
def readDocument (t : Text) : Except ConfigFault Setting := do
  let v ← (Yaml.parse t).mapError .document
  return if v.truthy then v else .object []

/-- Reads the settings from the file at `p`, seen from `cwd`. -/
def readFile (env : Environment) (tree : FileTree) (cwd p : Path) : Except ConfigFault Config :=
  match tree.find? (cwd.join p) with
  | none => .error (.missingFile p.toText)
  | some .directory => .error .directoryGiven
  | some (.file bytes) => do
    let t ← (Encoding.utf8.decode bytes).mapError .undecodable
    let data ← readDocument (Text.unifyNewlines t)
    return { ← ofSetting env data with origin := some p }

/-- The settings from the file `asked`, or from the configuration file under `root`. -/
def load (env : Environment) (tree : FileTree) (cwd : Path) (asked root : Option Path) :
    Except ConfigFault Config :=
  match asked.or (root.bind (findFile tree cwd)) with
  | some p => readFile env tree cwd p
  | none => .ok {}

/-- A configuration file with the default settings and explanations. -/
def sample : Text :=
  ("# solflat configuration\n" ++
    "# Its presence also marks the project root for solflat.\n" ++
    "\n" ++
    "# Import resolution\n" ++
    "resolver:\n" ++
    "  # Directories (relative to the project root) searched for package imports\n" ++
    "  # such as \"openzeppelin-solidity/contracts/math/SafeMath.sol\"\n" ++
    "  package_dirs:\n" ++
    "    - \"node_modules\"\n" ++
    "    - \"installed_contracts\"\n" ++
    "  encoding: \"utf-8\"\n" ++
    "\n" ++
    "# Output settings\n" ++
    "output:\n" ++
    "  # path: \"build/Flattened.sol\"   # stdout when not set\n" ++
    "  marker: \"// File: \x7b\x7b path \x7d\x7d\"   " ++
    "# file-boundary comment (Jinja2, vars: path, index)\n").toList

end Flattener.Config
