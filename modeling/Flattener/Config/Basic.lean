import Flattener.Config.Substitute
import Flattener.Config.Yaml.Fault
import Flattener.Encoding.Basic
import Flattener.Path.Basic

/-!
# Configuration

What a project may set: the directories with installed packages and the encoding of its sources,
the default place for the output and the template of the file markers. Only the package
directories are checked in full; the other settings are kept as they were given, and are looked
at when they are used.

* `Config.ofSetting` reads the configuration off a setting.
* `ConfigFault` says why there are none.
-/

namespace Flattener

/-- Why a configuration cannot be used. -/
inductive ConfigFault where
  /-- An environment variable is not set. -/
  | unsetVariable (name : Text)
  /-- A package directory is absolute. -/
  | absolutePackageDir (dir : Text)
  /-- The file marker has several lines. -/
  | multilineMarker
  /-- A value of another shape is needed. -/
  | wrongShape
  /-- A section is not an object. -/
  | noSection
  /-- The configuration file cannot be read as a document. -/
  | document (e : Yaml.Fault)
  /-- The configuration file does not exist. -/
  | missingFile (path : Text)
  /-- The configuration file is a directory. -/
  | directoryGiven
  /-- The configuration file is no text. -/
  | undecodable (e : DecodeFault)
  deriving DecidableEq, Repr

/-- What is said about a configuration fault. -/
def ConfigFault.message : ConfigFault → Text
  | unsetVariable name => "Environment variable not set: ".toList ++ name
  | absolutePackageDir dir =>
    "Package directory must be relative to the project root: ".toList ++ dir
  | multilineMarker => "File marker must be a single line".toList
  | wrongShape => "a value of another shape is needed".toList
  | noSection => "a section must be an object".toList
  | document e => e.message?.getD "the document is malformed".toList
  | missingFile path => "Config file not found: ".toList ++ path
  | directoryGiven => "the configuration file is a directory".toList
  | undecodable e => e.message

/-- The settings of a project. -/
structure Config where
  packageDirs : List Text := ["node_modules".toList, "installed_contracts".toList]
  encoding : Setting := .text "utf-8".toList
  output : Setting := .null
  marker : Setting := .text "// File: \x7b\x7b path \x7d\x7d".toList
  /-- The file that the settings come from. -/
  origin : Option Path := none
  deriving Repr

namespace Config

/-- Whether `key` is found in a value: as a key, a member, or a part of a text. -/
def holds (key : Text) : Setting → Except ConfigFault Bool
  | .object fields => .ok (Setting.field? fields key).isSome
  | .list vs => .ok (vs.any fun | .text t => t = key | _ => false)
  | .text t => .ok (Text.occursIn key t)
  | _ => .error .wrongShape

/-- The fields of the section `key`, when there is one. A section that counts as nothing has no
fields. -/
def section? (key : Text) (data : Setting) : Except ConfigFault (Option Setting.Fields) := do
  if ← holds key data then
    match data with
    | .object fields =>
      match Setting.field? fields key with
      | some (.object inner) => return some inner
      | some v => if v.truthy then .error .noSection else return some []
      | none => return some []
    | _ => .error .wrongShape
  else return none

/-- The members of a value: those of a list, the keys of an object, the characters of a text. -/
def members : Setting → Except ConfigFault (List Setting)
  | .list vs => .ok vs
  | .object fields => .ok (fields.map fun f => .ofKey f.1)
  | .text t => .ok (t.map fun c => .text [c])
  | _ => .error .wrongShape

/-- Checks one package directory: it has to be a text and a relative path. -/
def packageDir : Setting → Except ConfigFault Text
  | .text t => if (Path.ofText t).isAbsolute then .error (.absolutePackageDir t) else .ok t
  | _ => .error .wrongShape

/-- The settings with other package directories. -/
def withPackageDirs (c : Config) (dirs : List Setting) : Except ConfigFault Config := do
  return { c with packageDirs := ← dirs.mapM packageDir }

/-- Takes the settings for finding sources from a section. -/
def withResolver (c : Config) (fields : Setting.Fields) : Except ConfigFault Config := do
  let dirs ←
    match Setting.field? fields "package_dirs".toList with
    | some v => members v
    | none => pure (c.packageDirs.map .text)
  let c ← c.withPackageDirs dirs
  return { c with encoding := (Setting.field? fields "encoding".toList).getD c.encoding }

/-- Takes the settings for the output from a section. The marker must not hold a line feed. -/
def withOutput (c : Config) (fields : Setting.Fields) : Except ConfigFault Config := do
  let marker := (Setting.field? fields "marker".toList).getD c.marker
  if ← holds ['\n'] marker then .error .multilineMarker
  else
    return { c with
      output := (Setting.field? fields "path".toList).getD c.output
      marker := marker }

/-- Reads the settings off a value, in which environment variables may be named. -/
def ofSetting (env : Environment) (data : Setting) : Except ConfigFault Config := do
  let data ← (substitute env data).mapError .unsetVariable
  let c : Config := {}
  let c ←
    match ← section? "resolver".toList data with
    | some fields => c.withResolver fields
    | none => pure c
  match ← section? "output".toList data with
  | some fields => c.withOutput fields
  | none => return c

end Config

end Flattener
