import Flattener.Config.Basic
import Flattener.Encoding.Codec
import Flattener.Failure
import Flattener.Graph.Order
import Flattener.Graph.Walk
import Flattener.Marker.Template
import Flattener.Path.Entry
import Flattener.Version.Reconcile

/-!
# Faults

Everything that can end a run. A *failure* is a finding about the project and is told to the
user. Among the other faults, some say that something given is *invalid*, which the user is told
with a word about where it came from; the rest is a defect of the configuration or of a caller.
-/

namespace Flattener

/-- Why a run ends early. -/
inductive Fault where
  | failure (f : Failure)
  /-- A source that was read before cannot be read when its body is taken. -/
  | source (e : SyntaxError)
  /-- The range of a version cannot be computed. -/
  | version (v : VersionFault)
  | path (p : PathFault)
  | template (e : Marker.SyntaxFault)
  /-- The configured marker is no text. -/
  | markerShape
  | marker (e : Marker.RenderFault)
  | encoding (e : EncodingFault)
  | config (e : ConfigFault)
  /-- The configured output place is no text. -/
  | outputShape
  /-- A text has no bytes on the console. -/
  | unprintable (message : Text)
  /-- A path or a name on it is longer than the file system allows. -/
  | nameTooLong
  /-- A label is not known. -/
  | unknownFile (path : Text)
  /-- A file cannot be written since a directory stands in its place. -/
  | directoryInPlace
  /-- The limit on the number of files is reached. -/
  | tooManyFiles
  deriving DecidableEq, Repr

namespace Fault

/-- What the user is told about something invalid. -/
def invalid? : Fault → Option Text
  | version v => some v.message
  | path p => some p.message
  | template e => some e.report
  | encoding e => e.invalid?
  | unprintable message => some message
  | config (.unsetVariable name) => some (ConfigFault.unsetVariable name).message
  | config (.absolutePackageDir dir) => some (ConfigFault.absolutePackageDir dir).message
  | config .multilineMarker => some ConfigFault.multilineMarker.message
  | config (.undecodable e) => some (ConfigFault.undecodable e).message
  | config (.document e) => e.message?
  | _ => none

end Fault

/-- A fault of a walk as a fault of a run. -/
def WalkFault.toFault : WalkFault Fault → Fault
  | lookup e => e
  | unparsable file e => .failure (.unparsable file (some e.message))
  | tooManyFiles => .tooManyFiles

/-- A fault in ordering a graph as a fault of a run. -/
def OrderFault.toFault (g : Graph) : OrderFault → Fault
  | unranked path => .unknownFile path
  | cyclic => .failure (.cyclic g.labels)

/-- A fault in reconciling versions as a fault of a run. -/
def ReconcileFault.toFault : ReconcileFault → Fault
  | failure f => .failure f
  | range v => .version v
  | unknownFile file => .unknownFile file

end Flattener
