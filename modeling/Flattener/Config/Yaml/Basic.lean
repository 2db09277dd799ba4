import Flattener.Config.Yaml.Node
import Flattener.Setting

/-!
# Configuration documents

Configuration files are YAML documents. This module turns the nodes of a document into settings.
An object may take over the fields of other ones, which come before its own; of fields with one
key the last counts.

* `Yaml.parse` reads a document.
-/

namespace Flattener.Yaml

namespace Node

/-- The fields that are merged into an object by the node `v` of a merge key: those of an object,
or of the objects of a list, the last one first. -/
def mergedFields (flatten : List (Node × Node) → Except Fault (List (Node × Node))) (v : Node) :
    Except Fault (List (Node × Node)) :=
  match v with
  | object _ fields => flatten fields
  | list _ nodes => do
    let parts ← nodes.mapM fun
      | object _ fields => flatten fields
      | endless => .error .endless
      | _ => .error .malformed
    return parts.reverse.flatten
  | endless => .error .endless
  | scalar .. => .error .malformed

/-- The fields of an object with those that it takes over before its own. `fuel` bounds how far
objects are taken over by others. -/
def flatFields (fuel : Nat) (fields : List (Node × Node)) : Except Fault (List (Node × Node)) :=
  match fuel with
  | 0 => .error .malformed
  | fuel + 1 => do
    let isMerge (f : Node × Node) : Bool := match f.1 with | scalar .merge _ => true | _ => false
    let merged ← (fields.filter isMerge).mapM fun f => mergedFields (flatFields fuel) f.2
    return merged.flatten ++ fields.filter fun f => !isMerge f

/-- The text of a node that is tagged as a single value. An object stands for the value of its
default key. -/
def textOf (fuel : Nat) : Node → Except Fault Text
  | scalar _ t => .ok t
  | object _ fields =>
    match fuel with
    | 0 => .error .malformed
    | fuel + 1 =>
      match fields.find? fun f => match f.1 with | scalar .default _ => true | _ => false with
      | some f => textOf fuel f.2
      | none => .error .malformed
  | _ => .error .malformed

/-- The setting of a single value. -/
def scalarSetting (tag : Tag) (t : Text) : Except Fault Setting :=
  match tag with
  | .null => .ok .null
  | .bool =>
    match truthWords.lookup (t.map Char.toLower) with
    | some b => .ok (.bool b)
    | none => .error .truthValue
  | .int => (readInteger t).map .int
  | .real => (readReal t).map .real
  | .moment => (readMoment t).map .moment
  | .text => .ok (.text t)
  | _ => .error .malformed

/-- The key that a node denotes, if `read` gives its setting. A default key is a text. -/
def keyOf (read : Node → Except Fault Setting) (node : Node) : Except Fault Setting.Key :=
  match node with
  | scalar .default t => .ok (.text t)
  | node => do
    match (← read node).toKey? with
    | some key => return key
    | none => .error .malformed

/-- The setting that a node denotes. `fuel` bounds the depth of the node. -/
def toSetting (fuel : Nat) (node : Node) : Except Fault Setting :=
  match fuel with
  | 0 => .error .malformed
  | fuel + 1 =>
    match node with
    | endless => .error .endless
    | scalar tag t => scalarSetting tag t
    | list .list nodes => do return .list (← nodes.mapM (toSetting fuel))
    | list _ _ => .error .malformed
    | object .object fields => do
      let fields ← flatFields fuel fields
      let read := toSetting fuel
      let fields ← fields.mapM fun f => do return (← keyOf read f.1, ← read f.2)
      return .object (fields.foldl (fun fs f => Setting.putField f.1 f.2 fs) [])
    | object tag fields => do scalarSetting tag (← textOf fuel (object tag fields))

end Node

/-- The characters that a document may hold. -/
def isAllowed (c : Char) : Bool :=
  c = '\t' || c = '\n' || c = '\r' || (0x20 ≤ c.toNat && c.toNat ≤ 0x7E) || c.toNat = 0x85 ||
    (0xA0 ≤ c.toNat && c.toNat ≤ 0xFFFD) || 0x10000 ≤ c.toNat

/-- Reads a document; an empty one is nothing. -/
def parse (t : Text) : Except Fault Setting := do
  if !t.all isAllowed then throw .malformed
  match ← Node.ofTokens (← Token.all (Text.unifyNewlines t)) with
  | none => return .null
  | some node => node.toSetting (t.length + 2)

end Flattener.Yaml
