import Flattener.Config.Yaml.Plain
import Flattener.Config.Yaml.Token

/-!
# Nodes of a document

The tokens of a document form a tree of nodes: texts, lists and objects, each with the kind of
value that it is. A mention of a named node stands for that node.

* `Node.ofTokens` reads the tree of a single document.
-/

namespace Flattener.Yaml

/-- A node of a document. -/
inductive Node where
  | scalar (tag : Tag) (t : Text)
  | list (tag : Tag) (nodes : List Node)
  | object (tag : Tag) (fields : List (Node × Node))
  /-- A mention of a node inside that node itself. -/
  | endless
  deriving Repr

namespace Node

/-- An omitted node. -/
def nothing : Node := scalar .null []

/-- What is still to be read, and what the reader knows. -/
structure Source where
  tokens : List Token
  /-- What the handles of tags stand for. -/
  handles : List (Text × Text) := []
  /-- The named nodes; one that is not complete has no tree yet. -/
  named : List (Text × Option Node) := []

/-- A step of reading. -/
abbrev Reader := StateT Source (Except Fault)

/-- Gives up. -/
def refuse {α : Type} : Reader α := throw .malformed

/-- The next token. -/
def peek : Reader Token := do
  return (← get).tokens.headD .finish

/-- Passes the next token. -/
def skip : Reader Unit := modify fun s => { s with tokens := s.tokens.tail }

/-- Passes the next token if it is the given one. -/
def accept (t : Token) : Reader Bool := do
  if (← peek) = t then
    skip
    return true
  else return false

/-- Passes the next token, which has to be the given one. -/
def expect (t : Token) : Reader Unit := do
  if !(← accept t) then refuse

/-- The full name of a tag. -/
def tagName (t : WrittenTag) : Reader Text := do
  match t.handle with
  | none => return t.suffix
  | some h =>
    match (← get).handles.lookup h with
    | some expansion => return expansion ++ t.suffix
    | none => refuse

/-- The name and the full tag that stand before a node, in any order. -/
structure Properties where
  name : Option Text := none
  tag : Option Text := none

/-- Reads the name before a node, if there is one. -/
def readName : Reader (Option Text) := do
  match ← peek with
  | .named n =>
    skip
    return some n
  | _ => return none

/-- Reads the tag before a node, if there is one. -/
def readTag : Reader (Option Text) := do
  match ← peek with
  | .tag t =>
    skip
    return some (← tagName t)
  | _ => return none

/-- Reads what stands before a node. -/
def readProperties : Reader Properties := do
  match ← readName with
  | some n => return ⟨some n, ← readTag⟩
  | none =>
    let tag ← readTag
    if tag.isSome then return ⟨← readName, tag⟩ else return ⟨none, none⟩

/-- Whether a kind has to be found out: there is no tag, or the one that says nothing. -/
def Properties.isOpen (p : Properties) : Bool := p.tag.all (· = ['!'])

/-- The kind of a collection: the given one if the tag says nothing. -/
def Properties.kind (p : Properties) (otherwise : Tag) : Tag :=
  if p.isOpen then otherwise else Tag.ofName (p.tag.getD [])

/-- The node of a written text. -/
def ofScalar (p : Properties) (isPlain : Bool) (t : Text) : Node :=
  if p.isOpen then scalar (if isPlain || p.tag.isSome then .ofPlain t else .text) t
  else scalar (p.kind .text) t

/-- Remembers that a named node starts. A name is given only once. -/
def enter (p : Properties) : Reader Unit := do
  match p.name with
  | none => return
  | some n =>
    if ((← get).named.lookup n).isSome then refuse
    else modify fun s => { s with named := (n, none) :: s.named }

/-- Remembers the tree of a named node. -/
def leave (p : Properties) (node : Node) : Reader Node := do
  match p.name with
  | none => return node
  | some n =>
    modify fun s => { s with named := (n, some node) :: s.named }
    return node

/-- The node with the given name. -/
def mentioned (name : Text) : Reader Node := do
  match (← get).named.lookup name with
  | none => refuse
  | some none => return endless
  | some (some node) => return node

/-- Where a node stands: in brackets, among blocks, or as the value of a block object, where a
list needs no further indentation. -/
inductive Place where
  | flow
  | block
  | field
  deriving DecidableEq, Repr

mutual

/-- Reads a node. -/
def readNode (fuel : Nat) (place : Place) : Reader Node :=
  match fuel with
  | 0 => refuse
  | fuel + 1 => do
    match ← peek with
    | .mention name =>
      skip
      mentioned name
    | _ =>
      let p ← readProperties
      enter p
      leave p (← readContent fuel place p)

/-- Reads a node after its name and its tag. -/
def readContent (fuel : Nat) (place : Place) (p : Properties) : Reader Node :=
  match fuel with
  | 0 => refuse
  | fuel + 1 => do
    match ← peek, place with
    | .entry, .field => return list (p.kind .list) (← readEntries fuel true)
    | .scalar isPlain t, _ =>
      skip
      return ofScalar p isPlain t
    | .openList, _ =>
      skip
      return list (p.kind .list) (← readMembers fuel true)
    | .openObject, _ =>
      skip
      return object (p.kind .object) (← readPairs fuel true)
    | .blockList, .block | .blockList, .field =>
      skip
      return list (p.kind .list) (← readEntries fuel false)
    | .blockObject, .block | .blockObject, .field =>
      skip
      return object (p.kind .object) (← readFields fuel)
    | _, _ =>
      if p.name.isSome || p.tag.isSome then return ofScalar p true []
      else refuse

/-- Reads a node unless one of the given tokens follows. -/
def readUnless (fuel : Nat) (place : Place) (ends : List Token) : Reader Node :=
  match fuel with
  | 0 => refuse
  | fuel + 1 => do
    if ends.contains (← peek) then return nothing else readNode fuel place

/-- Reads the entries of a block list. If it is not indented further than its key it ends with
its last entry, else with the end of the block. -/
def readEntries (fuel : Nat) (level : Bool) : Reader (List Node) :=
  match fuel with
  | 0 => refuse
  | fuel + 1 => do
    if ← accept .entry then
      let ends := if level then [.entry, .key, .value, .blockEnd] else [.entry, .blockEnd]
      let node ← readUnless fuel .block ends
      return node :: (← readEntries fuel level)
    else
      if !level then expect .blockEnd
      return []

/-- Reads the fields of a block object up to the end of the block. -/
def readFields (fuel : Nat) : Reader (List (Node × Node)) :=
  match fuel with
  | 0 => refuse
  | fuel + 1 => do
    let ends : List Token := [.key, .value, .blockEnd]
    match ← peek with
    | .key =>
      skip
      let key ← readUnless fuel .field ends
      let value ← if ← accept .value then readUnless fuel .field ends else pure nothing
      return (key, value) :: (← readFields fuel)
    | _ =>
      expect .blockEnd
      return []

/-- Reads the members of a list in brackets. A pair with a key is an object of its own. -/
def readMembers (fuel : Nat) (first : Bool) : Reader (List Node) :=
  match fuel with
  | 0 => refuse
  | fuel + 1 => do
    if ← accept .closeList then return []
    else
      if !first then expect .comma
      match ← peek with
      | .key =>
        skip
        let key ← readUnless fuel .flow [.value, .comma, .closeList]
        let value ←
          if ← accept .value then readUnless fuel .flow [.comma, .closeList] else pure nothing
        return object .object [(key, value)] :: (← readMembers fuel false)
      | .closeList =>
        skip
        return []
      | _ =>
        let node ← readNode fuel .flow
        return node :: (← readMembers fuel false)

/-- Reads the fields of an object in braces. -/
def readPairs (fuel : Nat) (first : Bool) : Reader (List (Node × Node)) :=
  match fuel with
  | 0 => refuse
  | fuel + 1 => do
    if ← accept .closeObject then return []
    else
      if !first then expect .comma
      match ← peek with
      | .key =>
        skip
        let key ← readUnless fuel .flow [.value, .comma, .closeObject]
        let value ←
          if ← accept .value then readUnless fuel .flow [.comma, .closeObject] else pure nothing
        return (key, value) :: (← readPairs fuel false)
      | .closeObject =>
        skip
        return []
      | _ =>
        let key ← readNode fuel .flow
        return (key, nothing) :: (← readPairs fuel false)

end

/-! ### Documents -/

/-- The handles that need no directive. -/
def standardHandles : List (Text × Text) :=
  [("!".toList, "!".toList), ("!!".toList, "tag:yaml.org,2002:".toList)]

/-- What the handles stand for after the given directives; none if one of them is refused. -/
def handlesOf (version : Bool) (handles : List (Text × Text)) :
    List Directive → Option (List (Text × Text))
  | [] => some (handles ++ standardHandles)
  | .version major :: ds => if version || major ≠ 1 then none else handlesOf true handles ds
  | .handle h expansion :: ds =>
    if (handles.lookup h).isSome then none else handlesOf version ((h, expansion) :: handles) ds
  | .other :: ds => handlesOf version handles ds

/-- The directives at the start of a row of tokens, and the tokens after them. -/
def splitDirectives : List Token → List Directive × List Token
  | .directive d :: ts => let r := splitDirectives ts; (d :: r.1, r.2)
  | ts => ([], ts)

/-- Reads the node of a document that starts with a mark. -/
def readMarked (fuel : Nat) : Reader Node := do
  match ← peek with
  | .directive _ | .documentStart | .documentEnd | .finish => return nothing
  | _ => readNode fuel .block

/-- The end of a document, after which there is no other one. -/
def readEnd : Reader Unit := do
  modify fun s => { s with tokens := s.tokens.dropWhile (· = .documentEnd) }
  expect .finish

/-- The tree of a document; there is none if it is empty. -/
def ofTokens (tokens : List Token) : Except Fault (Option Node) :=
  let fuel := 4 * tokens.length + 4
  match splitDirectives tokens with
  | ([], .finish :: _) => .ok none
  | (ds, .documentStart :: ts) =>
    match handlesOf false [] ds with
    | none => .error .malformed
    | some handles => do
      let (node, _) ← (readMarked fuel <* readEnd).run { tokens := ts, handles := handles }
      return some node
  | ([], ts) => do
    let (node, _) ← (readNode fuel .block <* readEnd).run
      { tokens := ts, handles := standardHandles }
    return some node
  | _ => .error .malformed

end Node

end Flattener.Yaml
