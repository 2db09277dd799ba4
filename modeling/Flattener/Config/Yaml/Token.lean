import Flattener.Config.Yaml.Property

/-!
# Tokens of a document

A document is a row of tokens: texts, marks, and the starts and ends of collections. Indentation
shows in the row as starts and ends of block collections. A key is known as such only by the
colon after it, so its mark is put into the row later, before the tokens of the key; this goes
for a key on one line and of limited length.

* `Token.all` gives the tokens of a document.
-/

namespace Flattener.Yaml

/-- A token of a document. -/
inductive Token where
  /-- A text, and whether it is written plainly. -/
  | scalar (isPlain : Bool) (t : Text)
  /-- A mention of a named node. -/
  | mention (name : Text)
  /-- The name of the node that follows. -/
  | named (name : Text)
  | tag (t : WrittenTag)
  | directive (d : Directive)
  | documentStart
  | documentEnd
  | openList
  | closeList
  | openObject
  | closeObject
  | comma
  | blockList
  | blockObject
  | blockEnd
  /-- The hyphen before an entry of a block list. -/
  | entry
  | key
  | value
  | finish
  deriving DecidableEq, Repr

namespace Token

/-- A place in the row of tokens where a key may start. -/
structure KeyStart where
  /-- How many tokens stand before it. -/
  before : Nat
  /-- Whether nothing but a key can stand here. -/
  required : Bool
  index : Nat
  line : Nat
  column : Nat
  deriving Repr

/-- The tokens so far, the latest first, and what decides how the text goes on. -/
structure State where
  cursor : Cursor
  tokens : List Token := []
  /-- The columns of the open block collections, the innermost first. -/
  blocks : List Nat := []
  /-- The number of open brackets and braces. -/
  flow : Nat := 0
  /-- Whether a key may start here. -/
  keyAllowed : Bool := true
  /-- Where a key may have started, by the number of open brackets. -/
  keys : List (Nat × KeyStart) := []

namespace State

/-- Whether the text stands in brackets or braces. -/
def inFlow (s : State) : Bool := s.flow ≠ 0

/-- The least column of what belongs to the innermost block collection. -/
def least (s : State) : Nat := (s.blocks.head?.map (· + 1)).getD 0

/-- Adds a token. -/
def push (t : Token) (s : State) : State := { s with tokens := t :: s.tokens }

/-- Moves to where `rest` starts. -/
def moveTo (rest : Text) (s : State) : State := { s with cursor := s.cursor.moveTo rest }

/-- Moves over `n` characters. -/
def advance (n : Nat) (s : State) : State := { s with cursor := s.cursor.advance n }

/-- Lets a key start here, or not. -/
def allowKey (allowed : Bool) (s : State) : State := { s with keyAllowed := allowed }

/-- Skips spaces, line breaks and comments. On a new line a key may start, but not in brackets. -/
def skipBlank (s : State) : State :=
  let start := if s.cursor.index = 0 && s.cursor.rest.head? = some '\uFEFF' then 1 else 0
  let cursor := s.cursor.advance start
  let after := cursor.advance (blankLength false cursor.rest)
  { s with
    cursor := after
    keyAllowed := s.keyAllowed || (!s.inFlow && after.line ≠ cursor.line) }

/-- Whether a key that started at `k` can no longer be one. -/
def isStale (s : State) (k : KeyStart) : Bool :=
  k.line ≠ s.cursor.line || 1024 < s.cursor.index - k.index

/-- Forgets the starts of keys that can no longer be ones. -/
def dropStale (s : State) : Except Fault State :=
  if s.keys.any fun k => k.2.required && s.isStale k.2 then .error .malformed
  else .ok { s with keys := s.keys.filter fun k => !s.isStale k.2 }

/-- Forgets the start of a key in the innermost brackets. -/
def dropKey (s : State) : Except Fault State :=
  if s.keys.any fun k => k.1 = s.flow && k.2.required then .error .malformed
  else .ok { s with keys := s.keys.filter fun k => k.1 ≠ s.flow }

/-- Remembers that a key may start here. -/
def markKey (s : State) : Except Fault State :=
  if s.keyAllowed then do
    let p := s.cursor
    let required := !s.inFlow && s.blocks.head? = some p.column
    let s ← s.dropKey
    let k : KeyStart := ⟨s.tokens.length, required, p.index, p.line, p.column⟩
    return { s with keys := (s.flow, k) :: s.keys }
  else .ok s

/-- Ends the block collections that are open at a column for which `inner` holds. -/
def closeBlocks (inner : Nat → Bool) (s : State) : State :=
  if s.inFlow then s
  else
    let closed := s.blocks.takeWhile inner
    { s with
      blocks := s.blocks.drop closed.length
      tokens := List.replicate closed.length .blockEnd ++ s.tokens }

/-- Ends all block collections. -/
def closeAll (s : State) : State := s.closeBlocks fun _ => true

/-- Whether a block collection starts at a column. -/
def startsBlock (s : State) (column : Nat) : Bool := s.blocks.head?.all (· < column)

/-- Starts a block collection with the given token at the present column, unless one is open
there. -/
def openBlock (t : Token) (s : State) : State :=
  if s.startsBlock s.cursor.column then
    { s.push t with blocks := s.cursor.column :: s.blocks }
  else s

/-- Puts tokens into the row after the first `before` ones. -/
def putAt (before : Nat) (ts : List Token) (s : State) : State :=
  let later := s.tokens.length - before
  { s with tokens := s.tokens.take later ++ ts.reverse ++ s.tokens.drop later }

/-! ### Single tokens -/

/-- The end of the document. -/
def finish (s : State) : Except Fault State := do
  return (← s.closeAll.dropKey).push .finish

/-- A directive. -/
def directive (s : State) : Except Fault State := do
  let s ← s.closeAll.dropKey
  let (d, rest) ← Property.directive (s.cursor.rest.drop 1)
  return ((s.allowKey false).push (.directive d)).moveTo rest

/-- A mark that starts or ends a document. -/
def documentMark (t : Token) (s : State) : Except Fault State := do
  return (((← s.closeAll.dropKey).allowKey false).push t).advance 3

/-- An opening bracket. A collection may be a key. -/
def openFlow (t : Token) (s : State) : Except Fault State := do
  let s ← s.markKey
  return { ((s.allowKey true).push t).advance 1 with flow := s.flow + 1 }

/-- A closing bracket. -/
def closeFlow (t : Token) (s : State) : Except Fault State := do
  if s.inFlow then
    let s ← s.dropKey
    return { ((s.allowKey false).push t).advance 1 with flow := s.flow - 1 }
  else throw .malformed

/-- A comma. -/
def comma (s : State) : Except Fault State := do
  return (((← s.dropKey).allowKey true).push .comma).advance 1

/-- A hyphen before an entry of a list. -/
def entry (s : State) : Except Fault State := do
  if !s.inFlow && !s.keyAllowed then throw .malformed
  let s := if s.inFlow then s else s.openBlock .blockList
  return (((← s.dropKey).allowKey true).push .entry).advance 1

/-- A question mark before a key. -/
def question (s : State) : Except Fault State := do
  if !s.inFlow && !s.keyAllowed then throw .malformed
  let s := if s.inFlow then s else s.openBlock .blockObject
  return (((← s.dropKey).allowKey !s.inFlow).push .key).advance 1

/-- A colon after a key that started at `k`. -/
def valueOf (k : KeyStart) (s : State) : State :=
  let s := { s with keys := s.keys.filter fun e => e.1 ≠ s.flow }
  let s :=
    if !s.inFlow && s.startsBlock k.column then
      { s.putAt k.before [.blockObject, .key] with blocks := k.column :: s.blocks }
    else s.putAt k.before [.key]
  s.allowKey false

/-- A colon before a value. -/
def value (s : State) : Except Fault State := do
  let s ←
    match s.keys.lookup s.flow with
    | some k => pure (s.valueOf k)
    | none =>
      if !s.inFlow && !s.keyAllowed then throw .malformed
      let s := if s.inFlow then s else s.openBlock .blockObject
      (s.allowKey !s.inFlow).dropKey
  return (s.push .value).advance 1

/-- A token that may be the start of a key, with what follows it. -/
def keyPart (r : Except Fault (Token × Text)) (s : State) : Except Fault State := do
  let s ← s.markKey
  let (t, rest) ← r
  return ((s.allowKey false).push t).moveTo rest

/-- A block of lines. A key may follow it. -/
def block (folded : Bool) (s : State) : Except Fault State := do
  let s ← (s.allowKey true).dropKey
  let (t, rest) ← Block.read folded (max 1 s.least) (s.cursor.rest.drop 1)
  return (s.push (.scalar false t)).moveTo rest

/-- A plain text. A key may follow it if it ends with its line. -/
def plain (s : State) : Except Fault State := do
  let s ← s.markKey
  let (t, rest, newLine) := Plain.read s.inFlow s.least s.cursor.rest
  return ((s.allowKey newLine).push (.scalar true t)).moveTo rest

/-- The next token, with those that come with it. The character `c` is the first one of the text
and `t` is what follows it. -/
def token (c : Char) (t : Text) (s : State) : Except Fault State :=
  let start := s.cursor.column = 0
  if c = '%' && start then s.directive
  else if c = '-' && start && isSeparator (c :: t) then s.documentMark .documentStart
  else if c = '.' && start && isSeparator (c :: t) then s.documentMark .documentEnd
  else if c = '[' then s.openFlow .openList
  else if c = '\x7b' then s.openFlow .openObject
  else if c = ']' then s.closeFlow .closeList
  else if c = '\x7d' then s.closeFlow .closeObject
  else if c = ',' then s.comma
  else if c = '-' && endsWord t then s.entry
  else if c = '?' && (s.inFlow || endsWord t) then s.question
  else if c = ':' && (s.inFlow || endsWord t) then s.value
  else if c = '*' then s.keyPart ((Property.name t).map fun r => (.mention r.1, r.2))
  else if c = '&' then s.keyPart ((Property.name t).map fun r => (.named r.1, r.2))
  else if c = '!' then s.keyPart ((Property.tag t).map fun r => (.tag r.1, r.2))
  else if c = '|' && !s.inFlow then s.block false
  else if c = '>' && !s.inFlow then s.block true
  else if c = '\'' || c = '"' then
    s.keyPart ((Quoted.read c t).map fun r => (.scalar false r.1, r.2))
  else if Plain.starts s.inFlow (c :: t) then s.plain
  else .error .malformed

end State

/-- The tokens after those of `s`. Every step but the last passes a character, so that `fuel`
need not exceed the number of characters by more than one. -/
def allFrom (fuel : Nat) (s : State) : Except Fault (List Token) :=
  match fuel with
  | 0 => .error .malformed
  | fuel + 1 => do
    let s ← s.skipBlank.dropStale
    let s := s.closeBlocks (s.cursor.column < ·)
    match s.cursor.rest with
    | [] => return (← s.finish).tokens.reverse
    | c :: t => allFrom fuel (← s.token c t)

/-- The tokens of a document. -/
def all (t : Text) : Except Fault (List Token) := allFrom (t.length + 1) { cursor := ⟨t, 0, 0, 0⟩ }

end Token

end Flattener.Yaml
