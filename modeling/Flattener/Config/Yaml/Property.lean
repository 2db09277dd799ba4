import Flattener.Config.Yaml.Scalar
import Flattener.Encoding.Utf8

/-!
# Names, tags and directives

Before a node may stand a name, by which it can be mentioned again, and a tag, which says what
kind of value it is. Before a document may stand directives: lines that start with a percent
sign.

* `Property.name` reads the name after its mark.
* `Property.tag` reads a tag.
* `Property.directive` reads a directive.
-/

namespace Flattener.Yaml

/-- A tag as it is written: a handle, if any, and what is added to what it stands for. -/
structure WrittenTag where
  handle : Option Text
  suffix : Text
  deriving DecidableEq, Repr

/-- A line before a document. -/
inductive Directive where
  /-- The version of the language; only its first number matters. -/
  | version (major : Nat)
  /-- What a handle of tags stands for. -/
  | handle (handle expansion : Text)
  /-- A directive without meaning. -/
  | other
  deriving DecidableEq, Repr

namespace Property

/-- Whether a character may stand in a name. -/
def isNameChar (c : Char) : Bool := c.isAlphanum || c = '-' || c = '_'

/-- Whether a text ends or goes on with a space or a line break. -/
def endsItem : Text → Bool
  | [] => true
  | c :: _ => c = ' ' || isBreak c

/-- Reads a name that is mentioned or given, after its mark. -/
def name (t : Text) : Except Fault (Text × Text) :=
  let n := t.takeWhile isNameChar
  let rest := t.dropWhile isNameChar
  if n.isEmpty then .error .malformed
  else if endsWord rest || rest.head?.any (fun c => "?:,]\x7d%@".toList.contains c || c = '\x60')
  then .ok (n, rest)
  else .error .malformed

/-- Whether a character may stand in a tag as itself. -/
def isTagChar (c : Char) : Bool :=
  c.isAlphanum || "-;/?:@&=+$,_.!~*'()[]".toList.contains c

/-- Reads the characters of a tag. The bytes of neighbouring escapes together are text. -/
def tagChars (escaped : List UInt8) : Text → Option (Text × Text)
  | '%' :: a :: b :: t =>
    match Quoted.hexValue? [a, b] with
    | none => none
    | some n => tagChars (escaped ++ [UInt8.ofNat n]) t
  | t =>
    match Utf8.decode escaped with
    | .error _ => none
    | .ok before =>
      match t with
      | [] => some (before, [])
      | c :: t =>
        if c = '%' then none
        else if isTagChar c then (tagChars [] t).map fun r => (before ++ c :: r.1, r.2)
        else some (before, c :: t)

/-- Reads the characters of a tag, of which there is at least one. -/
def tagText (t : Text) : Except Fault (Text × Text) :=
  match tagChars [] t with
  | some (c :: cs, rest) => .ok (c :: cs, rest)
  | _ => .error .malformed

/-- Reads a handle: one mark, or a name between two marks. -/
def handle : Text → Except Fault (Text × Text)
  | '!' :: t =>
    if t.head? = some ' ' then .ok (['!'], t)
    else
      match t.dropWhile isNameChar with
      | '!' :: rest => .ok ('!' :: (t.takeWhile isNameChar ++ ['!']), rest)
      | _ => .error .malformed
  | _ => .error .malformed

/-- Reads a tag, after its mark. -/
def tag (t : Text) : Except Fault (WrittenTag × Text) := do
  let (tag, rest) ←
    match t with
    | '<' :: t =>
      match ← tagText t with
      | (suffix, '>' :: rest) => pure (⟨none, suffix⟩, rest)
      | _ => throw .malformed
    | t =>
      if endsWord t then pure (⟨none, ['!']⟩, t)
      else if (t.takeWhile fun c => c ≠ ' ' && !isBreak c).contains '!' then
        let (h, t) ← handle ('!' :: t)
        let (suffix, rest) ← tagText t
        pure (⟨some h, suffix⟩, rest)
      else
        let (suffix, rest) ← tagText t
        pure (⟨some ['!'], suffix⟩, rest)
  if endsItem rest then return (tag, rest) else throw .malformed

/-- Reads a number of a version. -/
def versionNumber (t : Text) : Except Fault (Nat × Text) :=
  match t.takeWhile Char.isDigit with
  | [] => .error .malformed
  | digits => .ok (digits.foldl (fun n c => 10 * n + (c.toNat - 48)) 0, t.dropWhile Char.isDigit)

/-- Reads a directive, after its mark, and the rest of its line. -/
def directive (t : Text) : Except Fault (Directive × Text) := do
  let n := t.takeWhile isNameChar
  let rest := t.dropWhile isNameChar
  if n.isEmpty || !endsItem rest then throw .malformed
  let skipped := rest.dropWhile (· = ' ')
  let (d, rest) ←
    if n = "YAML".toList then
      match ← versionNumber skipped with
      | (major, '.' :: t) =>
        let (_, rest) ← versionNumber t
        if endsItem rest then pure (Directive.version major, rest) else throw .malformed
      | _ => throw .malformed
    else if n = "TAG".toList then
      let (h, t) ← handle skipped
      if t.head? ≠ some ' ' then throw .malformed
      let (expansion, rest) ← tagText (t.dropWhile (· = ' '))
      if endsItem rest then pure (Directive.handle h expansion, rest) else throw .malformed
    else pure (Directive.other, rest.dropWhile fun c => !isBreak c)
  match Block.restOfLine? rest with
  | some rest => return (d, rest)
  | none => throw .malformed

end Property

end Flattener.Yaml
