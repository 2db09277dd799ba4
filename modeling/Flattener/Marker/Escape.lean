import Flattener.Text.CharName
import Flattener.Text.Quoted

/-!
# Escapes in template strings

A string of a template stands for a text: a backslash and what follows it stand for one
character, which may be a control, the code point of a number, or the character with a name. A
backslash at the end of a line joins it with the next one; before any other character a
backslash stands for itself.

* `unescape` gives the text that a string stands for.
-/

namespace Flattener.Marker

/-- Why an escape stands for nothing. -/
inductive EscapeFault where
  /-- Digits are missing after the given letter, which wants `width` of them. -/
  | truncated (letter : Char) (width : Nat)
  /-- The number is no code point. -/
  | illegal
  /-- The braces around a name are missing. -/
  | malformedName
  /-- No character has the name. -/
  | unknownName
  deriving DecidableEq, Repr

/-- What is said about an escape that stands for nothing. -/
def EscapeFault.message : EscapeFault → Text
  | truncated letter width =>
    "truncated \\".toList ++ letter :: (List.replicate width 'X' ++ " escape".toList)
  | illegal => "illegal Unicode character".toList
  | malformedName => "malformed \\N character escape".toList
  | unknownName => "unknown Unicode character name".toList

/-- The characters that stand for a single character after a backslash. -/
def simpleEscapes : List (Char × Char) :=
  [('\\', '\\'), ('\'', '\''), ('"', '"'), ('a', '\x07'), ('b', '\x08'), ('f', '\x0c'),
    ('n', '\n'), ('r', '\r'), ('t', '\t'), ('v', '\x0b')]

/-- The number of digits that a letter wants after it. -/
def digitsAfter? : Char → Option Nat
  | 'x' => some 2
  | 'u' => some 4
  | 'U' => some 8
  | _ => none

/-- The number that digits in base sixteen denote. -/
def hexValue? (t : Text) : Option Nat :=
  t.foldlM (fun n c =>
    if c.isDigit then some (16 * n + (c.toNat - 48))
    else if 'a' ≤ c && c ≤ 'f' then some (16 * n + (c.toNat - 87))
    else if 'A' ≤ c && c ≤ 'F' then some (16 * n + (c.toNat - 55))
    else none) 0

/-- The character whose code point `width` digits give. -/
def numbered (letter : Char) (width : Nat) (t : Text) : Except EscapeFault Char :=
  let digits := t.take width
  match hexValue? digits with
  | none => .error (.truncated letter width)
  | some n =>
    if digits.length < width then .error (.truncated letter width)
    else if 0x10FFFF < n then .error .illegal
    else .ok (Char.ofNat n)

/-- The character whose name stands in braces at the start of `t`, and the length of the name. -/
def namedChar : Text → Except EscapeFault (Char × Nat)
  | '\x7b' :: t =>
    let name := t.takeWhile (· ≠ '\x7d')
    if name.isEmpty || name.length = t.length then .error .malformedName
    else
      match charOfName? name with
      | some c => .ok (c, name.length)
      | none => .error .unknownName
  | _ => .error .malformedName

/-- Whether a character is a digit in base eight. -/
def isOctal (c : Char) : Bool := '0' ≤ c && c ≤ '7'

/-- What the escape with the character `c` and the text `t` after it stands for, and how many
characters of `t` belong to it. -/
def escape (c : Char) (t : Text) : Except EscapeFault (Text × Nat) :=
  if c = '\n' then .ok ([], 0)
  else if isOctal c then
    let digits := c :: (t.take 2).takeWhile isOctal
    let n := digits.foldl (fun n d => 8 * n + (d.toNat - 48)) 0
    .ok ([Char.ofNat n], digits.length - 1)
  else if c = 'N' then (namedChar t).map fun r => ([r.1], r.2 + 2)
  else
    match simpleEscapes.lookup c, digitsAfter? c with
    | some d, _ => .ok ([d], 0)
    | none, some width => (numbered c width t).map fun d => ([d], width)
    | none, none => .ok (if c.toNat < 0x80 then ['\\', c] else Text.codePoint c, 0)

/-- The text that a string stands for, after `skip` characters of it. -/
def unescapeFrom (skip : Nat) : Text → Except EscapeFault Text
  | [] => .ok []
  | c :: t =>
    if 0 < skip then unescapeFrom (skip - 1) t
    else if c = '\\' then
      match t with
      | [] => .ok [c]
      | d :: rest =>
        match escape d rest with
        | .error e => .error e
        | .ok (cs, more) => (unescapeFrom (more + 1) t).map (cs ++ ·)
    else (unescapeFrom 0 t).map (c :: ·)

/-- The text that a string stands for. -/
def unescape (t : Text) : Except EscapeFault Text := unescapeFrom 0 t

end Flattener.Marker
