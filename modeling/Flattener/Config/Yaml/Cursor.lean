import Flattener.Text.Basic

/-!
# Places in a document

A document is read from left to right. A cursor is the text that is still to be read together
with the place where it starts, since both the line and the column of a token decide what it
means.

* `Cursor.advance` moves a cursor on by a number of characters.
* `Cursor.moveTo` moves it to where a given rest of the text starts.

Carriage returns are no line breaks here: they have been turned into line feeds before.
-/

namespace Flattener.Yaml

/-- Whether a character ends a line. -/
def isBreak (c : Char) : Bool := c = '\n' || c = '\x85' || c = '\u2028' || c = '\u2029'

/-- What a line break counts as inside a text: a next-line character is a line feed. -/
def breakText (c : Char) : Char := if c = '\x85' then '\n' else c

/-- Whether a word ends here: at a space, a tab, a line break or the end. -/
def endsWord : Text → Bool
  | [] => true
  | c :: _ => c = ' ' || c = '\t' || isBreak c

/-- Whether a document mark stands here, at the start of a line. -/
def isSeparator (t : Text) : Bool :=
  ("---".toList.isPrefixOf t || "...".toList.isPrefixOf t) && endsWord (t.drop 3)

/-- The text that is still to be read, and the place where it starts. -/
structure Cursor where
  rest : Text
  index : Nat := 0
  line : Nat := 0
  column : Nat := 0
  deriving Repr

namespace Cursor

/-- Moves over one character. A byte order mark takes no column. -/
def next (p : Cursor) : Cursor :=
  match p.rest with
  | [] => p
  | c :: t =>
    if isBreak c then ⟨t, p.index + 1, p.line + 1, 0⟩
    else ⟨t, p.index + 1, p.line, if c = '\uFEFF' then p.column else p.column + 1⟩

/-- Moves over `n` characters. -/
def advance (p : Cursor) : Nat → Cursor
  | 0 => p
  | n + 1 => p.next.advance n

/-- Moves to where `rest` starts, which is what is left of the text. -/
def moveTo (p : Cursor) (rest : Text) : Cursor := p.advance (p.rest.length - rest.length)

end Cursor

/-- How many characters stand before the next token: spaces, line breaks and comments. -/
def blankLength (inComment : Bool) : Text → Nat
  | [] => 0
  | c :: t =>
    if isBreak c then 1 + blankLength false t
    else if inComment then 1 + blankLength true t
    else if c = ' ' then 1 + blankLength false t
    else if c = '#' then 1 + blankLength true t
    else 0

end Flattener.Yaml
