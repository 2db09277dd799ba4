import Flattener.Text.Basic
import Flattener.Text.Word

/-!
# Import statements

An import statement has one of four forms:

* `import "path";`
* `import "path" as Alias;`
* `import * as Alias from "path";`
* `import {A, B as C} from "path";`

The functions here see the text between the keyword and the semicolon with comments and
literals masked, and tell where in it the path stands. A path runs from a quote to the first
later quote of the same kind after which the statement is complete.
-/

namespace Flattener.Statement

/-- The rest of a text after at least one blank and all further ones. -/
def afterBlanks (t : Text) : Option Text :=
  match t with
  | [] => none
  | c :: t => if isBlank c then some (Text.trimLeft t) else none

/-- The rest of a text after the given word or mark. -/
def after (w t : Text) : Option Text := Text.dropPrefix? w t

/-- Whether the character may start an identifier. -/
def isIdentifierStart (c : Char) : Bool := c.isAlpha || c == '_' || c == '$'

/-- Whether the character may continue an identifier. -/
def isIdentifierRest (c : Char) : Bool := isWordChar c || c == '$'

/-- The rest of a text after an identifier. -/
def afterIdentifier (t : Text) : Option Text :=
  match t with
  | [] => none
  | c :: t => if isIdentifierStart c then some (t.dropWhile isIdentifierRest) else none

/-- The rest of a text after a list of symbols in braces. -/
def afterSymbols (t : Text) : Option Text := do
  let inside ← after ['{'] t
  after ['}'] (inside.dropWhile fun c => c ≠ '{' && c ≠ '}')

/-- Whether nothing, or nothing but an alias, follows a path. -/
def isAliasOrEnd (t : Text) : Bool :=
  let rest := Text.trimLeft t
  rest.isEmpty ||
    (after "as".toList rest >>= afterBlanks >>= afterIdentifier).any Text.blank

/-- The text up to the first quote after which `complete` holds of the rest. -/
def untilQuote (quote : Char) (complete : Text → Bool) : Text → Option Text
  | [] => none
  | c :: t =>
    if c = quote && complete t then some [] else (untilQuote quote complete t).map (c :: ·)

/-- The text between the quote that `t` starts with and the quote that ends the path, together
with the text from its first character on. -/
def quotedPath (complete : Text → Bool) (t : Text) : Option (Text × Text) :=
  match t with
  | [] => none
  | q :: t =>
    if q = '"' || q = '\'' then (untilQuote q complete t).map fun path => (path, t) else none

/-- A path, and an alias or nothing after it. -/
def direct (t : Text) : Option (Text × Text) := quotedPath isAliasOrEnd (Text.trimLeft t)

/-- A star, its alias, and a path after `from`. -/
def wildcard (t : Text) : Option (Text × Text) := do
  let t ← after ['*'] (Text.trimLeft t)
  let t ← after "as".toList (Text.trimLeft t)
  let t ← afterBlanks t >>= afterIdentifier >>= afterBlanks
  let t ← after "from".toList t >>= afterBlanks
  quotedPath Text.blank t

/-- A list of symbols in braces, and a path after `from`. -/
def symbols (t : Text) : Option (Text × Text) := do
  let t ← afterSymbols (Text.trimLeft t)
  let t ← after "from".toList (Text.trimLeft t) >>= afterBlanks
  quotedPath Text.blank t

/-- Where the path of an import statement stands in its text: the number of characters before
it and its length. -/
def pathSpan (t : Text) : Option (Nat × Nat) :=
  (direct t <|> wildcard t <|> symbols t).map fun r => (t.length - r.2.length, r.1.length)

end Flattener.Statement
