import Flattener.Text.Basic
import Flattener.Text.Hidden

/-!
# Quoted text

Messages quote text in single quotes. Characters that cannot be seen are written as escapes, a
backslash and the quote itself after a backslash; a text with single quotes only stands in
double quotes.
-/

namespace Flattener.Text

/-- A character by its code point. -/
def codePoint (c : Char) : Text :=
  let n := c.toNat
  if n ≤ 0xFF then "\\x".toList ++ hex 2 n
  else if n ≤ 0xFFFF then "\\u".toList ++ hex 4 n
  else "\\U".toList ++ hex 8 n

/-- A character inside the given quotes. -/
def quotedChar (quote c : Char) : Text :=
  if c = quote || c = '\\' then ['\\', c]
  else if c = '\n' then "\\n".toList
  else if c = '\r' then "\\r".toList
  else if c = '\t' then "\\t".toList
  else if isHidden c then codePoint c
  else [c]

/-- A text in quotes. -/
def quoted (t : Text) : Text :=
  let quote := if t.contains '\'' && !t.contains '"' then '"' else '\''
  quote :: (t.flatMap (quotedChar quote) ++ [quote])

end Flattener.Text
