import Flattener.Text.Blank

/-!
# Text

Source files, paths and messages are text: finite lists of characters, so that every
function on them is a recursion on a list and offsets count characters.

* `Text.trim`, `Text.words` and `Text.squeeze` treat runs of blanks.
* `Text.lines` and `Text.unlines` cut at line feeds and glue again.
* `Text.unifyNewlines` writes every line break as a single line feed.
* `Text.ofInt?` writes an integer, unless it has more than `digitLimit` digits.
-/

namespace Flattener

/-- A text is the list of its characters. -/
abbrev Text := List Char

/-- The greatest number of digits of a number that is read or written. -/
def digitLimit : Nat := 4300

namespace Text

/-- The text without its leading blanks. -/
def trimLeft (t : Text) : Text := t.dropWhile isBlank

/-- The text without its trailing blanks. -/
def trimRight (t : Text) : Text := (t.reverse.dropWhile isBlank).reverse

/-- The text without its leading and trailing blanks. -/
def trim (t : Text) : Text := trimRight (trimLeft t)

/-- A text is blank when it holds nothing but blanks. -/
def blank (t : Text) : Bool := t.all isBlank

/-- The maximal runs of characters that are not blanks, in order. -/
def words (t : Text) : List Text := (t.splitOnP isBlank).filter fun w => !w.isEmpty

/-- The words of the text with one space between neighbours. -/
def squeeze (t : Text) : Text := [' '].intercalate (words t)

/-- The pieces between line feeds; a text without line feed is one line. -/
def lines (t : Text) : List Text := t.splitOn '\n'

/-- The lines with one line feed between neighbours. -/
def unlines (ls : List Text) : Text := ['\n'].intercalate ls

/-- Every carriage return, alone or before a line feed, becomes one line feed. -/
def unifyNewlines : Text → Text
  | [] => []
  | '\r' :: '\n' :: t => '\n' :: unifyNewlines t
  | '\r' :: t => '\n' :: unifyNewlines t
  | c :: t => c :: unifyNewlines t

/-- The number of line feeds. -/
def lineFeeds (t : Text) : Nat := t.count '\n'

/-- Whether `p` occurs in `t` as a run of neighbouring characters. -/
def occursIn (p : Text) : Text → Bool
  | [] => p.isEmpty
  | c :: t => p.isPrefixOf (c :: t) || occursIn p t

/-- The text after `p`, when `t` starts with `p`. -/
def dropPrefix? (p t : Text) : Option Text :=
  if p.isPrefixOf t then some (t.drop p.length) else none

/-- The decimal digits of a natural number. -/
def ofNat (n : Nat) : Text := Nat.toDigits 10 n

/-- The decimal digits of an integer, after a minus sign when it is negative. -/
def ofInt : Int → Text
  | .ofNat n => ofNat n
  | .negSucc n => '-' :: ofNat (n + 1)

/-- The integer in decimal digits, unless there are too many of them. -/
def ofInt? (n : Int) : Option Text :=
  if (ofNat n.natAbs).length ≤ digitLimit then some (ofInt n) else none

/-- What is said about an integer that has too many digits to be written. -/
def longNumber : Text :=
  ("Exceeds the limit (4300 digits) for integer string conversion; " ++
    "use sys.set_int_max_str_digits() to increase the limit").toList

/-- The digits of `n` in base sixteen, filled up with zeros to the given width. -/
def hex (width n : Nat) : Text :=
  let digits := Nat.toDigits 16 n
  List.replicate (width - digits.length) '0' ++ digits

end Text

end Flattener
