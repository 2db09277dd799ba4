import Flattener.Source.Directive

/-!
# Bodies

The *body* of a source is what is left for the flattened output: the source without its
directives, with plain line feeds, without blank lines at either end.

* `Body.strip` removes directives; a line that held nothing else goes with its line break.
* `Body.trimBlankLines` removes blank lines at both ends.
* `Body.clean` does both to a source.
-/

namespace Flattener.Body

/-- The characters from offset `start` up to `stop`. -/
def slice (t : Text) (start stop : Nat) : Text := (t.take stop).drop start

/-- The offset of the first character of the line that holds `offset`. -/
def lineStart (t : Text) (offset : Nat) : Nat :=
  let before := t.take offset
  before.length - (before.reverse.takeWhile (· ≠ '\n')).length

/-- The offset of the first line feed from `offset` on, or of the end of the text. -/
def lineEnd (t : Text) (offset : Nat) : Nat :=
  if offset < t.length then offset + ((t.drop offset).takeWhile (· ≠ '\n')).length else t.length

/-- The span that goes with a directive at `start` up to `stop`, when all before `cursor` is done
with: blanks around it up to the ends of its line go too, the line feed included. -/
def widen (t : Text) (cursor start stop : Nat) : Nat × Nat :=
  let first := max (lineStart t start) cursor
  let last := lineEnd t stop
  (if Text.blank (slice t first start) then first else start,
    if Text.blank (slice t stop last) then min (last + 1) t.length else stop)

/-- What is left of the text from `cursor` on without the given spans, each widened. -/
def stripFrom (t : Text) (cursor : Nat) : List (Nat × Nat) → Text
  | [] => t.drop cursor
  | (start, stop) :: spans =>
    let w := widen t cursor start stop
    slice t cursor w.1 ++ stripFrom t w.2 spans

/-- The text without the given spans. -/
def strip (t : Text) (spans : List (Nat × Nat)) : Text := stripFrom t 0 spans

/-- The spans of the directives. -/
def spans (ds : List Directive) : List (Nat × Nat) := ds.map fun d => (d.start, d.stop)

/-- The text without blank lines at its ends and with one line feed at the end; nothing at all
when every line is blank. -/
def trimBlankLines (t : Text) : Text :=
  let kept := (((Text.lines t).dropWhile Text.blank).reverse.dropWhile Text.blank).reverse
  if kept.isEmpty then [] else Text.unlines kept ++ ['\n']

/-- The body of a source. -/
def clean (source : Text) : Except SyntaxError Text :=
  let t := Text.unifyNewlines source
  (Directive.findAll t).map fun ds => trimBlankLines (strip t (spans ds))

end Flattener.Body
