import Flattener.Text.Basic

/-!
# Paths

A path is an anchor (how many slashes it starts with) and the list of its segments. Empty
segments and `.` segments carry no meaning and are dropped on reading; `..` is kept until
`Path.collapse` lets it cancel the segment before it, without looking at any file.

* `Path.ofText` and `Path.toText` read and write paths.
* `Path.join` continues a path with another one; an absolute continuation wins.
* `Path.normalize` is the normal form of a path given as text.
* `Path.relativeTo` is the way from one absolute directory to an absolute place.
-/

namespace Flattener

/-- How a path starts: without a slash, with one (or three and more), or with exactly two. -/
inductive Anchor where
  | relative
  | root
  | doubleRoot
  deriving DecidableEq, Repr

namespace Anchor

/-- The slashes that the anchor is written with. -/
def text : Anchor → Text
  | relative => []
  | root => ['/']
  | doubleRoot => ['/', '/']

/-- The anchor that the first slashes of a text denote. -/
def ofText : Text → Anchor
  | '/' :: '/' :: '/' :: _ => root
  | '/' :: '/' :: _ => doubleRoot
  | '/' :: _ => root
  | _ => relative

end Anchor

/-- A path: its anchor and its segments from the outermost to the innermost. -/
structure Path where
  anchor : Anchor
  segments : List Text
  deriving DecidableEq, Repr

namespace Path

/-- The segment that stays in the same directory. -/
def here : Text := ['.']

/-- The segment that climbs to the parent directory. -/
def up : Text := ['.', '.']

/-- Whether a segment says something: it is neither empty nor `.`. -/
def meaningful (s : Text) : Bool := s ≠ [] && s ≠ here

/-- Reads a path: the meaningful pieces between slashes are its segments. -/
def ofText (t : Text) : Path := ⟨Anchor.ofText t, (t.splitOn '/').filter meaningful⟩

/-- Writes a path; the relative path without segments is `.`. -/
def toText (p : Path) : Text :=
  match p.anchor.text ++ ['/'].intercalate p.segments with
  | [] => here
  | t => t

/-- Whether the path starts at the root. -/
def isAbsolute (p : Path) : Bool := p.anchor ≠ .relative

/-- Continues `p` with `q`; an absolute `q` stands for itself. -/
def join (p q : Path) : Path :=
  if q.isAbsolute then q else ⟨p.anchor, p.segments ++ q.segments⟩

/-- Continues `p` with one or more segments given as text. -/
def child (p : Path) (t : Text) : Path := p.join (ofText t)

/-- The path without its last segment. -/
def parent (p : Path) : Path := ⟨p.anchor, p.segments.dropLast⟩

/-- The paths above a list of segments, the nearest first. -/
def above (anchor : Anchor) (segments : List Text) : List Path :=
  ((List.range segments.length).reverse).map fun n => ⟨anchor, segments.take n⟩

/-- The proper ancestors of a path, the nearest first. -/
def ancestors (p : Path) : List Path := above p.anchor p.segments

/-- One step of collapsing: `s` is put on the segments read so far, innermost first. A `..`
cancels the segment before it, is dropped at the root, and piles up where nothing can be
cancelled. -/
def pushSegment (absolute : Bool) (done : List Text) (s : Text) : List Text :=
  if s = up then
    match done with
    | [] => if absolute then [] else [up]
    | top :: rest => if top = up then up :: top :: rest else rest
  else s :: done

/-- The segments after every `..` has cancelled what it can. -/
def collapseSegments (absolute : Bool) (segments : List Text) : List Text :=
  (segments.foldl (pushSegment absolute) []).reverse

/-- The path with every `..` resolved as far as the text alone allows. -/
def collapse (p : Path) : Path := ⟨p.anchor, collapseSegments p.isAbsolute p.segments⟩

/-- The normal form of a path given as text. -/
def normalize (t : Text) : Text := (ofText t).collapse.toText

/-- The text with every backslash written as a slash. -/
def slashed (t : Text) : Text := t.map fun c => if c = '\\' then '/' else c

/-- The directory part of a path given as text: all up to its last slash. -/
def directory (t : Text) : Path := ofText (t.reverse.dropWhile (· ≠ '/')).reverse

/-- The segments that lead from the directory `base` to `target`: climb out of what is not
shared, then descend. -/
def stepsTo : (base target : List Text) → List Text
  | b :: base, t :: target =>
    if b = t then stepsTo base target
    else List.replicate (base.length + 1) up ++ t :: target
  | base, target => List.replicate base.length up ++ target

/-- The relative path from the directory with segments `base` to the place `target`. -/
def relativeTo (base target : List Text) : Path := ⟨.relative, stepsTo base target⟩

/-- The segments of `target` below the directory `base`, when it lies there. -/
def below? : (base target : List Text) → Option (List Text)
  | [], target => some target
  | b :: base, t :: target => if b = t then below? base target else none
  | _ :: _, [] => none

end Path

end Flattener
