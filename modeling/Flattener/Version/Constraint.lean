import Flattener.Text.Basic
import Flattener.Text.Digit

/-!
# Version constraints

A file declares which releases of the language it is written for: one release (`0.5.2`), or
with a caret (`^0.5.2`) every release from it up to the next one that may break it. A
declaration has two or three numbers; a missing third one counts as zero.

* `Constraint.parse` reads a declaration.
* `Constraint.upperBound` is the first release past a caret range: the left-most number that
  is not zero, or the last one written, goes up by one and all after it become zero.
* `Constraint.allows` tells whether a declared release fits a constraint.

Numbers are converted from and to text only up to `digitLimit` digits; `VersionFault` says
when that does not suffice.
-/

namespace Flattener

/-- A release: its three numbers, the weightiest first. -/
structure Release where
  major : Nat
  minor : Nat
  patch : Nat
  deriving DecidableEq, Repr

namespace Release

/-- One release is earlier than another if the first number in which they differ is smaller. -/
def Earlier (a b : Release) : Prop :=
  a.major < b.major ∨ a.major = b.major ∧
    (a.minor < b.minor ∨ a.minor = b.minor ∧ a.patch < b.patch)

instance : LT Release := ⟨Earlier⟩

instance : LE Release := ⟨fun a b => ¬ b < a⟩

instance (a b : Release) : Decidable (a < b) :=
  inferInstanceAs (Decidable (a.major < b.major ∨ a.major = b.major ∧
    (a.minor < b.minor ∨ a.minor = b.minor ∧ a.patch < b.patch)))

instance (a b : Release) : Decidable (a ≤ b) := inferInstanceAs (Decidable (¬ b < a))

/-- The three numbers with points between them. -/
def text (r : Release) : Text :=
  Text.ofNat r.major ++ '.' :: Text.ofNat r.minor ++ '.' :: Text.ofNat r.patch

end Release

/-- Why a version cannot be read or written. -/
inductive VersionFault where
  /-- The text is not a declaration. -/
  | unsupported (text : Text)
  /-- A number of the declaration has more digits than can be read. -/
  | longInput (digits : Nat)
  /-- A number of the result has more digits than can be written. -/
  | longOutput
  deriving DecidableEq, Repr

namespace VersionFault

/-- What is said about a version fault. -/
def message : VersionFault → Text
  | unsupported text => "Unsupported version declaration: ".toList ++ text
  | longInput digits =>
    ("Exceeds the limit (4300 digits) for integer string conversion: value has ").toList ++
      Text.ofNat digits ++
      " digits; use sys.set_int_max_str_digits() to increase the limit".toList
  | longOutput => Text.longNumber

end VersionFault

/-- Whether a constraint names one release or a range. -/
inductive ConstraintKind where
  | pinned
  | caret
  deriving DecidableEq, Repr

/-- A version declaration: its text, its kind and its two or three numbers. -/
structure Constraint where
  raw : Text
  kind : ConstraintKind
  major : Nat
  minor : Nat
  patch : Option Nat
  deriving DecidableEq, Repr

namespace Constraint

/-- Reads one number of a declaration. -/
def readNumber (digits : Text) : Except VersionFault Nat :=
  if digits.length ≤ digitLimit then .ok (digitsValue digits) else .error (.longInput digits.length)

/-- Whether a text is a non-empty run of digits. -/
def isNumber (t : Text) : Bool := !t.isEmpty && t.all isDigit

/-- The kind of a declaration and the text of its numbers. -/
def splitKind : Text → ConstraintKind × Text
  | '^' :: t => (.caret, t)
  | t => (.pinned, t)

/-- Reads a declaration: an optional caret, then two or three numbers with points between. -/
def parse (declaration : Text) : Except VersionFault Constraint :=
  let raw := Text.trim declaration
  let (kind, numbers) := splitKind raw
  let pieces := numbers.splitOn '.'
  if pieces.all isNumber then
    match pieces with
    | [a, b] => do return ⟨raw, kind, ← readNumber a, ← readNumber b, none⟩
    | [a, b, c] => do return ⟨raw, kind, ← readNumber a, ← readNumber b, some (← readNumber c)⟩
    | _ => .error (.unsupported raw)
  else .error (.unsupported raw)

/-- The numbers as written. -/
def parts (c : Constraint) : List Nat := c.major :: c.minor :: c.patch.toList

/-- The release that a constraint names, or the first one of its range. -/
def release (c : Constraint) : Release := ⟨c.major, c.minor, c.patch.getD 0⟩

/-- Whether the constraint is a caret range. -/
def isCaret (c : Constraint) : Bool := c.kind = .caret

/-- The release at which the range of a caret constraint ends, without regard to its length. -/
def rangeEnd (c : Constraint) : Release :=
  if c.major ≠ 0 then ⟨c.major + 1, 0, 0⟩
  else if c.minor ≠ 0 then ⟨c.major, c.minor + 1, 0⟩
  else
    match c.patch with
    | some p => ⟨c.major, c.minor, p + 1⟩
    | none => ⟨c.major, c.minor + 1, 0⟩

/-- The first number that has too many digits. -/
def numberLimit : Nat := Nat.pow 10 digitLimit

/-- Whether every number of the release can be written. -/
def writable (r : Release) : Bool :=
  r.major < numberLimit && r.minor < numberLimit && r.patch < numberLimit

/-- The first release past a caret range. -/
def upperBound (c : Constraint) : Except VersionFault Release :=
  if writable c.rangeEnd then .ok c.rangeEnd else .error .longOutput

/-- The conditions on a release that the constraint stands for, as text in sorted order. -/
def conditions (c : Constraint) : Except VersionFault (List Text) :=
  match c.kind with
  | .pinned => .ok ["==".toList ++ c.release.text]
  | .caret => do return ['<' :: (← c.upperBound).text, ">=".toList ++ c.release.text]

/-- Whether the release that `other` names satisfies the constraint `c`. -/
def allows (c other : Constraint) : Except VersionFault Bool :=
  match c.kind with
  | .pinned => .ok (other.release = c.release)
  | .caret => do
    let bound ← c.upperBound
    return c.release ≤ other.release && other.release < bound

end Constraint

end Flattener
