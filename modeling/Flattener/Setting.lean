import Flattener.Text.Basic

/-!
# Settings

A configuration holds values whose shape is not fixed: besides texts, lists and objects there may
be nothing, truth values, numbers and moments in time, and the keys of an object may be any of
these but lists and objects. An object keeps its keys in the order in which they came, and a key
that comes again replaces the value in its old place.

* `Setting.truthy` tells whether a value counts as something.
* `Setting.field?` and `Setting.putField` read and write fields of an object.
-/

namespace Flattener

namespace Setting

/-- A key of an object. -/
inductive Key where
  | text (t : Text)
  | null
  | bool (b : Bool)
  | int (n : Int)
  /-- A number that is not written as an integer. -/
  | real (written : Text)
  /-- A date or a point in time. -/
  | moment (written : Text)
  deriving DecidableEq, Repr

/-- The integer that a key counts as: truth values count as zero and one. -/
def Key.integer? : Key → Option Int
  | bool b => some (if b then 1 else 0)
  | int n => some n
  | _ => none

/-- Whether two keys are the same: equal, or equal as integers. -/
def Key.same (a b : Key) : Bool :=
  a = b || (a.integer?.isSome && a.integer? = b.integer?)

end Setting

/-- A value of a configuration. -/
inductive Setting where
  | null
  | bool (b : Bool)
  | int (n : Int)
  /-- A number that is not written as an integer. -/
  | real (written : Text)
  /-- A date or a point in time. -/
  | moment (written : Text)
  | text (t : Text)
  | list (vs : List Setting)
  | object (fields : List (Setting.Key × Setting))
  deriving Repr

namespace Setting

/-- The fields of an object. -/
abbrev Fields := List (Key × Setting)

/-- A key as a value of its own. -/
def ofKey : Key → Setting
  | .text t => text t
  | .null => null
  | .bool b => bool b
  | .int n => int n
  | .real w => real w
  | .moment w => moment w

/-- The value as a key; lists and objects are none. -/
def toKey? : Setting → Option Key
  | text t => some (.text t)
  | null => some .null
  | bool b => some (.bool b)
  | int n => some (.int n)
  | real w => some (.real w)
  | moment w => some (.moment w)
  | list _ => none
  | object _ => none

/-- The fields of an object in which `key` has the value `v`. -/
def putField (key : Key) (v : Setting) : Fields → Fields
  | [] => [(key, v)]
  | (k, w) :: fields => if k.same key then (k, v) :: fields else (k, w) :: putField key v fields

/-- The value of the field with the given name. -/
def field? (fields : Fields) (name : Text) : Option Setting := fields.lookup (.text name)

/-- Whether a number that is no integer is zero: it has no other digit before its exponent. -/
def isZeroReal (written : Text) : Bool :=
  let digits := (written.takeWhile fun c => c ≠ 'e' && c ≠ 'E').filter Char.isDigit
  !digits.isEmpty && digits.all (· = '0')

/-- Whether a value counts as something: nothing, false, zero and what is empty do not. -/
def truthy : Setting → Bool
  | null => false
  | bool b => b
  | int n => n ≠ 0
  | real w => !isZeroReal w
  | moment _ => true
  | text t => !t.isEmpty
  | list vs => !vs.isEmpty
  | object fields => !fields.isEmpty

end Setting

end Flattener
