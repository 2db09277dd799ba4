import Flattener.Decimal
import Flattener.Text.Quoted

/-!
# Values

Log records hold values whose shape is not fixed: nothing, truth values, integers and other
numbers, texts, lists, and objects. An object keeps its keys in the order in which they came,
and a key that comes again replaces the value in its old place.

* `Value.toJson` writes a value as JSON in printable ASCII.
* `Value.display` writes a value the way people read it in a log.

A value that holds an integer with more than `digitLimit` digits is not written at all.
-/

namespace Flattener

/-- A value of any shape. -/
inductive Value where
  | null
  | bool (b : Bool)
  | int (n : Int)
  | real (d : Decimal)
  | text (t : Text)
  | list (vs : List Value)
  | object (fields : List (Text × Value))
  deriving Repr

namespace Value

/-- The fields of an object in which `key` has the value `v`. -/
def putField (key : Text) (v : Value) : List (Text × Value) → List (Text × Value)
  | [] => [(key, v)]
  | (k, w) :: fields => if k = key then (k, v) :: fields else (k, w) :: putField key v fields

/-- The fields of the first object, overridden and continued by those of the second. -/
def putFields (fields more : List (Text × Value)) : List (Text × Value) :=
  more.foldl (fun fs f => putField f.1 f.2 fs) fields

/-! ### JSON -/

/-- A code point above `U+FFFF` as a pair of units. -/
def surrogates (n : Nat) : Nat × Nat :=
  (0xD800 + (n - 0x10000) / 0x400, 0xDC00 + (n - 0x10000) % 0x400)

/-- A unit of sixteen bits as an escape. -/
def jsonUnit (n : Nat) : Text := '\\' :: 'u' :: Text.hex 4 n

/-- A character inside a JSON string. -/
def jsonChar (c : Char) : Text :=
  if c = '"' || c = '\\' then ['\\', c]
  else if c = '\n' then ['\\', 'n']
  else if c = '\r' then ['\\', 'r']
  else if c = '\t' then ['\\', 't']
  else if c = '\x08' then ['\\', 'b']
  else if c = '\x0c' then ['\\', 'f']
  else if 0x20 ≤ c.toNat && c.toNat ≤ 0x7E then [c]
  else if c.toNat < 0x10000 then jsonUnit c.toNat
  else let (high, low) := surrogates c.toNat; jsonUnit high ++ jsonUnit low

/-- A text as a JSON string. -/
def jsonString (t : Text) : Text := '"' :: (t.flatMap jsonChar ++ ['"'])

mutual

/-- A value as JSON. -/
def toJson : Value → Option Text
  | null => some "null".toList
  | bool true => some "true".toList
  | bool false => some "false".toList
  | int n => Text.ofInt? n
  | real d => some d.toText
  | text t => some (jsonString t)
  | list vs => (toJsonList vs).map fun ws => '[' :: (", ".toList.intercalate ws ++ [']'])
  | object fields =>
    (toJsonFields fields).map fun ws => '\x7b' :: (", ".toList.intercalate ws ++ ['\x7d'])

/-- The members of a list as JSON. -/
def toJsonList : List Value → Option (List Text)
  | [] => some []
  | v :: vs => do return (← toJson v) :: (← toJsonList vs)

/-- The fields of an object as JSON. -/
def toJsonFields : List (Text × Value) → Option (List Text)
  | [] => some []
  | (k, v) :: fields => do
    return (jsonString k ++ ": ".toList ++ (← toJson v)) :: (← toJsonFields fields)

end

/-! ### Display -/

mutual

/-- A value inside another one, as people read it. -/
def displayInner : Value → Option Text
  | null => some "None".toList
  | bool true => some "True".toList
  | bool false => some "False".toList
  | int n => Text.ofInt? n
  | real d => some d.toText
  | text t => some (Text.quoted t)
  | list vs => (displayList vs).map fun ws => '[' :: (", ".toList.intercalate ws ++ [']'])
  | object fields =>
    (displayFields fields).map fun ws => '\x7b' :: (", ".toList.intercalate ws ++ ['\x7d'])

/-- The members of a list, as people read them. -/
def displayList : List Value → Option (List Text)
  | [] => some []
  | v :: vs => do return (← displayInner v) :: (← displayList vs)

/-- The fields of an object, as people read them. -/
def displayFields : List (Text × Value) → Option (List Text)
  | [] => some []
  | (k, v) :: fields => do
    return (Text.quoted k ++ ": ".toList ++ (← displayInner v)) :: (← displayFields fields)

end

/-- A value as people read it; a text stands without quotes. -/
def display : Value → Option Text
  | text t => some t
  | v => displayInner v

end Value

end Flattener
