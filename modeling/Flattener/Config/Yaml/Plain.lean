import Flattener.Config.Yaml.Fault

/-!
# What plain texts mean

A plain text that looks like a number, a truth value, a moment in time or nothing is that, and no
text.

* `Tag.ofPlain` tells what a plain text looks like.
* `readInteger`, `readReal` and `readMoment` read a text as what it is tagged as.
-/

namespace Flattener.Yaml

/-- What kind of value a node is. -/
inductive Tag where
  | null
  | bool
  | int
  | real
  | moment
  | text
  | list
  | object
  /-- The key whose value is merged into the object. -/
  | merge
  /-- The key whose value stands for the object. -/
  | default
  /-- Any other kind, of which there are no values. -/
  | other
  deriving DecidableEq, Repr

/-- The kind of value with the given full name. -/
def Tag.ofName (name : Text) : Tag :=
  (([("null", null), ("bool", bool), ("int", int), ("float", real), ("timestamp", moment),
    ("str", text), ("seq", list), ("map", object), ("merge", merge),
    ("value", default)].map fun p => ("tag:yaml.org,2002:".toList ++ p.1.toList, p.2)).lookup
      name).getD other

/-! ### Integers -/

/-- Whether a text is not empty and holds only underscores and characters for which `ok` holds. -/
def isRun (ok : Char → Bool) (t : Text) : Bool := !t.isEmpty && t.all fun c => c = '_' || ok c

/-- Whether a character is a digit in base sixteen. -/
def isHexDigit (c : Char) : Bool :=
  c.isDigit || ('a' ≤ c && c ≤ 'f') || ('A' ≤ c && c ≤ 'F')

/-- The text without a sign at its start. -/
def dropSign : Text → Text
  | '-' :: t => t
  | '+' :: t => t
  | t => t

/-- Whether a text is one or two digits that give a number below sixty. -/
def isSixtieth : Text → Bool
  | [c] => c.isDigit
  | [c, d] => '0' ≤ c && c ≤ '5' && d.isDigit
  | _ => false

/-- Whether a text looks like an integer without sign: binary, octal, decimal, hexadecimal, or with
places of sixty divided by colons. -/
def looksNatural (t : Text) : Bool :=
  match t with
  | ['0'] => true
  | '0' :: 'b' :: ds => isRun (fun c => c = '0' || c = '1') ds
  | '0' :: 'x' :: ds => isRun isHexDigit ds
  | '0' :: ds => isRun (fun c => '0' ≤ c && c ≤ '7') ds
  | c :: ds =>
    '1' ≤ c && c ≤ '9' &&
      match ds.splitOn ':' with
      | [] => false
      | first :: places => (first.all fun d => d = '_' || d.isDigit) && places.all isSixtieth
  | [] => false

/-- The value of a digit of any base. -/
def digitOf (c : Char) : Nat :=
  if c.isDigit then c.toNat - 48 else if 'a' ≤ c then c.toNat - 87 else c.toNat - 55

/-- The number that digits in a base denote. -/
def valueIn (base : Nat) (t : Text) : Nat := t.foldl (fun n c => base * n + digitOf c) 0

/-- Reads digits in a base. -/
def readDigits (base : Nat) (t : Text) : Except Fault Nat :=
  if t.isEmpty || !t.all fun c => isHexDigit c && digitOf c < base then .error (.integer base t)
  else if base = 10 && 4300 < t.length then .error (.digitLimit t.length)
  else .ok (valueIn base t)

/-- Reads an integer without sign and underscores. -/
def readNatural (t : Text) : Except Fault Nat :=
  match t with
  | [] => .error .noDigits
  | ['0'] => .ok 0
  | '0' :: 'b' :: ds => readDigits 2 ds
  | '0' :: 'x' :: ds => readDigits 16 ds
  | '0' :: ds => readDigits 8 ('0' :: ds)
  | t => do
    let places ← (t.splitOn ':').mapM (readDigits 10)
    return places.foldl (fun n d => 60 * n + d) 0

/-- Reads an integer. -/
def readInteger (t : Text) : Except Fault Int :=
  match t.filter (· ≠ '_') with
  | [] => .error .noDigits
  | '-' :: t => (readNatural t).map fun n => -(n : Int)
  | t => (readNatural (dropSign t)).map fun n => (n : Int)

/-! ### Other numbers -/

/-- Whether a text starts with a digit and goes on with digits and underscores. -/
def isDigits : Text → Bool
  | c :: t => c.isDigit && t.all fun c => c = '_' || c.isDigit
  | [] => false

/-- Whether a text is empty or an exponent with its sign. -/
def isExponent : Text → Bool
  | [] => true
  | e :: s :: ds =>
    (e = 'e' || e = 'E') && (s = '-' || s = '+') && !ds.isEmpty && ds.all Char.isDigit
  | _ => false

/-- Whether a text is digits and underscores and possibly an exponent. -/
def isFraction (t : Text) : Bool := isExponent (t.dropWhile fun c => c = '_' || c.isDigit)

/-- Whether a text looks like a number with a point. -/
def looksReal (t : Text) : Bool :=
  let unsigned := dropSign t
  match unsigned.takeWhile (· ≠ '.'), unsigned.dropWhile (· ≠ '.') with
  | [], _ :: rest =>
    (["inf", "Inf", "INF"].map String.toList).contains rest ||
      (t.head? = some '.' && ((["nan", "NaN", "NAN"].map String.toList).contains rest ||
        (rest.head?.any Char.isDigit && isFraction rest)))
  | before, _ :: rest =>
    match before.splitOn ':' with
    | [whole] => isDigits whole && isFraction rest
    | whole :: places =>
      isDigits whole && places.all isSixtieth && rest.all fun c => c = '_' || c.isDigit
    | [] => false
  | _, [] => false

/-- Reads a number. It is kept as it is written. -/
def readReal (t : Text) : Except Fault Text :=
  let plain := t.filter (· ≠ '_')
  if looksReal t || looksNatural (dropSign plain) then .ok plain else .error (.real plain)

/-! ### Moments -/

/-- The parts of a written moment: year, month, day, time of day, and distance from universal
time in minutes. -/
structure Moment where
  year : Nat
  month : Nat
  day : Nat
  time : Option (Nat × Nat × Nat) := none
  zone : Int := 0
  deriving DecidableEq, Repr

/-- The number that `least` to `most` digits at the start of a text denote, and what follows. -/
def someDigits (least most : Nat) (t : Text) : Option (Nat × Text) :=
  let digits := (t.takeWhile Char.isDigit).take most
  if digits.length < least then none else some (valueIn 10 digits, t.drop digits.length)

/-- The text after the given character. -/
def after? (c : Char) : Text → Option Text
  | d :: t => if d = c then some t else none
  | [] => none

/-- Reads the distance from universal time at the end of a moment. -/
def zone? (t : Text) : Option Int :=
  match t.dropWhile fun c => c = ' ' || c = '\t' with
  | [] => if t.isEmpty then some 0 else none
  | ['Z'] => some 0
  | c :: t => do
    if c ≠ '-' && c ≠ '+' then none
    let (hours, t) ← someDigits 1 2 t
    let minutes ←
      match t with
      | [] => some 0
      | t => do
        let (m, rest) ← someDigits 2 2 (← after? ':' t)
        if rest.isEmpty then some m else none
    let total : Int := 60 * hours + minutes
    return if c = '-' then -total else total

/-- Reads what follows the date in a moment: what divides them, the time, and the zone. -/
def time? (t : Text) : Option ((Nat × Nat × Nat) × Int) := do
  let t ←
    match t with
    | 'T' :: t => some t
    | 't' :: t => some t
    | c :: t =>
      if c = ' ' || c = '\t' then some (t.dropWhile fun c => c = ' ' || c = '\t') else none
    | [] => none
  let (hour, t) ← someDigits 1 2 t
  let (minute, t) ← someDigits 2 2 (← after? ':' t)
  let (second, t) ← someDigits 2 2 (← after? ':' t)
  let t := match t with | '.' :: t => t.dropWhile Char.isDigit | t => t
  return ((hour, minute, second), ← zone? t)

/-- Reads a moment. A month or a day of one digit needs a time after it, if `strict`. -/
def moment? (strict : Bool) (t : Text) : Option Moment := do
  let (year, t) ← someDigits 4 4 t
  let t ← after? '-' t
  let (month, rest) ← someDigits 1 2 t
  let monthWidth := t.length - rest.length
  let t ← after? '-' rest
  let (day, rest) ← someDigits 1 2 t
  let dayWidth := t.length - rest.length
  if rest.isEmpty then
    if strict && (monthWidth ≠ 2 || dayWidth ≠ 2) then none else return ⟨year, month, day, none, 0⟩
  else
    let (time, zone) ← time? rest
    return ⟨year, month, day, some time, zone⟩

/-- The number of days of a month. -/
def daysIn (year month : Nat) : Nat :=
  if month = 2 then
    if year % 4 = 0 && (year % 100 ≠ 0 || year % 400 = 0) then 29 else 28
  else if [4, 6, 9, 11].contains month then 30
  else 31

/-- What is wrong with a moment, if anything. -/
def Moment.fault? (m : Moment) : Option MomentFault :=
  if m.zone ≤ -1440 || 1440 ≤ m.zone then some (.zone m.zone)
  else if m.year = 0 then some .year
  else if m.month = 0 || 12 < m.month then some .month
  else if m.day = 0 || daysIn m.year m.month < m.day then some .day
  else
    match m.time with
    | none => none
    | some (hour, minute, second) =>
      if 23 < hour then some .hour
      else if 59 < minute then some .minute
      else if 59 < second then some .second
      else none

/-- Reads a moment. It is kept as it is written. -/
def readMoment (t : Text) : Except Fault Text :=
  match moment? false t with
  | none => .error .unreadableMoment
  | some m =>
    match m.fault? with
    | some e => .error (.moment e)
    | none => .ok t

/-! ### Words -/

/-- The words for true and false, in small letters. -/
def truthWords : List (Text × Bool) :=
  [("yes", true), ("no", false), ("true", true), ("false", false), ("on", true),
    ("off", false)].map fun p => (p.1.toList, p.2)

/-- The three spellings of a word: small, with a capital, and in capitals. -/
def spellings (t : Text) : List Text :=
  [t, (t.take 1).map Char.toUpper ++ t.drop 1, t.map Char.toUpper]

/-- What a plain text looks like. -/
def Tag.ofPlain (t : Text) : Tag :=
  if truthWords.any fun w => (spellings w.1).contains t then bool
  else if looksReal t then real
  else if looksNatural (dropSign t) then int
  else if t = "<<".toList then merge
  else if t.isEmpty || t = ['~'] || (spellings "null".toList).contains t then null
  else if (moment? true t).isSome then moment
  else if t = ['='] then default
  else text

end Flattener.Yaml
