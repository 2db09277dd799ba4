import Flattener.Text.Quoted

/-!
# Faults of a document

Most documents that cannot be read are malformed, and no more is said about them. A few are well
formed but hold a value that does not exist, such as a date in a thirteenth month.
-/

namespace Flattener.Yaml

/-- Why a written moment in time does not exist. -/
inductive MomentFault where
  | year
  | month
  | day
  | hour
  | minute
  | second
  /-- The distance from universal time is a day or more; it is given in minutes. -/
  | zone (minutes : Int)
  deriving DecidableEq, Repr

/-- A distance in time as whole days, rounded down, and seconds. -/
def distanceText (minutes : Int) : Text :=
  let days := minutes / 1440
  let seconds := 60 * (minutes % 1440)
  "datetime.timedelta(days=".toList ++ Text.ofInt days ++
    (if seconds = 0 then [] else ", seconds=".toList ++ Text.ofInt seconds) ++ [')']

/-- What is said about a moment that does not exist. -/
def MomentFault.message : MomentFault → Text
  | year => "year 0 is out of range".toList
  | month => "month must be in 1..12".toList
  | day => "day is out of range for month".toList
  | hour => "hour must be in 0..23".toList
  | minute => "minute must be in 0..59".toList
  | second => "second must be in 0..59".toList
  | zone minutes =>
    "offset must be a timedelta strictly between -timedelta(hours=24) and ".toList ++
      "timedelta(hours=24), not ".toList ++ distanceText minutes ++ ['.']

/-- Why a document cannot be read. -/
inductive Fault where
  /-- The document does not follow the grammar. -/
  | malformed
  /-- An escape names a code point beyond the last one. -/
  | codePoint
  /-- An escape names a code point that is no machine integer. -/
  | hugeCodePoint
  /-- The digits of an integer are missing or wrong. -/
  | integer (base : Nat) (digits : Text)
  /-- An integer has more digits than are read. -/
  | digitLimit (count : Nat)
  /-- A number is tagged as such and is none. -/
  | real (written : Text)
  /-- An integer is tagged as such and is empty. -/
  | noDigits
  /-- A truth value is tagged as such and is none. -/
  | truthValue
  /-- A moment is tagged as such and is none. -/
  | unreadableMoment
  /-- A moment in time does not exist. -/
  | moment (e : MomentFault)
  /-- A value is a part of itself. -/
  | endless
  deriving DecidableEq, Repr

/-- What is said about a value that does not exist; nothing about the other faults. -/
def Fault.message? : Fault → Option Text
  | codePoint => some "chr() arg not in range(0x110000)".toList
  | integer base digits =>
    some ("invalid literal for int() with base ".toList ++ Text.ofNat base ++ ": ".toList ++
      Text.quoted digits)
  | digitLimit count =>
    some ("Exceeds the limit (4300 digits) for integer string conversion: value has ".toList ++
      Text.ofNat count ++
      " digits; use sys.set_int_max_str_digits() to increase the limit".toList)
  | real written => some ("could not convert string to float: ".toList ++ Text.quoted written)
  | moment e => some e.message
  | _ => none

end Flattener.Yaml
