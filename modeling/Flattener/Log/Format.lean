import Flattener.Log.Record

/-!
# Log lines

Records are written in one of three ways: for people in short (`[LEVEL] message`), for people in
full (with the time, the part that logs, and the fields), or as JSON for machines. There is no line
for a record in which an integer is too long to be written.

* `Log.Style.line` writes one record.
* `Log.Settings` says how records are written and which ones; `Log.Settings.ofFlags` takes this
  from the flags of the command line.
-/

namespace Flattener.Log

/-- The moment at which a record is written: the local time of day, and the full time stamp. -/
structure Clock where
  time : Text
  stamp : Text
  deriving Repr

/-- How records are written. -/
inductive Mode where
  | human
  | verbose
  | json
  deriving DecidableEq, Repr

/-- The escape that ends a color. -/
def resetColor : Text := "\x1b[0m".toList

/-- The escape that starts the color of a level. -/
def levelColor (l : Level) : Text :=
  if l = Level.debug then "\x1b[90m".toList
  else if l = Level.info then "\x1b[32m".toList
  else if l = Level.warning then "\x1b[33m".toList
  else if l = Level.error || l = Level.critical then "\x1b[31m".toList
  else resetColor

/-- The part of the program that a logger stands for: its name after the last point. -/
def component (logger : Text) : Text :=
  if logger = rootLogger then [] else (logger.reverse.takeWhile (· ≠ '.')).reverse

/-- The level in brackets, in its color if wanted. -/
def levelTag (colors : Bool) (l : Level) : Option Text :=
  (Level.name l).map fun name =>
    let tag := '[' :: (name ++ [']'])
    if colors then levelColor l ++ tag ++ resetColor else tag

/-- The fields of a record after its message, each with a space before it. -/
def fieldTail : List (Text × Value) → Option Text
  | [] => some []
  | f :: fields => do
    return ' ' :: (f.1 ++ '=' :: ((← f.2.display) ++ (← fieldTail fields)))

/-- A record for people. -/
def humanLine (colors verbose : Bool) (clock : Clock) (r : Record) : Option Text := do
  let tag ← levelTag colors r.level
  if verbose then
    let part := component r.logger
    let before := if part.isEmpty then [] else part ++ ": ".toList
    return tag ++ '[' :: (clock.time ++ "] ".toList ++ before ++ r.message ++
      (← fieldTail (Value.putFields [] r.fields)))
  else return tag ++ ' ' :: r.message

/-- The fields of a record for machines: the four of every record, of which the first is the name
of its level, then its own. -/
def jsonFields (clock : Clock) (name : Text) (r : Record) : List (Text × Value) :=
  Value.putFields
    [("level".toList, .text name), ("ts".toList, .text clock.stamp),
      ("logger".toList, .text r.logger), ("msg".toList, .text r.message)] r.fields

/-- A record for machines. -/
def jsonLine (clock : Clock) (r : Record) : Option Text := do
  (Value.object (jsonFields clock (← Level.name r.level) r)).toJson

/-- Which records are written, and how. -/
structure Settings where
  mode : Mode
  level : Level
  colors : Bool
  deriving DecidableEq, Repr

namespace Settings

/-- Whether colors are wanted: on a terminal, unless the environment says no. -/
def wantsColors (terminal : Bool) (env : List (Text × Text)) : Bool :=
  terminal && !(env.lookup "NO_COLOR".toList).any fun v => !v.isEmpty

/-- The settings for the flags of the command line. -/
def ofFlags (verbose quiet ci colors : Bool) : Settings where
  mode := if ci then .json else if verbose then .verbose else .human
  level := if quiet then .warning else if verbose then .debug else .info
  colors := colors

/-- A record as one line, without its end. -/
def line (s : Settings) (clock : Clock) (r : Record) : Option Text :=
  match s.mode with
  | .json => jsonLine clock r
  | .verbose => humanLine s.colors true clock r
  | .human => humanLine s.colors false clock r

/-- The level from which on records are written. Without a level of its own, a logger goes by the
level of all programs, which is that of warnings. -/
def threshold (s : Settings) : Level := if s.level = 0 then .warning else s.level

/-- What is written for a record: nothing if there is no line for it or its level is too low, which
zero always is. -/
def output (s : Settings) (clock : Clock) (r : Record) : Text :=
  if 0 < r.level ∧ s.threshold ≤ r.level then
    match s.line clock r with
    | some t => t ++ ['\n']
    | none => []
  else []

end Settings

end Flattener.Log
