import Flattener.Command.Scope
import Std.Time.DateTime
import Std.Time.Zoned

/-!
# The program

The outer layer: it collects the part of the disk and of the environment that a command looks at,
lets `Command.respond` work on it, and carries out what comes of it.
-/

namespace Flattener.Program

/-- What is known of the world around a run. -/
structure World where
  env : Environment
  tree : FileTree
  seen : List Path

/-- The name that the file system has for a place. -/
def fileName (place : Place) : String := String.ofList ('/' :: ['/'].intercalate place)

/-- The code of the error that reading a directory gives. -/
def directoryCode : UInt32 := 21

/-- What the disk holds at a place. -/
def lookAt (place : Place) : IO (Option Entry) := do
  try
    let bytes ← IO.FS.readBinFile (fileName place)
    return some (.file bytes.toList)
  catch
    | .inappropriateType _ code _ => return if code = directoryCode then some .directory else none
    | _ => return none

/-- Adds what the disk holds along a path, from the place `here` on. -/
def follow (tree : FileTree) (here : Place) : List Text → IO FileTree
  | [] => return tree
  | s :: segments => do
    let next := if s = Path.up then here.dropLast else here ++ [s]
    if (tree.entryAt? next).isSome then follow tree next segments
    else
      match ← lookAt next with
      | some e => follow (tree.put next e) next segments
      | none => return tree

/-- The system as a command sees it; `terminal` tells whether its console is one. -/
def World.host (w : World) (terminal : Bool) : Command.Host where
  env := w.env
  codecs := .builtIn
  console := if terminal then .terminal else .piped

/-- Collects what a command line looks at, round after round. -/
partial def collect (cwd : Path) (limit : Nat) (args : List Text) (w : World) : IO World := do
  let scope := Command.scope (w.host false) cwd limit w.tree args
  let mut tree := w.tree
  let mut env := w.env
  let mut seen := w.seen
  for p in scope.paths do
    if p ∉ seen then
      seen := p :: seen
      tree ← follow tree [] p.segments
  for name in scope.names do
    if let some value ← IO.getEnv (String.ofList name) then
      env := (name, value.toList) :: env
  if seen.length = w.seen.length && env.length = w.env.length then return w
  else collect cwd limit args ⟨env, tree, seen⟩

/-- Makes the disk agree with a changed file tree. -/
def carryOut (before after : FileTree) : IO Unit := do
  for (place, _) in before.entries do
    if (after.entryAt? place).isNone then IO.FS.removeFile (fileName place)
  for (place, e) in after.entries do
    if before.entryAt? place ≠ some e then
      match e with
      | .directory => IO.FS.createDirAll (fileName place)
      | .file bytes => IO.FS.writeBinFile (fileName place) ⟨bytes.toArray⟩

/-- A number with zeros before it. -/
def padded (width n : Nat) : Text :=
  let digits := Text.ofNat n
  List.replicate (width - digits.length) '0' ++ digits

/-- A time of day. -/
def timeText (hour minute second : Int) : Text :=
  [':'].intercalate ([hour, minute, second].map fun n => padded 2 n.toNat)

/-- A date. -/
def dateText (year month day : Int) : Text :=
  ['-'].intercalate [padded 4 year.toNat, padded 2 month.toNat, padded 2 day.toNat]

/-- The part of a second in microseconds, if there is one. -/
def fractionText (nanosecond : Int) : Text :=
  let n := nanosecond.toNat / 1000
  if n = 0 then [] else '.' :: padded 6 n

/-- The moment at which the log is written. -/
def readClock : IO Log.Clock := do
  let here ← Std.Time.PlainDateTime.now
  let now ← Std.Time.Timestamp.now
  let utc := Std.Time.DateTime.ofTimestamp now Std.Time.TimeZone.ZoneRules.UTC
  return {
    time := timeText here.hour.val here.minute.val here.second.val
    stamp := dateText utc.year.toInt utc.month.val utc.day.val ++
      'T' :: (timeText utc.hour.val utc.minute.val utc.second.val ++
        fractionText utc.nanosecond.val ++ "+00:00".toList) }

/-- The number of files that a run goes through at most. -/
def fileLimit : Nat := 1000000

/-- What is said about a command line that is not understood. -/
def usage : String :=
  "Usage: solflat [-c FILE] [-v] [-q] [--ci] [--version] COMMAND\n" ++
  "  flatten FILES... [-o PATH] [-p DIR]...\n" ++
  "  order FILES... [-p DIR]...\n" ++
  "  init [--force]\n"

/-- Does what a command line asks for, and gives the exit code. -/
def run (args : List Text) : IO UInt32 := do
  let cwd := Path.ofText (toString (← IO.currentDir)).toList
  let err ← IO.getStderr
  let noColor := "NO_COLOR".toList
  let env := match ← IO.getEnv "NO_COLOR" with
    | some value => [(noColor, value.toList)]
    | none => []
  let w ← collect cwd fileLimit args ⟨env, .empty, []⟩
  let out ← IO.getStdout
  match Command.respond (w.host (← out.isTty)) (← err.isTty) cwd fileLimit w.tree args with
  | none =>
    err.putStr usage
    return 2
  | some reply =>
    carryOut w.tree reply.outcome.tree
    out.putStr (String.ofList reply.outcome.printed)
    err.putStr (String.ofList (reply.log (← readClock)))
    if reply.outcome.raised.isSome then err.putStr "The configuration cannot be used.\n"
    return UInt32.ofNat reply.outcome.exit

end Flattener.Program

/-- The command line. -/
def main (args : List String) : IO UInt32 := Flattener.Program.run (args.map String.toList)
