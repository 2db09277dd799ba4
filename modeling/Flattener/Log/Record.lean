import Flattener.Value

/-!
# Log records

What a run tells about itself is a list of records. A record has a level, the name of the part
that logs it, a message, and possibly some fields.

* `Log.interpolate` puts arguments into a message.
* `Logged` is a computation that logs records and may fail; records of a failed one are kept.
-/

namespace Flattener.Log

/-- Levels are numbers; a higher one is weightier. -/
abbrev Level := Int

namespace Level

/-- Details for tracing a run. -/
def debug : Level := 10

/-- What a run does. -/
def info : Level := 20

/-- What may be wrong. -/
def warning : Level := 30

/-- What is wrong. -/
def error : Level := 40

/-- What keeps a run from going on. -/
def critical : Level := 50

/-- The name of a level. One without a name of its own is called by its number, unless that is too
long to be written. -/
def name (l : Level) : Option Text :=
  if l = 0 then some "NOTSET".toList
  else if l = debug then some "DEBUG".toList
  else if l = info then some "INFO".toList
  else if l = warning then some "WARNING".toList
  else if l = error then some "ERROR".toList
  else if l = critical then some "CRITICAL".toList
  else (Text.ofInt? l).map ("Level ".toList ++ ·)

end Level

/-- A log record. -/
structure Record where
  level : Level
  logger : Text
  message : Text
  fields : List (Text × Value) := []
  deriving Repr

/-- The name of the logger that all others are below. -/
def rootLogger : Text := "solflat".toList

/-- A part of the program that logs: the name of its logger. -/
def loggerOf (part : String) : Text := rootLogger ++ '.' :: part.toList

/-! ### Arguments -/

/-- Why arguments cannot be put into a message. -/
inductive ArgumentFault where
  /-- An argument does not fit its place, or there are too many or too few. -/
  | mismatch
  /-- A place names a field that does not exist. -/
  | noField (key : Text)
  /-- The message ends inside a place. -/
  | incomplete
  /-- The message ends inside the name of a field. -/
  | incompleteKey
  /-- A place is of no known kind: its letter, and where that stands. -/
  | unknownPlace (c : Char) (offset : Nat)
  /-- An integer is too long to be written. -/
  | longNumber
  deriving DecidableEq, Repr

/-- What is said about a message that is itself at fault and about an integer that is too long;
nothing about the other faults. -/
def ArgumentFault.message? : ArgumentFault → Option Text
  | incomplete => some "incomplete format".toList
  | incompleteKey => some "incomplete format key".toList
  | unknownPlace c offset =>
    some ("unsupported format character '".toList ++
      (if 0x20 ≤ c.toNat && c.toNat ≤ 0x7E then c else '?') ::
      ("' (0x".toList ++ Nat.toDigits 16 c.toNat ++ ") at index ".toList ++ Text.ofNat offset))
  | longNumber => some Text.longNumber
  | _ => none

/-- A text that may be missing since an integer is too long to be written. -/
def ArgumentFault.ofWritten (t : Option Text) : Except ArgumentFault Text :=
  t.elim (.error longNumber) .ok

/-- The arguments of a message that are left, and the object whose fields may be named. -/
structure Arguments where
  values : List Value
  fields : Option (List (Text × Value)) := none

/-- The arguments as they are given. A single object that is not empty may also be used field by
field, and need not be used at all. -/
def Arguments.ofList : List Value → Arguments
  | [.object (f :: fields)] => ⟨[.object (f :: fields)], some (f :: fields)⟩
  | values => ⟨values, none⟩

/-- A value in a place of the kind that the letter `c` stands for: as people read it, as an
inner value, or as an integer. -/
def place (c : Char) (offset : Nat) (v : Value) : Except ArgumentFault Text :=
  if c = 's' then ArgumentFault.ofWritten v.display
  else if c = 'r' then ArgumentFault.ofWritten v.displayInner
  else if c = 'd' || c = 'i' || c = 'u' then
    match v with
    | .int n => ArgumentFault.ofWritten (Text.ofInt? n)
    | .real d => ArgumentFault.ofWritten (Text.ofInt? d.truncate)
    | .bool b => .ok (Text.ofNat b.toNat)
    | _ => .error .mismatch
  else .error (.unknownPlace c offset)

/-- The name of a field up to the parenthesis that closes it, `depth` others being open inside,
and what follows. -/
def fieldName (depth : Nat) : Text → Option (Text × Text)
  | [] => none
  | c :: t =>
    if c = ')' && depth = 0 then some ([], t)
    else
      let depth := if c = '(' then depth + 1 else if c = ')' then depth - 1 else depth
      (fieldName depth t).map fun r => (c :: r.1, r.2)

/-- The named field: the value that takes its place as an argument. -/
def Arguments.select (args : Arguments) (key : Text) : Except ArgumentFault Arguments :=
  match args.fields with
  | none => .error .mismatch
  | some fields =>
    match fields.lookup key with
    | some v => .ok { args with values := [v] }
    | none => .error (.noField key)

/-- Puts the next argument into a place of the kind `c`. A percent sign stands for itself. -/
def Arguments.take (args : Arguments) (c : Char) (offset : Nat) :
    Except ArgumentFault (Text × Arguments) :=
  if c = '%' then .ok ([c], args)
  else
    match args.values with
    | [] => .error .mismatch
    | v :: vs => (place c offset v).map fun t => (t, { args with values := vs })

/-- Puts the arguments into the text `t`, the rest of a message, after `skip` characters of it that
have been used; `offset` is the place of `t`. -/
def fillFrom (offset skip : Nat) (args : Arguments) : Text → Except ArgumentFault Text
  | [] => if args.values.isEmpty || args.fields.isSome then .ok [] else .error .mismatch
  | c :: t =>
    if 0 < skip then fillFrom (offset + 1) (skip - 1) args t
    else if c = '%' then
      match t with
      | [] => .error .incomplete
      | '(' :: rest =>
        if args.fields.isNone then .error .mismatch
        else
          match fieldName 0 rest with
          | none => .error .incompleteKey
          | some (key, rest') =>
            match args.select key with
            | .error e => .error e
            | .ok args =>
              match rest' with
              | [] => .error .incomplete
              | d :: _ =>
                match args.take d (offset + key.length + 3) with
                | .error e => .error e
                | .ok (u, args) =>
                  (fillFrom (offset + 1) (key.length + 3) args t).map (u ++ ·)
      | d :: _ =>
        match args.take d (offset + 1) with
        | .error e => .error e
        | .ok (u, args) => (fillFrom (offset + 1) 1 args t).map (u ++ ·)
    else (fillFrom (offset + 1) 0 args t).map (c :: ·)

/-- The message with its arguments: `%s` takes any value, `%d` an integer, `%%` none. Without
arguments the message stands as it is. -/
def interpolate (message : Text) (args : List Value) : Except ArgumentFault Text :=
  if args.isEmpty then .ok message else fillFrom 0 0 (.ofList args) message

/-- The names that no field of a record may have, since they stand for its parts. -/
def reservedNames : List Text := ["self", "level", "msg"].map String.toList

/-- A record with fields, unless one of them has the name of a part. -/
def Record.withFields? (level : Level) (logger message : Text) (fields : List (Text × Value)) :
    Option Record :=
  if fields.any fun f => reservedNames.contains f.1 then none
  else some ⟨level, logger, message, fields⟩

end Flattener.Log

namespace Flattener

/-- The outcome of a computation that may fail, with the records that it logged. -/
structure Logged (ε α : Type) where
  records : List Log.Record
  result : Except ε α

namespace Logged

variable {ε ε' α β : Type}

/-- A computation that logs nothing. -/
def ofExcept (r : Except ε α) : Logged ε α := ⟨[], r⟩

/-- Goes on with the result, if there is one. -/
def bind (x : Logged ε α) (f : α → Logged ε β) : Logged ε β :=
  match x.result with
  | .error e => ⟨x.records, .error e⟩
  | .ok a => ⟨x.records ++ (f a).records, (f a).result⟩

instance : Monad (Logged ε) where
  pure a := ⟨[], .ok a⟩
  bind := bind

/-- Logs one record. -/
def log (r : Log.Record) : Logged ε Unit := ⟨[r], .ok ()⟩

/-- Fails. -/
def fail (e : ε) : Logged ε α := ⟨[], .error e⟩

/-- Tells the reason of a failure in other terms. -/
def mapError (f : ε → ε') (x : Logged ε α) : Logged ε' α := ⟨x.records, x.result.mapError f⟩

end Logged

end Flattener
