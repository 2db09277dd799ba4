import Flattener.Config.Yaml.Cursor
import Flattener.Config.Yaml.Fault

/-!
# Written texts

A text is written in a document in one of three ways: plainly, in quotes, or as a block of lines.
All of them may run over several lines, and all but the literal block fold the breaks between
lines into spaces.

* `Plain.read` reads a plain text.
* `Quoted.read` reads a text in quotes.
* `Block.read` reads a block of lines.

Every reader goes over the characters one by one and keeps in its mode what it has passed since
the last character that surely belongs to the text.
-/

namespace Flattener.Yaml

/-- What the passed line breaks count as: a single line feed folds to a space, and the first of
several line feeds is dropped. -/
def foldBreaks (first : Char) (more : Text) : Text :=
  if breakText first ≠ '\n' then breakText first :: more
  else if more.isEmpty then [' ']
  else more

/-- Whether a character is a space or a tab. -/
def isInset (c : Char) : Bool := c = ' ' || c = '\t'

/-! ### Plain texts -/

namespace Plain

/-- What has been passed since the last character of a plain text. -/
inductive Mode where
  | word
  | spaces (passed : Text)
  /-- Line breaks, and the column after them. -/
  | broken (first : Char) (more : Text) (column : Nat)
  deriving Repr

/-- The text between the last character of a plain text and its next one. -/
def Mode.gap : Mode → Text
  | word => []
  | spaces passed => passed
  | broken first more _ => foldBreaks first more

/-- Whether a line break has been passed. -/
def Mode.isBroken : Mode → Bool
  | broken .. => true
  | _ => false

/-- Whether a character with the text after it ends a plain text. -/
def ends (flow : Bool) (c : Char) (t : Text) : Bool :=
  c = '\t' ||
    (c = ':' && (endsWord t || (flow && t.head?.any ",[]\x7b\x7d".toList.contains))) ||
    (flow && ",?[]\x7b\x7d".toList.contains c)

/-- Whether a character may not continue a plain text after a gap: a comment starts, or the
column is too small. -/
def Mode.stops (flow : Bool) (least : Nat) (mode : Mode) (c : Char) : Bool :=
  match mode with
  | word => false
  | spaces _ => c = '#'
  | broken _ _ column => c = '#' || (!flow && column < least)

/-- Reads on in a plain text whose lines are indented by at least `least`. -/
def readFrom (flow : Bool) (least : Nat) (mode : Mode) : Text → Text × Text × Bool
  | [] => ([], [], mode.isBroken)
  | c :: t =>
    if c = ' ' then
      match mode with
      | .word => readFrom flow least (.spaces [c]) t
      | .spaces passed => readFrom flow least (.spaces (passed ++ [c])) t
      | .broken first more column => readFrom flow least (.broken first more (column + 1)) t
    else if isBreak c then
      let mode : Mode :=
        match mode with
        | .broken first more _ => .broken first (more ++ [breakText c]) 0
        | _ => .broken c [] 0
      if isSeparator t then ([], t, true) else readFrom flow least mode t
    else if ends flow c t || mode.stops flow least c then ([], c :: t, mode.isBroken)
    else
      let r := readFrom flow least .word t
      (mode.gap ++ c :: r.1, r.2)

/-- Reads a plain text whose later lines are indented by at least `least`: the text, what follows
it, and whether that starts on another line. -/
def read (flow : Bool) (least : Nat) (t : Text) : Text × Text × Bool := readFrom flow least .word t

/-- Whether a plain text may start here. -/
def starts (flow : Bool) : Text → Bool
  | [] => false
  | c :: t =>
    if isInset c || isBreak c then false
    else if "-?:".toList.contains c then !endsWord t && (c = '-' || !flow)
    else !(",[]\x7b\x7d#&*!|>'\"%@".toList.contains c || c = '\x60')

end Plain

/-! ### Quoted texts -/

namespace Quoted

/-- What has been passed since the last character of a quoted text. -/
inductive Mode where
  | inside
  | spaces (passed : Text)
  /-- Line breaks; the first one does not count if it was escaped. -/
  | broken (first : Option Char) (more : Text)
  deriving Repr

/-- The text between the last character of a quoted text and its next one. -/
def Mode.gap : Mode → Text
  | inside => []
  | spaces passed => passed
  | broken none more => more
  | broken (some first) more => foldBreaks first more

/-- The mode after a space or a tab. -/
def Mode.afterSpace (c : Char) : Mode → Mode
  | inside => spaces [c]
  | spaces passed => spaces (passed ++ [c])
  | broken first more => broken first more

/-- The mode after a line break. -/
def Mode.afterBreak (c : Char) : Mode → Mode
  | broken first more => broken first (more ++ [breakText c])
  | _ => broken (some c) []

/-- The characters that stand for another one after a backslash. -/
def escapes : List (Char × Char) :=
  [('0', '\x00'), ('a', '\x07'), ('b', '\x08'), ('t', '\t'), ('\t', '\t'), ('n', '\n'),
    ('v', '\x0b'), ('f', '\x0c'), ('r', '\r'), ('e', '\x1b'), (' ', ' '), ('"', '"'),
    ('\\', '\\'), ('/', '/'), ('N', '\x85'), ('_', '\xa0'), ('L', '\u2028'), ('P', '\u2029')]

/-- The value of a digit in base sixteen. -/
def hexDigit? (c : Char) : Option Nat :=
  if c.isDigit then some (c.toNat - 48)
  else if 'a' ≤ c && c ≤ 'f' then some (c.toNat - 87)
  else if 'A' ≤ c && c ≤ 'F' then some (c.toNat - 55)
  else none

/-- The value of digits in base sixteen. -/
def hexValue? (t : Text) : Option Nat :=
  t.foldlM (fun n c => (hexDigit? c).map fun d => 16 * n + d) 0

/-- How many digits follow the letter of an escape. -/
def escapeWidth? : Char → Option Nat
  | 'x' => some 2
  | 'u' => some 4
  | 'U' => some 8
  | _ => none

/-- The character with the code point that the digits give. -/
def charOf (digits : Text) : Except Fault Char :=
  match hexValue? digits with
  | none => .error .malformed
  | some n =>
    if n < 0x110000 then .ok (Char.ofNat n)
    else if n < 0x80000000 then .error .codePoint
    else .error .hugeCodePoint

/-- Puts characters before the text that was read. -/
def prepend (cs : Text) (r : Except Fault (Text × Text)) : Except Fault (Text × Text) :=
  r.map fun r => (cs ++ r.1, r.2)

/-- Reads on in a text in the given quotes; `skip` characters have been read ahead. -/
def readFrom (quote : Char) (skip : Nat) (mode : Mode) : Text → Except Fault (Text × Text)
  | [] => .error .malformed
  | c :: t =>
    if 0 < skip then readFrom quote (skip - 1) mode t
    else if isInset c then readFrom quote 0 (mode.afterSpace c) t
    else if isBreak c then
      if isSeparator t then .error .malformed else readFrom quote 0 (mode.afterBreak c) t
    else if c = quote then
      if quote = '\'' && t.head? = some quote then
        prepend (mode.gap ++ [c]) (readFrom quote 1 .inside t)
      else .ok (mode.gap, t)
    else if c = '\\' && quote = '"' then
      match t with
      | [] => .error .malformed
      | d :: rest =>
        if isBreak d then
          if isSeparator rest then .error .malformed
          else prepend mode.gap (readFrom quote 1 (.broken none []) t)
        else
          match escapes.lookup d, escapeWidth? d with
          | some e, _ => prepend (mode.gap ++ [e]) (readFrom quote 1 .inside t)
          | none, some width =>
            if rest.length < width then .error .malformed
            else
              match charOf (rest.take width) with
              | .error e => .error e
              | .ok e => prepend (mode.gap ++ [e]) (readFrom quote (width + 1) .inside t)
          | none, none => .error .malformed
    else prepend (mode.gap ++ [c]) (readFrom quote 0 .inside t)

/-- Reads a text after its opening quote: the text, and what follows its closing quote. -/
def read (quote : Char) (t : Text) : Except Fault (Text × Text) := readFrom quote 0 .inside t

end Quoted

/-! ### Blocks -/

namespace Block

/-- What becomes of the line breaks at the end of a block. -/
inductive Chomp where
  | clip
  | strip
  | keep
  deriving DecidableEq, Repr

/-- The line that starts a block: how it ends, and its further indentation if it is given. -/
structure Header where
  chomp : Chomp := .clip
  indent : Option Nat := none
  deriving Repr

/-- The sign that says how a block ends. -/
def chomp? : Char → Option Chomp
  | '+' => some .keep
  | '-' => some .strip
  | _ => none

/-- The digit that gives an indentation, which is not zero. -/
def indent? (c : Char) : Option Nat := if '1' ≤ c && c ≤ '9' then some (c.toNat - 48) else none

/-- Reads the signs after the mark of a block. -/
def signs : Text → Header × Text
  | [] => ({}, [])
  | c :: t =>
    match chomp? c, indent? c with
    | some chomp, _ =>
      match t.head?.bind indent? with
      | some n => (⟨chomp, some n⟩, t.drop 1)
      | none => (⟨chomp, none⟩, t)
    | none, some n =>
      match t.head?.bind chomp? with
      | some chomp => (⟨chomp, some n⟩, t.drop 1)
      | none => (⟨.clip, some n⟩, t)
    | none, none => ({}, c :: t)

/-- The text after a line on which only spaces and a comment are left. -/
def restOfLine? (t : Text) : Option Text :=
  match t.dropWhile (· = ' ') with
  | [] => some []
  | c :: t =>
    if isBreak c then some t
    else if c = '#' then some ((t.dropWhile fun c => !isBreak c).drop 1)
    else none

/-- Reads the rest of the line that starts a block. -/
def header (t : Text) : Except Fault (Header × Text) :=
  let (h, t) := signs t
  if t.head?.all fun c => c = ' ' || isBreak c then
    match restOfLine? t with
    | some rest => .ok (h, rest)
    | none => .error .malformed
  else .error .malformed

/-- The empty lines before a block: their line breaks, the greatest column that is reached with
spaces, the column of what follows, and the text from there on. -/
def leading (column greatest : Nat) : Text → Text × Nat × Nat × Text
  | [] => ([], greatest, column, [])
  | c :: t =>
    if c = ' ' then leading (column + 1) (max greatest (column + 1)) t
    else if isBreak c then
      let r := leading 0 greatest t
      (breakText c :: r.1, r.2)
    else ([], greatest, column, c :: t)

/-- Where a block stands: inside a line, or between lines. -/
inductive Mode where
  /-- In a line, and whether it starts with a space or a tab. -/
  | inside (inset : Bool)
  /-- After a line, if any: whether that starts with a space or a tab, its line break, the line
  breaks of empty lines after it, and the column. -/
  | between (inset : Bool) (first : Text) (more : Text) (column : Nat)
  deriving Repr

/-- The text between two lines. In a folded block a line feed between lines that are not inset
becomes a space, or nothing if empty lines follow. -/
def joint (folded inset : Bool) (first more : Text) (c : Char) : Text :=
  if folded && first = ['\n'] && !inset && !isInset c then if more.isEmpty then [' '] else more
  else first ++ more

/-- The line breaks at the end of a block. -/
def ending (chomp : Chomp) (first more : Text) : Text :=
  match chomp with
  | .strip => []
  | .clip => first
  | .keep => first ++ more

/-- Reads on in a block whose lines are indented by `indent`. -/
def readFrom (folded : Bool) (chomp : Chomp) (indent : Nat) (mode : Mode) : Text → Text × Text
  | [] =>
    match mode with
    | .inside _ => ([], [])
    | .between _ first more _ => (ending chomp first more, [])
  | c :: t =>
    match mode with
    | .inside inset =>
      if isBreak c then readFrom folded chomp indent (.between inset [breakText c] [] 0) t
      else let r := readFrom folded chomp indent (.inside inset) t; (c :: r.1, r.2)
    | .between inset first more column =>
      if c = ' ' && column < indent then
        readFrom folded chomp indent (.between inset first more (column + 1)) t
      else if isBreak c then
        readFrom folded chomp indent (.between inset first (more ++ [breakText c]) 0) t
      else if column = indent then
        let r := readFrom folded chomp indent (.inside (isInset c)) t
        (joint folded inset first more c ++ c :: r.1, r.2)
      else (ending chomp first more, c :: t)

/-- Reads a block after its mark. Its lines are indented by at least `least`, or by the given
number of columns more than what it belongs to. -/
def read (folded : Bool) (least : Nat) (t : Text) : Except Fault (Text × Text) := do
  let (h, body) ← header t
  match h.indent with
  | some n => return readFrom folded h.chomp (least + n - 1) (.between false [] [] 0) body
  | none =>
    let (breaks, greatest, column, rest) := leading 0 0 body
    return readFrom folded h.chomp (max least greatest) (.between false [] breaks column) rest

end Block

end Flattener.Yaml
