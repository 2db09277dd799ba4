import Flattener.Marker.Escape
import Flattener.Text.Identifier

/-!
# Tokens of a marker template

Inside double braces a template holds an expression, which is read as a row of tokens: names,
strings, numbers and signs, up to the closing braces. Where no token can be read the row ends
with the fault, so that a reader of the row meets it only after everything before it.
-/

namespace Flattener.Marker

/-- Why a marker template is not understood. -/
inductive SyntaxFault where
  /-- The template ends where something else is expected. -/
  | cutShort (expected : Text)
  /-- A token stands where it has no meaning. -/
  | unexpected (token : Text)
  /-- A closing bracket does not fit the opening one. -/
  | mismatched (token expected : Text)
  /-- The braces hold no expression. -/
  | noExpression (token : Text)
  /-- Another token is expected. -/
  | wrongToken (expected token : Text)
  /-- A tag has a name that is not known. -/
  | unknownTag (name : Text)
  /-- A tag has no name. -/
  | namelessTag
  /-- A comment has no end. -/
  | openComment
  /-- A filter is not known. -/
  | unknownFilter (name : Text)
  /-- No token starts with this character. -/
  | strayChar (c : Char) (offset : Nat)
  /-- A name is no identifier. -/
  | badIdentifier
  /-- An escape in a string stands for nothing. -/
  | badEscape (e : EscapeFault)
  /-- A part of the template that is taken as it is has no end. -/
  | openRaw
  /-- A number has more digits than are read. -/
  | digitLimit (count : Nat)
  deriving DecidableEq, Repr

namespace SyntaxFault

/-- What is said about a fault of a template. -/
def message : SyntaxFault → Text
  | cutShort expected =>
    "unexpected end of template, expected ".toList ++ Text.quoted expected ++ ['.']
  | unexpected token => "unexpected ".toList ++ Text.quoted token
  | mismatched token expected =>
    "unexpected ".toList ++ Text.quoted token ++ ", expected ".toList ++ Text.quoted expected
  | noExpression token => "Expected an expression, got ".toList ++ Text.quoted token
  | wrongToken expected token =>
    "expected token ".toList ++ Text.quoted expected ++ ", got ".toList ++ Text.quoted token
  | unknownTag name => "Encountered unknown tag ".toList ++ Text.quoted name ++ ['.']
  | namelessTag => "tag name expected".toList
  | openComment => "Missing end of comment tag".toList
  | unknownFilter name => "No filter named ".toList ++ Text.quoted name ++ ['.']
  | strayChar c offset =>
    "unexpected char ".toList ++ Text.quoted [c] ++ " at ".toList ++ Text.ofNat offset
  | badIdentifier => "Invalid character in identifier".toList
  | badEscape e => e.message
  | openRaw => "Missing end of raw directive".toList
  | digitLimit count =>
    "Exceeds the limit (4300 digits) for integer string conversion: value has ".toList ++
      Text.ofNat count ++ " digits; use sys.set_int_max_str_digits() to increase the limit".toList

/-- What the user is told about a fault of a template. -/
def report : SyntaxFault → Text
  | digitLimit count => (digitLimit count).message
  | e => "Invalid file marker template: ".toList ++ e.message

end SyntaxFault

/-- A token of an expression. -/
inductive Token where
  | name (n : Text)
  | string (t : Text)
  | integer (n : Nat)
  | sign (s : Text)
  /-- The closing braces. -/
  | close
  /-- The end of the template. -/
  | finish
  /-- No token can be read here. -/
  | fault (e : SyntaxFault)
  deriving DecidableEq, Repr

/-- What a token is called in a message. -/
def Token.describe : Token → Text
  | name n => n
  | string _ => "string".toList
  | integer _ => "integer".toList
  | sign s => s
  | close => "end of print statement".toList
  | finish => "end of template".toList
  | fault e => e.message

/-- The signs, with those that start with another one before it. -/
def signs : List Text :=
  ["//", "**", "==", "!=", ">=", "<=", "+", "-", "/", "*", "%", "~", "[", "]", "(", ")", "\x7b",
    "\x7d", ">", "<", "=", ".", ":", "|", ",", ";"].map String.toList

/-- The bracket that closes an opening bracket. -/
def closing? : Char → Option Char
  | '(' => some ')'
  | '[' => some ']'
  | '\x7b' => some '\x7d'
  | _ => none

/-- Cuts the inside of a string from what follows its closing quote; a backslash takes the next
character with it. -/
def splitString (quote : Char) : Text → Option (Text × Text)
  | [] => none
  | '\\' :: c :: t => (splitString quote t).map fun r => ('\\' :: c :: r.1, r.2)
  | c :: t =>
    if c = quote then some ([], t)
    else if c = '\\' then none
    else (splitString quote t).map fun r => (c :: r.1, r.2)

/-- The digits that continue a number; an underscore may stand before each. -/
def digitRun (accept : Char → Bool) : Text → Text
  | '_' :: c :: t => if accept c then '_' :: c :: digitRun accept t else []
  | c :: t => if accept c then c :: digitRun accept t else []
  | [] => []

/-- The letters that give the base of a number after a zero, with the base. -/
def baseLetters : List (Char × Nat) := [('b', 2), ('o', 8), ('x', 16)]

/-- The value of a digit in any base up to sixteen; decimal digits may be of any script if the base
has all of them. -/
def digitIn? (base : Nat) (c : Char) : Option Nat :=
  if base = 16 then (digitValue? c).or (hexValue? [c])
  else if c.isDigit && c.toNat - 48 < base then some (c.toNat - 48)
  else none

/-- The number in another base at the start of `t`, after a zero: its value and its length. -/
def baseNumber? (t : Text) : Option (Nat × Nat) :=
  match t with
  | [] => none
  | c :: t => do
    let base ← baseLetters.lookup c.toLower
    let digits := digitRun (fun d => (digitIn? base d).isSome) t
    if digits.isEmpty then none
    let n := (digits.filter (· ≠ '_')).foldl (fun n d => base * n + (digitIn? base d).getD 0) 0
    return (n, digits.length + 1)

/-- The number that starts with the digit `c`, and how many characters of `t` belong to it. -/
def number (c : Char) (t : Text) : Token × Nat :=
  match if c = '0' then baseNumber? t else none with
  | some (n, length) => (.integer n, length)
  | none =>
    let rest := digitRun (fun d => if c = '0' then d = '0' else isDigit d) t
    let digits := c :: rest.filter (· ≠ '_')
    if 4300 < digits.length then (.fault (.digitLimit digits.length), rest.length)
    else (.integer (digitsValue digits), rest.length)

/-- The token that starts with `c`, how many characters of `t` belong to it, and the brackets
that are open after it, the innermost first. `offset` is the place of `c` in the template. -/
def tokenAt (offset : Nat) (opened : List Char) (c : Char) (t : Text) :
    Token × Nat × List Char :=
  if opened.isEmpty && "-\x7d\x7d".toList.isPrefixOf (c :: t) then
    (.close, 2 + ((t.drop 2).takeWhile isBlank).length, opened)
  else if opened.isEmpty && "\x7d\x7d".toList.isPrefixOf (c :: t) then (.close, 1, opened)
  else if c.isDigit then
    let r := number c t
    (r.1, r.2, opened)
  else if isNameChar c then
    let rest := t.takeWhile isNameChar
    (if isIdentifier (c :: rest) then .name (c :: rest) else .fault .badIdentifier, rest.length,
      opened)
  else if c = '"' || c = '\'' then
    match splitString c t with
    | some (body, _) =>
      (match unescape body with
        | .ok text => .string text
        | .error e => .fault (.badEscape e), body.length + 1, opened)
    | none => (.fault (.strayChar c offset), 0, opened)
  else
    match signs.find? (·.isPrefixOf (c :: t)) with
    | none => (.fault (.strayChar c offset), 0, opened)
    | some s =>
      match closing? c with
      | some d => (.sign s, s.length - 1, d :: opened)
      | none =>
        if c = ')' || c = ']' || c = '\x7d' then
          match opened with
          | [] => (.fault (.unexpected s), 0, opened)
          | d :: opened =>
            if d = c then (.sign s, s.length - 1, opened)
            else (.fault (.mismatched s [d]), 0, opened)
        else (.sign s, s.length - 1, opened)

/-- The tokens of `t`, the rest of a template of `size` characters, up to the first one that ends
the expression, and what follows it. -/
def tokensFrom (size : Nat) (opened : List Char) (t : Text) : List Token × Text :=
  match t with
  | [] => ([.finish], [])
  | c :: t =>
    if isBlank c then tokensFrom size opened t
    else
      match tokenAt (size - (t.length + 1)) opened c t with
      | (.close, more, _) => ([.close], t.drop more)
      | (.fault e, more, _) => ([.fault e], t.drop more)
      | (token, more, opened) =>
        let r := tokensFrom size opened (t.drop more)
        (token :: r.1, r.2)
termination_by t.length
decreasing_by all_goals simp only [List.length_cons, List.length_drop]; omega

theorem length_tokensFrom_le (size : Nat) (opened : List Char) (t : Text) :
    (tokensFrom size opened t).2.length ≤ t.length := by
  fun_induction tokensFrom size opened t with
  | case1 => simp
  | case2 opened c t _ ih => simp only [List.length_cons]; omega
  | case3 => simp only [List.length_cons, List.length_drop]; omega
  | case4 => simp only [List.length_cons, List.length_drop]; omega
  | case5 opened c t _ token more opened' _ _ _ r ih =>
    simp only [List.length_drop, List.length_cons, r] at ih ⊢
    omega

end Flattener.Marker
