import Flattener.Text.Basic

/-!
# The console

What a command prints goes to a console, which may show something else than it was given: one that
is no terminal is spared the escape sequences that change the colors of a terminal. A console whose
encoding has no bytes for a text shows nothing and says why.

* `Console.terminal` shows every text as it is.
* `Console.piped` leaves out the escape sequences.
-/

namespace Flattener

/-- A console: what it shows of a text, or what is wrong with the text. -/
abbrev Console := Text → Except Text Text

namespace Console

/-- Whether a character may stand among the parameters of an escape sequence. -/
def isParameter (c : Char) : Bool := c = ';' || c = '?' || c.isDigit

/-- The length of the escape sequence that a text starts with: an escape, a bracket, parameters and
a letter. It is zero if there is none. -/
def sequenceLength : Text → Nat
  | '\x1b' :: '[' :: t =>
    let parameters := t.takeWhile isParameter
    match t.drop parameters.length with
    | c :: _ => if c.isAlpha then parameters.length + 3 else 0
    | [] => 0
  | _ => 0

/-- The text without its escape sequences, after `skip` characters that belong to one. -/
def plainFrom (skip : Nat) : Text → Text
  | [] => []
  | c :: t =>
    if 0 < skip then plainFrom (skip - 1) t
    else
      match sequenceLength (c :: t) with
      | 0 => c :: plainFrom 0 t
      | n + 1 => plainFrom n t

/-- A console that shows texts as they are. -/
def terminal : Console := .ok

/-- A console that is no terminal. -/
def piped : Console := fun t => .ok (plainFrom 0 t)

/-- Shows texts one after the other, each with a line feed, up to the first with which something is
wrong. -/
def showLines (console : Console) : List Text → Text × Option Text
  | [] => ([], none)
  | t :: ts =>
    match console (t ++ ['\n']) with
    | .error message => ([], some message)
    | .ok shown =>
      let (rest, message) := console.showLines ts
      (shown ++ rest, message)

end Console

end Flattener
