import Flattener.Setting

/-!
# Environment variables in settings

A text of a configuration may name environment variables as `$` and braces around a name. Each
such placeholder is replaced by the value of its variable, which is taken as it is: what looks
like a placeholder in it stays. Keys are never touched.

* `Placeholder.pieces` cuts a text into literal characters and placeholders.
* `substitute` replaces the placeholders in all texts of a setting.
-/

namespace Flattener

/-- The environment: the set variables and their values. -/
abbrev Environment := List (Text × Text)

namespace Placeholder

/-- A piece of a text: a character that stands for itself, or a variable. -/
inductive Piece where
  | literal (c : Char)
  | named (name : Text)
  deriving DecidableEq, Repr

/-- The name at the start of a text up to a closing brace, and what follows the brace. A name has
at least one character. -/
def name? (t : Text) : Option (Text × Text) :=
  match t.takeWhile (· ≠ '\x7d'), t.dropWhile (· ≠ '\x7d') with
  | c :: name, _ :: rest => some (c :: name, rest)
  | _, _ => none

theorem length_lt_of_name? {t : Text} {r : Text × Text} (h : name? t = some r) :
    r.2.length < t.length := by
  unfold name? at h
  split at h
  · rename_i hd
    cases h
    have := (List.dropWhile_suffix (l := t) (· ≠ '\x7d')).length_le
    rw [hd, List.length_cons] at this
    exact this
  · simp at h

set_option linter.unusedVariables false in
/-- The pieces of a text, from left to right. -/
def pieces (t : Text) : List Piece :=
  match t with
  | [] => []
  | '$' :: '\x7b' :: t =>
    match h : name? t with
    | some (name, rest) => .named name :: pieces rest
    | none => .literal '$' :: pieces ('\x7b' :: t)
  | c :: t => .literal c :: pieces t
termination_by t.length
decreasing_by
  · have := length_lt_of_name? h
    simp only [List.length_cons] at *
    omega
  · simp
  · simp

/-- The text of a piece; the name of its variable if that is not set. -/
def Piece.expand (env : Environment) : Piece → Except Text Text
  | literal c => .ok [c]
  | named name =>
    match env.lookup name with
    | some value => .ok value
    | none => .error name

/-- The texts of the pieces, one after the other. -/
def expandAll (env : Environment) : List Piece → Except Text Text
  | [] => .ok []
  | p :: ps => do return (← p.expand env) ++ (← expandAll env ps)

/-- The text with its placeholders replaced; the first name that is not set if there is one. -/
def expand (env : Environment) (t : Text) : Except Text Text := expandAll env (pieces t)

end Placeholder

mutual

/-- The setting with the placeholders in all its texts replaced, or the first name that is not
set. -/
def substitute (env : Environment) : Setting → Except Text Setting
  | .text t => (Placeholder.expand env t).map .text
  | .list vs => (substituteList env vs).map .list
  | .object fields => (substituteFields env fields).map .object
  | .null => .ok .null
  | .bool b => .ok (.bool b)
  | .int n => .ok (.int n)
  | .real w => .ok (.real w)
  | .moment w => .ok (.moment w)

/-- The members of a list with their placeholders replaced. -/
def substituteList (env : Environment) : List Setting → Except Text (List Setting)
  | [] => .ok []
  | v :: vs => do return (← substitute env v) :: (← substituteList env vs)

/-- The fields of an object with the placeholders in their values replaced. -/
def substituteFields (env : Environment) :
    List (Setting.Key × Setting) → Except Text (List (Setting.Key × Setting))
  | [] => .ok []
  | (k, v) :: fields => do return (k, ← substitute env v) :: (← substituteFields env fields)

end

end Flattener
