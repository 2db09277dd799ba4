import Flattener.Text.Basic

/-!
# Lexemes

A source text is cut into lexemes: comments, string literals, and single characters of code.
Nothing is lost in the cut, so a text can be read off its lexemes in two ways: as it was
written (`Lexeme.text`), and *masked* (`Lexeme.masked`), where comments are spaces and the
insides of literals are underscores. Both readings have the same length, so a place found in
the masked text is a place in the source.

* `scan` cuts a text, or says which comment or literal never closes.
* `mask` is the masked reading of a text.
-/

namespace Flattener

/-- A piece of source text. -/
inductive Lexeme where
  /-- One character outside comments and literals. -/
  | code (c : Char)
  /-- A comment from `//` up to the end of its line, which is not part of it. -/
  | lineComment (body : Text)
  /-- A comment between `/*` and `*/`. -/
  | blockComment (body : Text)
  /-- A string literal; `body` is what stands between the quotes. -/
  | literal (quote : Char) (body : Text)
  deriving DecidableEq, Repr

namespace Lexeme

/-- The lexeme as written. -/
def text : Lexeme → Text
  | code c => [c]
  | lineComment body => '/' :: '/' :: body
  | blockComment body => '/' :: '*' :: (body ++ ['*', '/'])
  | literal quote body => quote :: (body ++ [quote])

/-- The lexeme with comments blanked out, line feeds of block comments apart, and the inside of
a literal hidden. -/
def masked : Lexeme → Text
  | code c => [c]
  | lineComment body => ' ' :: ' ' :: body.map fun _ => ' '
  | blockComment body =>
    ' ' :: ' ' :: ((body.map fun c => if c = '\n' then '\n' else ' ') ++ [' ', ' '])
  | literal quote body => quote :: ((body.map fun _ => '_') ++ [quote])

@[simp]
theorem length_masked (l : Lexeme) : l.masked.length = l.text.length := by
  cases l <;> simp [masked, text]

end Lexeme

/-- What can be left open at the end of a source text. -/
inductive Opening where
  | blockComment
  | literal
  deriving DecidableEq, Repr

/-- A comment or literal that never closes, and where it starts. -/
structure Unclosed where
  opening : Opening
  offset : Nat
  deriving DecidableEq, Repr

/-- Whether the character starts and ends a string literal. -/
def isQuote (c : Char) : Bool := c == '"' || c == '\''

/-- Cuts the inside of a block comment from what follows its end. -/
def splitBlockComment : Text → Option (Text × Text)
  | [] => none
  | '*' :: '/' :: t => some ([], t)
  | c :: t => (splitBlockComment t).map fun r => (c :: r.1, r.2)

/-- Cuts the inside of a literal from what follows its closing quote. A backslash takes the next
character with it, whatever it is; a line feed that is not taken leaves the literal open. -/
def splitLiteral (quote : Char) : Text → Option (Text × Text)
  | [] => none
  | '\\' :: c :: t => (splitLiteral quote t).map fun r => ('\\' :: c :: r.1, r.2)
  | c :: t =>
    if c = quote then some ([], t)
    else if c = '\n' || c = '\\' then none
    else (splitLiteral quote t).map fun r => (c :: r.1, r.2)

/-- A block comment that closes is its inside, its end, and what follows. -/
theorem eq_of_splitBlockComment {t : Text} {r : Text × Text} (h : splitBlockComment t = some r) :
    t = r.1 ++ '*' :: '/' :: r.2 := by
  fun_induction splitBlockComment t generalizing r with
  | case1 => simp at h
  | case2 t => cases h; rfl
  | case3 c t _ ih =>
    obtain ⟨u, hu, rfl⟩ := Option.map_eq_some_iff.1 h
    exact congrArg (c :: ·) (ih hu)

/-- A literal that closes is its inside, its quote, and what follows. -/
theorem eq_of_splitLiteral {quote : Char} {t : Text} {r : Text × Text}
    (h : splitLiteral quote t = some r) : t = r.1 ++ quote :: r.2 := by
  fun_induction splitLiteral quote t generalizing r with
  | case1 => simp at h
  | case2 c t ih =>
    obtain ⟨u, hu, rfl⟩ := Option.map_eq_some_iff.1 h
    exact congrArg ('\\' :: c :: ·) (ih hu)
  | case3 t => cases h; rfl
  | case4 => simp at h
  | case5 c t _ _ _ ih =>
    obtain ⟨u, hu, rfl⟩ := Option.map_eq_some_iff.1 h
    exact congrArg (c :: ·) (ih hu)

/-- Cuts a text that starts at `offset` of the source into lexemes. -/
def scanFrom (offset : Nat) (t : Text) : Except Unclosed (List Lexeme) :=
  match t with
  | [] => .ok []
  | '/' :: '/' :: t =>
    let body := t.takeWhile (· ≠ '\n')
    (scanFrom (offset + 2 + body.length) (t.dropWhile (· ≠ '\n'))).map (.lineComment body :: ·)
  | '/' :: '*' :: t =>
    match h : splitBlockComment t with
    | none => .error ⟨.blockComment, offset⟩
    | some (body, rest) =>
      (scanFrom (offset + 4 + body.length) rest).map (.blockComment body :: ·)
  | c :: t =>
    if isQuote c then
      match h : splitLiteral c t with
      | none => .error ⟨.literal, offset⟩
      | some (body, rest) =>
        (scanFrom (offset + 2 + body.length) rest).map (.literal c body :: ·)
    else (scanFrom (offset + 1) t).map (.code c :: ·)
termination_by t.length
decreasing_by
  all_goals simp only [List.length_cons]
  · have := (List.dropWhile_suffix (l := t) (· ≠ '\n')).length_le
    omega
  · have := congrArg List.length (eq_of_splitBlockComment h)
    simp only [List.length_append, List.length_cons] at this
    omega
  · have := congrArg List.length (eq_of_splitLiteral h)
    simp only [List.length_append, List.length_cons] at this
    omega
  · omega

/-- Nothing is lost in the cut. -/
theorem flatMap_text_of_scanFrom {offset : Nat} {t : Text} {ls : List Lexeme}
    (h : scanFrom offset t = .ok ls) : ls.flatMap Lexeme.text = t := by
  fun_induction scanFrom offset t generalizing ls with
  | case1 => cases h; rfl
  | case2 offset t =>
    rename_i ih
    cases hs : scanFrom (offset + 2 + (t.takeWhile (· ≠ '\n')).length)
        (t.dropWhile (· ≠ '\n')) with
    | error e => rw [hs] at h; cases h
    | ok later =>
      rw [hs] at h
      cases h
      rw [List.flatMap_cons, ih hs]
      exact congrArg ('/' :: '/' :: ·) List.takeWhile_append_dropWhile
  | case3 => cases h
  | case4 offset t body rest hb ih =>
    cases hs : scanFrom (offset + 4 + body.length) rest with
    | error e => rw [hs] at h; cases h
    | ok later =>
      rw [hs] at h
      cases h
      rw [List.flatMap_cons, ih hs, eq_of_splitBlockComment hb]
      simp [Lexeme.text]
  | case5 => cases h
  | case6 offset c t _ _ _ body rest hl ih =>
    cases hs : scanFrom (offset + 2 + body.length) rest with
    | error e => rw [hs] at h; cases h
    | ok later =>
      rw [hs] at h
      cases h
      rw [List.flatMap_cons, ih hs, eq_of_splitLiteral hl]
      simp [Lexeme.text]
  | case7 offset c t _ _ _ ih =>
    cases hs : scanFrom (offset + 1) t with
    | error e => rw [hs] at h; cases h
    | ok later =>
      rw [hs] at h
      cases h
      rw [List.flatMap_cons, ih hs]
      rfl

/-- Cuts a source text into lexemes. -/
def scan (t : Text) : Except Unclosed (List Lexeme) := scanFrom 0 t

/-- The source text with comments blanked out and the insides of literals hidden. -/
def mask (t : Text) : Except Unclosed Text := (scan t).map (·.flatMap Lexeme.masked)

/-- Masking keeps every character in its place. -/
theorem length_of_mask {t m : Text} (h : mask t = .ok m) : m.length = t.length := by
  unfold mask at h
  cases hs : scan t with
  | error e => rw [hs] at h; cases h
  | ok ls =>
    rw [hs] at h
    cases h
    rw [← flatMap_text_of_scanFrom hs]
    simp [List.length_flatMap]

end Flattener
