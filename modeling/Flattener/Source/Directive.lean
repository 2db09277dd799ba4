import Flattener.Source.Lexeme
import Flattener.Source.Statement

/-!
# Directives

A *directive* is an import statement or a declaration of the language version. Directives are
found in the masked text, so that one inside a comment or a literal does not count: a directive
starts at a keyword that no other word character touches and ends with the next semicolon.

* `Directive.findAll` lists the directives of a source in order.
* `Directive.imports` and `Directive.versions` are the import specifiers and the version
  declarations of a source.
* `SyntaxError` says why a source has no directives.
-/

namespace Flattener

/-- Why the directives of a source cannot be found, and on which line. -/
structure SyntaxError where
  summary : Text
  line : Option Nat
  deriving DecidableEq, Repr

namespace SyntaxError

/-- The summary with the line that it speaks of. -/
def located (summary line : Text) : Text := summary ++ " (line ".toList ++ line ++ [')']

/-- The summary, and the line when it is known. -/
def message (e : SyntaxError) : Text :=
  match e.line with
  | none => e.summary
  | some n => located e.summary (Text.ofNat n)

end SyntaxError

/-- The line of the character at `offset`, counted from one. -/
def lineAt (source : Text) (offset : Nat) : Nat := Text.lineFeeds (source.take offset) + 1

/-- What is said about a comment or literal that never closes. -/
def Opening.summary : Opening → Text
  | blockComment => "Unterminated block comment".toList
  | literal => "Unterminated string literal".toList

/-- An unclosed comment or literal as a fault of the source that holds it. -/
def Unclosed.toSyntaxError (source : Text) (u : Unclosed) : SyntaxError :=
  ⟨u.opening.summary, some (lineAt source u.offset)⟩

/-- The words that start a directive. -/
inductive Keyword where
  | imports
  | pragma
  deriving DecidableEq, Repr

namespace Keyword

/-- The keyword as written. -/
def text : Keyword → Text
  | imports => "import".toList
  | pragma => "pragma".toList

/-- The rest of a text after the keyword, when no word character follows it. -/
def after? (k : Keyword) (t : Text) : Option Text :=
  (Text.dropPrefix? k.text t).filter fun rest => !rest.head?.any isWordChar

/-- The keyword that a text starts with, and the rest. -/
def start? (t : Text) : Option (Keyword × Text) :=
  ((imports.after? t).map (imports, ·)).or ((pragma.after? t).map (pragma, ·))

/-- The first keyword of a text: what stands before it, the keyword, and the rest. `touched` says
whether a word character stands right before the text. -/
def next? (touched : Bool) : Text → Option (Text × Keyword × Text)
  | [] => none
  | c :: t =>
    match if touched then none else start? (c :: t) with
    | some (k, rest) => some ([], k, rest)
    | none => (next? (isWordChar c) t).map fun r => (c :: r.1, r.2)

theorem length_lt_of_after? {k : Keyword} {t rest : Text} (h : k.after? t = some rest) :
    rest.length < t.length := by
  obtain ⟨h, -⟩ := Option.filter_eq_some_iff.1 h
  unfold Text.dropPrefix? at h
  split at h
  · rename_i hp
    obtain ⟨u, rfl⟩ := List.isPrefixOf_iff_prefix.1 hp
    cases h
    have hk : 0 < k.text.length := by cases k <;> decide
    simp only [List.drop_left, List.length_append]
    omega
  · simp at h

theorem length_lt_of_next? {touched : Bool} {t skipped rest : Text} {k : Keyword}
    (h : next? touched t = some (skipped, k, rest)) : rest.length < t.length := by
  induction t generalizing touched skipped with
  | nil => simp [next?] at h
  | cons c t ih =>
    rw [next?] at h
    split at h
    · rename_i k' rest' heq
      cases h
      split at heq
      · simp at heq
      · rcases Option.or_eq_some_iff.1 heq with h | ⟨-, h⟩ <;>
        · obtain ⟨r, hr, he⟩ := Option.map_eq_some_iff.1 h
          cases he
          exact length_lt_of_after? hr
    · obtain ⟨⟨_, _, _⟩, hr, he⟩ := Option.map_eq_some_iff.1 h
      cases he
      have := ih hr
      simp only [List.length_cons]
      omega

end Keyword

/-- What a directive is for. -/
inductive DirectiveKind where
  | imports
  | version
  deriving DecidableEq, Repr

/-- A directive of a source: its specifier or version declaration, the offsets of its first
character and of the one after its semicolon, and its line. -/
structure Directive where
  kind : DirectiveKind
  value : Text
  start : Nat
  stop : Nat
  line : Nat
  deriving DecidableEq, Repr

namespace Directive

/-- The specifier of an import statement. Both texts are what stands between the keyword and the
semicolon: as written, and masked. -/
def specifier (written masked : Text) : Except Text Text :=
  match Statement.pathSpan masked with
  | some (start, length) =>
    match (written.drop start).take length with
    | [] => .error "Empty import path".toList
    | path => .ok path
  | none =>
    .error ("Malformed import directive: import ".toList ++ Text.squeeze written ++ [';'])

/-- The version declaration of a masked pragma, when it is about the language version. -/
def declaration? (masked : Text) : Option Text :=
  match Text.dropPrefix? "solidity".toList (Text.trimLeft masked) with
  | some rest => if rest.head?.any isWordChar then none else some (Text.squeeze rest)
  | none => none

/-- What follows a statement is shorter than the text in which it was found. -/
theorem length_lt_of_statement {masked skipped rest later : Text} {k : Keyword} {c : Char}
    (h : Keyword.next? false masked = some (skipped, k, rest))
    (h' : rest.dropWhile (· ≠ ';') = c :: later) : later.length < masked.length := by
  have hn := Keyword.length_lt_of_next? h
  have hs := (List.dropWhile_suffix (l := rest) (· ≠ ';')).length_le
  rw [h'] at hs
  simp only [List.length_cons] at hs
  omega

set_option linter.unusedVariables false in
/-- The directives of `source` from `offset` on, where `masked` is the masked text from there. -/
def findFrom (source : Text) (offset : Nat) (masked : Text) : Except SyntaxError (List Directive) :=
  match h : Keyword.next? false masked with
  | none => .ok []
  | some (skipped, keyword, rest) =>
    let start := offset + skipped.length
    let bodyStart := start + keyword.text.length
    let line := lineAt source start
    let body := rest.takeWhile (· ≠ ';')
    match h' : rest.dropWhile (· ≠ ';') with
    | [] =>
      .error ⟨"Unterminated ".toList ++ keyword.text ++ " directive".toList, some line⟩
    | _ :: later =>
      let stop := bodyStart + body.length + 1
      match keyword with
      | .imports =>
        match specifier ((source.drop bodyStart).take body.length) body with
        | .error summary => .error ⟨summary, some line⟩
        | .ok path => (findFrom source stop later).map (⟨.imports, path, start, stop, line⟩ :: ·)
      | .pragma =>
        match declaration? body with
        | some value => (findFrom source stop later).map (⟨.version, value, start, stop, line⟩ :: ·)
        | none => findFrom source stop later
termination_by masked.length
decreasing_by
  · exact length_lt_of_statement h h'
  · exact length_lt_of_statement h h'
  · exact length_lt_of_statement h h'

/-- The directives of a source, in order. -/
def findAll (source : Text) : Except SyntaxError (List Directive) :=
  match mask source with
  | .error u => .error (u.toSyntaxError source)
  | .ok masked => findFrom source 0 masked

/-- The values of the directives of one kind. -/
def valuesOf (kind : DirectiveKind) (ds : List Directive) : List Text :=
  (ds.filter (·.kind = kind)).map value

/-- The import specifiers of a source, in order. -/
def imports (source : Text) : Except SyntaxError (List Text) :=
  (findAll source).map (valuesOf .imports)

/-- The version declarations of a source, in order. -/
def versions (source : Text) : Except SyntaxError (List Text) :=
  (findAll source).map (valuesOf .version)

end Directive

end Flattener
