import Flattener.Proofs.Keywords

/-!
# How import statements are written

Sources are written here the other way round: from statements and other text to characters. A
statement has one of four forms, and between its words there is room for blanks and comments; a
*gap* may be empty, a *space* is a gap that is not. Everything else in a source stands in *chunks*,
which hold no keyword outside comments and literals.

Each part is a row of lexemes, from which both the text (`Document.text`) and the masked text are
read off. The types allow only what is well formed: a comment that closes, a name that is an
identifier, a path without quotes and line feeds. So every part is cut into its own lexemes whatever
follows it, and shows no semicolon (`Lexeme.Row`); this is `Clause.row`.
-/

namespace Flattener

/-! ### Whole words -/

/-- No quotation mark is part of a word. -/
theorem isWordChar_of_isQuote {c : Char} (h : isQuote c) : isWordChar c = false := by
  have hcases : c = '"' ∨ c = '\'' := by simpa [isQuote] using h
  rcases hcases with rfl | rfl <;> decide

/-- The word stands in the text, and no word character touches it. -/
def Text.HasWord (w t : Text) : Prop :=
  ∃ u v, t = u ++ (w ++ v) ∧ (∀ c ∈ u.getLast?, isWordChar c = false) ∧
    ∀ c ∈ v.head?, isWordChar c = false

/-- The search for keywords finds none in a text without these words, and only then. -/
theorem Keyword.next?_eq_none_iff {t : Text} :
    next? false t = none ↔ ∀ k : Keyword, ¬ Text.HasWord k.text t := by
  constructor
  · rintro h k ⟨u, v, rfl, hu, hv⟩
    have hk : next? false (k.text ++ v) = some ([], k, v) :=
      @next?_statement [] v k rfl (by simp) hv
    rw [next?_append (fun x hx y _ hw => by simp [hu x hx] at hw) (by simp), hk] at h
    simp at h
  · intro h
    rw [Option.eq_none_iff_forall_ne_some]
    rintro ⟨skipped, k, rest⟩ hn
    exact h k ⟨skipped, rest, eq_of_next? hn⟩

/-! ### Rows of lexemes that close -/

namespace Lexeme

/-- The lexemes are a cut, whatever follows them, and show none of the given marks. -/
structure Row (marks : Text) (ls : List Lexeme) : Prop where
  cut : ∀ t, Cut ls t
  shows : ∀ c ∈ ls.flatMap masked, c ∉ marks

namespace Row

variable {marks : Text} {ls ks : List Lexeme}

theorem nil (marks : Text) : Row marks [] := ⟨fun _ => trivial, by simp⟩

/-- Two rows one after the other are a row. -/
theorem append (h : Row marks ls) (h' : Row marks ks) : Row marks (ls ++ ks) := by
  refine ⟨fun t => cut_append.2 ⟨h.cut _, h'.cut t⟩, fun c hc => ?_⟩
  rw [List.flatMap_append, List.mem_append] at hc
  exact hc.elim (h.shows c) (h'.shows c)

theorem flatMap {α : Type} {f : α → List Lexeme} (h : ∀ a, Row marks (f a)) (as : List α) :
    Row marks (as.flatMap f) := by
  induction as with
  | nil => exact nil marks
  | cons a as ih => exact (h a).append ih

/-- What has none of some marks has none of fewer. -/
theorem mono {marks' : Text} (h : Row marks ls) (hm : marks' ⊆ marks) : Row marks' ls :=
  ⟨h.cut, fun c hc hc' => h.shows c hc (hm hc')⟩

/-- Characters that are neither slashes nor quotes are a row. -/
theorem map_code {p : Text} (h : ∀ c ∈ p, c ∉ '/' :: '"' :: '\'' :: marks) :
    Row marks (p.map code) := by
  simp only [List.mem_cons, not_or] at h
  refine ⟨cut_map_code fun c hc => ⟨(h c hc).1, ?_⟩, fun c hc => ?_⟩
  · simp [isQuote, (h c hc).2.1, (h c hc).2.2.1]
  · rw [flatMap_masked_map_code] at hc
    exact (h c hc).2.2.2

/-- A character that starts no comment, opens no literal and is no mark is a row. -/
theorem code {m : Char} (h : m ∉ '/' :: '"' :: '\'' :: marks) : Row marks [code m] :=
  map_code (p := [m]) (by simpa using h)

/-- A row that shows blanks only. -/
theorem of_blank (hcut : ∀ t, Cut ls t) (hb : Text.blank (ls.flatMap masked))
    (hm : marks.all (!isBlank ·)) : Row marks ls := by
  refine ⟨hcut, fun c hc hmark => ?_⟩
  have hblank := List.all_eq_true.1 hb c hc
  have hnot := List.all_eq_true.1 hm c hmark
  rw [hblank] at hnot
  cases hnot

end Row

end Lexeme

/-! ### Gaps -/

namespace Grammar

/-- What may stand between two words: a blank, a comment that closes, or a comment up to the end of
its line. -/
inductive Filler where
  | blank (c : Char) (h : isBlank c)
  | block (body : Text) (h : ¬ ['*', '/'] <:+: body)
  | line (body : Text) (h : '\n' ∉ body)

/-- The lexemes of a filler. -/
def Filler.lexemes : Filler → List Lexeme
  | blank c _ => [.code c]
  | block body _ => [.blockComment body]
  | line body _ => [.lineComment body, .code '\n']

/-- Blanks and comments between two words, possibly none. -/
abbrev Gap := List Filler

/-- The lexemes of a gap. -/
def Gap.lexemes (g : Gap) : List Lexeme := g.flatMap Filler.lexemes

/-- The masked text of a gap. -/
def Gap.masked (g : Gap) : Text := g.lexemes.flatMap Lexeme.masked

/-- A gap that is not empty. -/
structure Space where
  gap : Gap
  gap_ne_nil : gap ≠ []

/-- A comment without the mark for its end inside ends there and not before. -/
theorem splitBlockComment_whole {body : Text} (h : ¬ ['*', '/'] <:+: body) :
    splitBlockComment (body ++ ['*', '/']) = some (body, []) := by
  induction body with
  | nil => rfl
  | cons c body ih =>
    rw [List.cons_append, splitBlockComment_cons, ih fun hi => h (List.infix_cons hi)]
    · rfl
    · rintro rfl hs
      cases body with
      | nil => simp at hs
      | cons d body =>
        obtain rfl : d = '/' := by simpa using hs
        exact h ⟨[], body, rfl⟩

/-- A filler is cut into its lexemes, whatever follows it. -/
theorem Filler.cut (f : Filler) (t : Text) : Lexeme.Cut f.lexemes t := by
  cases f with
  | blank c h => exact Lexeme.cut_map_code_of_blank (p := [c]) (by simpa [Text.blank] using h) t
  | block body h => exact ⟨splitBlockComment_whole h, trivial, trivial⟩
  | line body h => exact ⟨h, Lexeme.endsBefore_lineFeed _ _, Lexeme.cut_lineFeed _⟩

/-- Fillers are blank once they are masked. -/
theorem Filler.blank_masked (f : Filler) : Text.blank (f.lexemes.flatMap Lexeme.masked) := by
  cases f with
  | blank c h => simpa [Text.blank, lexemes, Lexeme.masked] using h
  | block body h => simpa [lexemes] using Lexeme.blank_masked_blockComment body
  | line body h =>
    have hfeed : isBlank '\n' = true := by decide
    have hline := Lexeme.blank_masked_lineComment body
    rw [Text.blank] at hline
    rw [lexemes, List.flatMap_cons, Text.blank, List.all_append, hline]
    simpa [Lexeme.masked] using hfeed

/-- No filler vanishes when it is masked. -/
theorem Filler.masked_ne_nil (f : Filler) : f.lexemes.flatMap Lexeme.masked ≠ [] := by
  cases f <;> simp [lexemes, Lexeme.masked]

namespace Gap

theorem masked_cons (f : Filler) (g : Gap) :
    masked (f :: g) = f.lexemes.flatMap Lexeme.masked ++ masked g := by
  rw [masked, lexemes, List.flatMap_cons, List.flatMap_append]
  rfl

/-- A gap is blank once it is masked. -/
theorem blank_masked (g : Gap) : Text.blank g.masked := by
  induction g with
  | nil => rfl
  | cons f g ih =>
    rw [masked_cons, Text.blank, List.all_append, Bool.and_eq_true]
    exact ⟨f.blank_masked, ih⟩

/-- In a gap there is no semicolon and no brace outside comments. -/
theorem row (g : Gap) : Lexeme.Row [';', '{', '}'] g.lexemes := by
  refine Lexeme.Row.flatMap (fun f => ?_) g
  exact .of_blank f.cut f.blank_masked (by decide)

end Gap

/-- A space does not vanish when it is masked. -/
theorem Space.masked_ne_nil (s : Space) : s.gap.masked ≠ [] := by
  obtain ⟨g, hg⟩ := s
  cases g with
  | nil => exact absurd rfl hg
  | cons f g =>
    intro h
    rw [Gap.masked_cons] at h
    exact f.masked_ne_nil (List.append_eq_nil_iff.1 h).1

/-! ### Names and paths -/

/-- An identifier. -/
structure Name where
  first : Char
  rest : Text
  isIdentifierStart_first : Statement.isIdentifierStart first
  isIdentifierRest_rest : rest.all Statement.isIdentifierRest

/-- The identifier as written. -/
def Name.text (n : Name) : Text := n.first :: n.rest

/-- The lexemes of a word. -/
def word (w : Text) : List Lexeme := w.map .code

/-- A path between quotes. It may hold anything but line feeds, backslashes and the quote. -/
structure Quoted where
  quote : Char
  path : Text
  isQuote_quote : isQuote quote
  path_ne_nil : path ≠ []
  plain : ∀ c ∈ path, c ≠ '\\' ∧ c ≠ quote ∧ c ≠ '\n'

/-- The literal of a quoted path. -/
def Quoted.lexeme (q : Quoted) : Lexeme := .literal q.quote q.path

/-- What starts an identifier may go on with it. -/
theorem isIdentifierRest_of_isIdentifierStart {c : Char} (h : Statement.isIdentifierStart c) :
    Statement.isIdentifierRest c := by
  simp only [Statement.isIdentifierStart, Bool.or_eq_true, beq_iff_eq] at h
  rcases h with (h | rfl) | rfl
  · have hlt : c.toNat < 0x80 := by
      rcases Bool.or_eq_true_iff.1 h with hupper | hlower
      · exact Nat.lt_of_le_of_lt (of_decide_eq_true hupper).2 (by decide)
      · have hle := (Bool.and_eq_true_iff.1 hlower).2
        exact Nat.lt_of_le_of_lt (of_decide_eq_true hle) (by decide)
    have hword : isWordChar c = true := by simp [isWordChar, hlt, Char.isAlphanum, h]
    simp [Statement.isIdentifierRest, hword]
  · decide
  · decide

/-- A word is a row: it has no comments, no literals and no marks. -/
theorem row_word {w : Text} (h : w.all Statement.isIdentifierRest) :
    Lexeme.Row [';', '{', '}'] (word w) := by
  have hmarks : ['/', '"', '\'', ';', '{', '}'].all (!Statement.isIdentifierRest ·) := by decide
  refine .map_code fun c hc hmem => ?_
  have hrest := List.all_eq_true.1 h c hc
  have hnot := List.all_eq_true.1 hmarks c hmem
  rw [hrest] at hnot
  cases hnot

/-- A text without backslashes, line feeds and the quotation mark can stand in a literal. -/
theorem inside_of_forall {quote : Char} {t : Text}
    (h : ∀ c ∈ t, c ≠ '\\' ∧ c ≠ quote ∧ c ≠ '\n') : Inside quote t := by
  induction t with
  | nil => exact .nil
  | cons c t ih =>
    obtain ⟨hb, hq, hn⟩ := h c List.mem_cons_self
    exact .plain hb hq hn (ih fun d hd => h d (List.mem_cons_of_mem c hd))

/-- A quoted path is a literal that is closed. -/
theorem Quoted.wellFormed (q : Quoted) : q.lexeme.WellFormed :=
  ⟨q.isQuote_quote, inside_of_forall q.plain⟩

/-- No mark stands outside the literal of a quoted path. -/
theorem Quoted.row (q : Quoted) : Lexeme.Row [';', '{', '}'] [q.lexeme] := by
  refine ⟨fun t => ⟨q.wellFormed, trivial, trivial⟩, fun c hc hmark => ?_⟩
  have hall : [';', '{', '}'].all Lexeme.seen := by decide
  have hseen := List.all_eq_true.1 hall c hmark
  have hcode := Lexeme.eq_code_of_mem_masked q.wellFormed hseen (by simpa using hc)
  cases hcode

/-! ### Statements -/

/-- A symbol in a list, possibly with another name, and the gaps around it. -/
structure Symbol where
  before : Gap
  name : Name
  renamed : Option (Space × Space × Name)
  after : Gap

/-- The lexemes of a symbol. -/
def Symbol.lexemes (s : Symbol) : List Lexeme :=
  s.before.lexemes ++ word s.name.text ++
    (match s.renamed with
    | none => []
    | some (s₁, s₂, n) => s₁.gap.lexemes ++ word "as".toList ++ s₂.gap.lexemes ++ word n.text) ++
    s.after.lexemes

/-- The lexemes of symbols with commas between them. -/
def symbolLexemes : List Symbol → List Lexeme
  | [] => []
  | [s] => s.lexemes
  | s :: symbols => s.lexemes ++ .code ',' :: symbolLexemes symbols

/-- What stands between the keyword and the semicolon of an import statement, in the order in which
it is written. -/
inductive Clause where
  /-- `import "path";` -/
  | bare (g : Gap) (path : Quoted) (g' : Gap)
  /-- `import "path" as Alias;` -/
  | renamed (g : Gap) (path : Quoted) (g₁ : Gap) (s : Space) (a : Name) (g' : Gap)
  /-- `import * as Alias from "path";` -/
  | wildcard (g g₁ : Gap) (s₁ : Space) (a : Name) (s₂ s₃ : Space) (path : Quoted) (g' : Gap)
  /-- `import {A, B as C} from "path";` -/
  | selected (g : Gap) (symbols : List Symbol) (g₁ : Gap) (s : Space) (path : Quoted) (g' : Gap)

namespace Clause

/-- The path of a clause. -/
def path : Clause → Quoted
  | bare _ p _ | renamed _ p _ _ _ _ | wildcard _ _ _ _ _ _ p _ | selected _ _ _ _ p _ => p

/-- What stands before the path. -/
def front : Clause → List Lexeme
  | bare g _ _ | renamed g _ _ _ _ _ => g.lexemes
  | wildcard g g₁ s₁ a s₂ s₃ _ _ =>
    g.lexemes ++ .code '*' :: (g₁.lexemes ++ word "as".toList ++ s₁.gap.lexemes ++ word a.text ++
      s₂.gap.lexemes ++ word "from".toList ++ s₃.gap.lexemes)
  | selected g symbols g₁ s _ _ =>
    g.lexemes ++ .code '{' :: (symbolLexemes symbols ++ .code '}' :: (g₁.lexemes ++
      word "from".toList ++ s.gap.lexemes))

/-- What stands after the path. -/
def back : Clause → List Lexeme
  | bare _ _ g' | wildcard _ _ _ _ _ _ _ g' | selected _ _ _ _ _ g' => g'.lexemes
  | renamed _ _ g₁ s a g' =>
    g₁.lexemes ++ word "as".toList ++ s.gap.lexemes ++ word a.text ++ g'.lexemes

/-- The lexemes of a clause. -/
def lexemes (c : Clause) : List Lexeme := c.front ++ c.path.lexeme :: c.back

/-- The clause as written. -/
def text (c : Clause) : Text := c.lexemes.flatMap Lexeme.text

/-- The masked text of a clause. -/
def masked (c : Clause) : Text := c.lexemes.flatMap Lexeme.masked

end Clause

/-- All of a name may go on with an identifier. -/
theorem Name.all_text (n : Name) : n.text.all Statement.isIdentifierRest := by
  rw [text, List.all_cons, Bool.and_eq_true]
  exact ⟨isIdentifierRest_of_isIdentifierStart n.isIdentifierStart_first, n.isIdentifierRest_rest⟩

theorem row_as : Lexeme.Row [';', '{', '}'] (word "as".toList) := row_word (by decide)

theorem row_from : Lexeme.Row [';', '{', '}'] (word "from".toList) := row_word (by decide)

/-- A symbol has no mark, though it may hold comments. -/
theorem Symbol.row (s : Symbol) : Lexeme.Row [';', '{', '}'] s.lexemes := by
  obtain ⟨before, name, renamed, after⟩ := s
  refine ((before.row.append (row_word name.all_text)).append ?_).append after.row
  cases renamed with
  | none => exact .nil _
  | some r =>
    obtain ⟨s₁, s₂, n⟩ := r
    exact ((s₁.gap.row.append row_as).append s₂.gap.row).append (row_word n.all_text)

/-- Symbols with commas between them have no mark. -/
theorem row_symbolLexemes (symbols : List Symbol) :
    Lexeme.Row [';', '{', '}'] (symbolLexemes symbols) := by
  fun_induction symbolLexemes symbols with
  | case1 => exact .nil _
  | case2 s => exact s.row
  | case3 s symbols _ ih =>
    have hcomma : Lexeme.Row [';', '{', '}'] [.code ','] := .code (by decide)
    exact s.row.append (hcomma.append ih)

namespace Clause

/-- What stands before the path of a clause has no semicolon; it may have braces. -/
theorem row_front (c : Clause) : Lexeme.Row [';'] c.front := by
  have hsub : [';'] ⊆ [';', '{', '}'] := by simp
  cases c with
  | bare g _ _ => exact g.row.mono hsub
  | renamed g _ _ _ _ _ => exact g.row.mono hsub
  | wildcard g g₁ s₁ a s₂ s₃ _ _ =>
    have hstar : Lexeme.Row [';'] [.code '*'] := .code (by decide)
    refine (g.row.mono hsub).append (hstar.append (.mono ?_ hsub))
    exact (((((g₁.row.append row_as).append s₁.gap.row).append (row_word a.all_text)).append
      s₂.gap.row).append row_from).append s₃.gap.row
  | selected g symbols g₁ s _ _ =>
    have hopen : Lexeme.Row [';'] [.code '{'] := .code (by decide)
    have hclose : Lexeme.Row [';'] [.code '}'] := .code (by decide)
    have hsymbols := (row_symbolLexemes symbols).mono hsub
    refine (g.row.mono hsub).append (hopen.append (hsymbols.append (hclose.append ?_)))
    exact ((g₁.row.append row_from).append s.gap.row).mono hsub

/-- What stands behind the path of a clause has no semicolon. -/
theorem row_back (c : Clause) : Lexeme.Row [';'] c.back := by
  have hsub : [';'] ⊆ [';', '{', '}'] := by simp
  cases c with
  | bare _ _ g' => exact g'.row.mono hsub
  | renamed _ _ g₁ s a g' =>
    exact ((((g₁.row.append row_as).append s.gap.row).append (row_word a.all_text)).append
      g'.row).mono hsub
  | wildcard _ _ _ _ _ _ _ g' => exact g'.row.mono hsub
  | selected _ _ _ _ _ g' => exact g'.row.mono hsub

/-- A clause closes whatever follows it, and shows no semicolon. -/
theorem row (c : Clause) : Lexeme.Row [';'] c.lexemes :=
  c.row_front.append ((c.path.row.mono (by simp)).append c.row_back)

end Clause

/-! ### Documents -/

/-- Text beside the statements. Its comments and literals close, it ends with a blank outside of
them, such as a line break, and neither keyword stands in it as a word outside of them. -/
structure Chunk where
  lexemes : List Lexeme
  scan_text : scan (lexemes.flatMap Lexeme.text) = .ok lexemes
  ends : ∃ c, isBlank c ∧ lexemes.getLast? = some (.code c)
  noKeyword : ∀ k : Keyword, ¬ Text.HasWord k.text (lexemes.flatMap Lexeme.masked)

/-- A part of a source. -/
inductive Item where
  | statement (c : Clause)
  | chunk (c : Chunk)

namespace Item

/-- The lexemes of a part of a source. -/
def lexemes : Item → List Lexeme
  | statement c => word Keyword.imports.text ++ c.lexemes ++ [.code ';']
  | chunk c => c.lexemes

/-- The path that a part of a source imports. -/
def path? : Item → Option Text
  | statement c => some c.path.path
  | chunk _ => none

end Item

/-- A source, part by part. -/
abbrev Document := List Item

namespace Document

/-- The lexemes of a source. -/
def lexemes (d : Document) : List Lexeme := d.flatMap Item.lexemes

/-- The source as written. -/
def text (d : Document) : Text := d.lexemes.flatMap Lexeme.text

/-- The paths that a source imports, in order. -/
def paths (d : Document) : List Text := d.filterMap Item.path?

end Document

/-- A chunk is cut into its lexemes, whatever follows it. -/
theorem Chunk.cut (c : Chunk) (t : Text) : Lexeme.Cut c.lexemes t := by
  obtain ⟨b, hb, hlast⟩ := c.ends
  refine (scan_eq_ok_iff.1 c.scan_text).2.change fun l hl => ?_
  obtain rfl : Lexeme.code b = l := Option.some.inj (hlast.symm.trans hl)
  exact Lexeme.firm_code (Lexeme.ne_slash_of_isBlank hb).1 t

/-- Parts of a source are cut into lexemes one by one. -/
theorem Item.cut (i : Item) (t : Text) : Lexeme.Cut i.lexemes t := by
  cases i with
  | statement c =>
    have himport : Lexeme.Row [';'] (word Keyword.imports.text) :=
      (row_word (by decide)).mono (by simp)
    have hend : Lexeme.Row [] [.code ';'] := .code (by decide)
    exact (((himport.append c.row).mono (by simp)).append hend).cut t
  | chunk c => exact c.cut t

/-- A document is cut into the lexemes that it was put together from. -/
theorem Document.scan_text (d : Document) : scan d.text = .ok d.lexemes := by
  refine scan_eq_ok_iff.2 ⟨rfl, ?_⟩
  induction d with
  | nil => trivial
  | cons i d ih => exact Lexeme.cut_append.2 ⟨i.cut _, ih⟩

end Grammar

end Flattener
