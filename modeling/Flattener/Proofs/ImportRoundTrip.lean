import Flattener.Proofs.ImportForms

/-!
# Imports that are written are read

A source that is written from import statements and other text imports exactly the paths of the
statements, in order (`Grammar.Document.imports_text`).

A statement is read in its masked text, where gaps are blanks and the path is a row of underscores
between quotes. What stands around the path is one of the frames in which a path is found, whatever
the gaps are (`Grammar.Clause.frame`), and the characters of the source at the same place are the
path as it was written (`Grammar.Clause.specifier_eq`). A chunk holds no keyword, so the search goes
on after it (`Directive.Found.append_left`).
-/

namespace Flattener

/-! ### Statements -/

namespace Grammar

theorem Space.isSpace (s : Space) : Text.IsSpace s.gap.masked :=
  ⟨s.masked_ne_nil, s.gap.blank_masked⟩

namespace Clause

/-- A path is found between what stands before and after the path of a clause. -/
theorem frame (c : Clause) :
    Statement.Frame (c.front.flatMap Lexeme.masked) (c.back.flatMap Lexeme.masked) := by
  have hword : ∀ w, (word w).flatMap Lexeme.masked = w := Lexeme.flatMap_masked_map_code
  have hgap : ∀ g : Gap, g.lexemes.flatMap Lexeme.masked = g.masked := fun _ => rfl
  have hcode : ∀ m, (Lexeme.code m).masked = [m] := fun _ => rfl
  cases c with
  | bare g q g' => exact .bare g.blank_masked g'.blank_masked
  | renamed g q g₁ s a g' =>
    simp only [front, back, List.flatMap_append, hgap, hword, List.append_assoc]
    exact .renamed a g.blank_masked g₁.blank_masked s.isSpace g'.blank_masked
  | wildcard g g₁ s₁ a s₂ s₃ q g' =>
    simp only [front, back, List.flatMap_append, List.flatMap_cons, hgap, hword, hcode,
      List.append_assoc, List.singleton_append]
    exact .wildcard a g.blank_masked g₁.blank_masked s₁.isSpace s₂.isSpace s₃.isSpace
      g'.blank_masked
  | selected g ss g₁ s q g' =>
    have hfree : ∀ c ∈ (symbolLexemes ss).flatMap Lexeme.masked, c ≠ '{' ∧ c ≠ '}' := by
      intro c hc
      have hshows := (row_symbolLexemes ss).shows c hc
      simp only [List.mem_cons, not_or] at hshows
      exact ⟨hshows.2.1, hshows.2.2.1⟩
    simp only [front, back, List.flatMap_append, List.flatMap_cons, hgap, hword, hcode,
      List.append_assoc, List.singleton_append]
    exact .selected g.blank_masked hfree g₁.blank_masked s.isSpace g'.blank_masked

theorem masked_eq (c : Clause) : c.masked = c.front.flatMap Lexeme.masked ++
    c.path.quote :: ((c.path.path.map fun _ => '_') ++
      c.path.quote :: c.back.flatMap Lexeme.masked) := by
  simp [masked, lexemes, Quoted.lexeme, Lexeme.masked]

theorem text_eq (c : Clause) : c.text = c.front.flatMap Lexeme.text ++
    c.path.quote :: (c.path.path ++ c.path.quote :: c.back.flatMap Lexeme.text) := by
  simp [text, lexemes, Quoted.lexeme, Lexeme.text]

/-- The path of a clause is found where it was written. -/
theorem pathSpan_masked (c : Clause) : Statement.pathSpan c.masked =
    some ((c.front.flatMap Lexeme.text).length + 1, c.path.path.length) := by
  refine Statement.pathSpan_eq_some_iff.2 ⟨_, _, _, _, c.masked_eq, c.path.isQuote_quote, c.frame,
    ?_, ?_⟩
  · rw [Lexeme.length_flatMap_masked]
  · rw [List.length_map]

/-- What is read in a clause is its path. -/
theorem specifier_eq (c : Clause) : Directive.specifier c.text c.masked = .ok c.path.path := by
  refine Directive.specifier_eq_ok_iff.2 ⟨c.path.path_ne_nil, _, _, c.pathSpan_masked, ?_⟩
  rw [text_eq, ← List.drop_drop, List.drop_left, List.drop_one, List.tail_cons, List.take_left]

/-- After its first gap, a clause goes on with a mark. -/
theorem exists_masked_eq (c : Clause) :
    ∃ (g : Gap) (m : Char) (rest : Text),
      isWordChar m = false ∧ c.masked = g.masked ++ m :: rest := by
  have hquote := isWordChar_of_isQuote c.path.isQuote_quote
  rw [masked_eq]
  cases c with
  | bare g _ _ => exact ⟨g, _, _, hquote, rfl⟩
  | renamed g _ _ _ _ _ => exact ⟨g, _, _, hquote, rfl⟩
  | wildcard g _ _ _ _ _ _ _ =>
    rw [front, List.flatMap_append, List.append_assoc]
    exact ⟨g, '*', _, by decide, rfl⟩
  | selected g _ _ _ _ _ =>
    rw [front, List.flatMap_append, List.append_assoc]
    exact ⟨g, '{', _, by decide, rfl⟩

/-- No word goes on from the keyword into a clause. -/
theorem head?_masked_append (c : Clause) (t : Text) :
    ∀ x ∈ (c.masked ++ t).head?, isWordChar x = false := by
  obtain ⟨g, m, rest, hm, heq⟩ := c.exists_masked_eq
  intro x hx
  rw [heq, List.append_assoc] at hx
  cases hg : g.masked with
  | nil =>
    rw [hg] at hx
    obtain rfl : m = x := by simpa using hx
    exact hm
  | cons b p =>
    have hb := g.blank_masked
    rw [hg] at hx hb
    obtain rfl : b = x := by simpa using hx
    exact isWordChar_of_isBlank (List.all_eq_true.1 hb b List.mem_cons_self)

end Clause

end Grammar

/-! ### Documents -/

/-- A text without keywords before a source makes no difference to the directives in it. -/
theorem Directive.Found.append_left {source p m : Text} {offset : Nat} {ds : List Directive}
    (hn : Keyword.next? false p = none) (hl : ∀ c ∈ p.getLast?, isWordChar c = false)
    (h : Found source (offset + p.length) m ds) : Found source offset (p ++ m) ds := by
  have happ : Keyword.next? false (p ++ m) =
      (Keyword.next? false m).map fun r => (p ++ r.1, r.2) := by
    rw [Keyword.next?_append (fun x hx y _ hw => by simp [hl x hx] at hw) (by simp), hn]
    rfl
  cases h with
  | done hm => exact .done (by rw [happ, hm]; rfl)
  | @statement _ _ skipped body later k v ds hm hb hv hlater =>
    have hskip : offset + p.length + skipped.length = offset + (p ++ skipped).length := by
      rw [List.length_append, Nat.add_assoc]
    rw [hskip] at hv hlater ⊢
    exact .statement (by rw [happ, hm]; rfl) hb hv hlater

namespace Grammar

theorem Chunk.getLast?_masked (c : Chunk) :
    ∀ x ∈ (c.lexemes.flatMap Lexeme.masked).getLast?, isWordChar x = false := by
  obtain ⟨b, hb, hlast⟩ := c.ends
  obtain ⟨ls, hls⟩ := List.getLast?_eq_some_iff.1 hlast
  intro x hx
  obtain rfl : b = x := by simpa [hls, Lexeme.masked] using hx
  exact isWordChar_of_isBlank hb

namespace Document

theorem text_cons (i : Item) (d : Document) :
    text (i :: d) = i.lexemes.flatMap Lexeme.text ++ text d := by
  rw [text, lexemes, List.flatMap_cons, List.flatMap_append]
  rfl

theorem masked_cons (i : Item) (d : Document) :
    (lexemes (i :: d)).flatMap Lexeme.masked =
      i.lexemes.flatMap Lexeme.masked ++ d.lexemes.flatMap Lexeme.masked := by
  rw [lexemes, List.flatMap_cons, List.flatMap_append]
  rfl

/-- The step: a statement is found where it was written, and the search goes on after it. -/
theorem found_statement {before : Text} {c : Clause} {d : Document} {ds : List Directive}
    (h : Directive.Found (before ++ text (.statement c :: d))
      (before ++ (Item.statement c).lexemes.flatMap Lexeme.text).length
      (d.lexemes.flatMap Lexeme.masked) ds) :
    ∃ x : Directive, x.kind = .imports ∧ x.value = c.path.path ∧
      Directive.Found (before ++ text (.statement c :: d)) before.length
        ((lexemes (.statement c :: d)).flatMap Lexeme.masked) (x :: ds) := by
  have hlength : c.masked.length = c.text.length := Lexeme.length_flatMap_masked c.lexemes
  have htext : (Item.statement c).lexemes.flatMap Lexeme.text =
      Keyword.imports.text ++ (c.text ++ [';']) := by
    rw [Item.lexemes, List.flatMap_append, List.flatMap_append, word,
      Lexeme.flatMap_text_map_code, List.append_assoc]
    rfl
  have hmasked : (Item.statement c).lexemes.flatMap Lexeme.masked =
      Keyword.imports.text ++ (c.masked ++ [';']) := by
    rw [Item.lexemes, List.flatMap_append, List.flatMap_append, word,
      Lexeme.flatMap_masked_map_code, List.append_assoc]
    rfl
  have hwritten : ((before ++ text (.statement c :: d)).drop
      (before.length + 0 + Keyword.imports.text.length)).take c.masked.length = c.text := by
    rw [text_cons, htext, Nat.add_zero, ← List.drop_drop, List.drop_left, List.append_assoc,
      List.drop_left, List.append_assoc, hlength, List.take_left]
  have hreading : Directive.reading .imports (((before ++ text (.statement c :: d)).drop
      (before.length + 0 + Keyword.imports.text.length)).take c.masked.length) c.masked =
      .ok (some (.imports, c.path.path)) := by
    rw [hwritten, Directive.reading, c.specifier_eq]
    rfl
  have hnext : Keyword.next? false ((lexemes (.statement c :: d)).flatMap Lexeme.masked) =
      some ([], .imports, c.masked ++ ';' :: d.lexemes.flatMap Lexeme.masked) := by
    rw [masked_cons, hmasked, List.append_assoc, List.append_assoc]
    exact @Keyword.next?_statement [] _ .imports rfl (by simp) (c.head?_masked_append _)
  have hsemicolon : ';' ∉ c.masked := fun hmem => c.row.shows _ hmem (by simp)
  have hstop : (before ++ (Item.statement c).lexemes.flatMap Lexeme.text).length =
      before.length + 0 + Keyword.imports.text.length + c.masked.length + 1 := by
    rw [htext, hlength]
    simp only [List.length_append, List.length_cons, List.length_nil]
    omega
  rw [hstop] at h
  exact ⟨_, rfl, rfl, .statement hnext hsemicolon hreading h⟩

/-- The run: the search finds the statements of a document one after the other. -/
theorem exists_found (d : Document) (before : Text) : ∃ ds,
    Directive.Found (before ++ d.text) before.length (d.lexemes.flatMap Lexeme.masked) ds ∧
      Directive.valuesOf .imports ds = d.paths := by
  induction d generalizing before with
  | nil => exact ⟨[], .done rfl, rfl⟩
  | cons i d ih =>
    obtain ⟨ds, hfound, hvalues⟩ := ih (before ++ i.lexemes.flatMap Lexeme.text)
    rw [List.append_assoc, ← text_cons] at hfound
    cases i with
    | statement c =>
      obtain ⟨x, hkind, hvalue, hx⟩ := found_statement hfound
      refine ⟨x :: ds, hx, ?_⟩
      rw [Directive.valuesOf, List.filter_cons_of_pos (by simpa using hkind), List.map_cons, hvalue]
      exact congrArg (c.path.path :: ·) hvalues
    | chunk c =>
      refine ⟨ds, ?_, hvalues⟩
      rw [masked_cons]
      refine .append_left (Keyword.next?_eq_none_iff.2 c.noKeyword) c.getLast?_masked ?_
      rwa [List.length_append, ← Lexeme.length_flatMap_masked] at hfound

/-- A source that is written from import statements and other text imports the paths of the
statements, in order. -/
theorem imports_text (d : Document) : Directive.imports d.text = .ok d.paths := by
  obtain ⟨ds, hfound, hvalues⟩ := d.exists_found []
  have hall : Directive.findAll d.text = .ok ds :=
    Directive.findAll_eq_ok_iff.2 ⟨d.lexemes, d.scan_text, hfound⟩
  rw [Directive.imports, hall, ← hvalues]
  rfl

end Document

-- an alias that is a keyword, and a comment and a path that hold marks of statements
example :
    let space : Space := ⟨[.line ['*'] (by simp)], List.cons_ne_nil _ _⟩
    let name : Name := ⟨'a', ['s'], rfl, rfl⟩
    let path : Quoted := ⟨'\'', "a;//\"b".toList, rfl, by simp, by simp⟩
    Document.text [.statement (.renamed [.blank ' ' rfl] path [] space name [])] =
      "import 'a;//\"b'as//*\nas;".toList := rfl

end Grammar

end Flattener
