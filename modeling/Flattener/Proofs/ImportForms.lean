import Mathlib.Data.List.Basic
import Flattener.Proofs.ImportGrammar

/-!
# The forms of import statements

An import statement is read in its masked text, step by step: blanks, words, marks, a quoted path.
This module says what each step takes, and from that what a whole statement is. `Statement.Frame`
lists what may stand before the path and after it, and `Statement.pathSpan_eq_some_iff` says that a
path is found exactly in these frames.

Nothing is said about the path but that it stands between two quotes of one kind. No quote follows
the second one, since nothing in a frame is a quote there; so it is the last one of the statement,
and the path may hold quotes itself.
-/

namespace Flattener

/-! ### Runs of characters -/

/-- A blank does not go on with an identifier. -/
theorem isIdentifierRest_of_isBlank {c : Char} (h : isBlank c) :
    Statement.isIdentifierRest c = false := by
  have hdollar : (c == '$') = false := by
    simpa using forall_isBlank (p := fun c => !(c == '$')) (by decide) h
  rw [Statement.isIdentifierRest, isWordChar_of_isBlank h, hdollar]
  rfl

theorem isBlank_of_isIdentifierRest {c : Char} (h : Statement.isIdentifierRest c) :
    isBlank c = false := by
  rw [Bool.eq_false_iff]
  intro hb
  rw [isIdentifierRest_of_isBlank hb] at h
  cases h

/-- No quotation mark is a blank. -/
theorem isBlank_of_isQuote {c : Char} (h : isQuote c) : isBlank c = false := by
  rw [Bool.eq_false_iff]
  intro hb
  rw [(Lexeme.ne_slash_of_isBlank hb).2] at h
  cases h

namespace Text

/-- Blanks go from the front up to the first character that is none. -/
theorem trimLeft_append {g t : Text} (hg : blank g) (ht : ∀ c ∈ t.head?, isBlank c = false) :
    trimLeft (g ++ t) = t := dropWhile_append (List.all_eq_true.1 hg) ht

theorem trimLeft_of_blank {g : Text} (hg : blank g) : trimLeft g = [] := by
  simpa using trimLeft_append (t := []) hg (by simp)

/-- A text is its leading blanks and what is left without them. -/
theorem exists_eq_append_trimLeft (t : Text) : ∃ g, t = g ++ trimLeft t ∧ blank g :=
  ⟨t.takeWhile isBlank, List.takeWhile_append_dropWhile.symm, List.all_takeWhile⟩

/-- The text is blank and not empty. -/
structure IsSpace (s : Text) : Prop where
  ne_nil : s ≠ []
  blank : Text.blank s

/-- What starts with a space starts with a blank. -/
theorem IsSpace.head?_append {s : Text} (h : IsSpace s) (t : Text) :
    ∃ c ∈ (s ++ t).head?, isBlank c := by
  obtain ⟨hne, hb⟩ := h
  cases s with
  | nil => exact absurd rfl hne
  | cons c s => exact ⟨c, rfl, List.all_eq_true.1 hb c List.mem_cons_self⟩

end Text

/-! ### Steps of reading -/

namespace Statement

open Grammar

/-- Blanks before a word end where the word starts. -/
theorem head?_word_append {w : Text} (hne : w ≠ []) (hw : w.all isIdentifierRest)
    (t : Text) : ∀ c ∈ (w ++ t).head?, isBlank c = false := by
  intro c hc
  rw [List.head?_append_of_ne_nil _ hne] at hc
  exact isBlank_of_isIdentifierRest (List.all_eq_true.1 hw c (List.mem_of_head? hc))

theorem head?_as_append (t : Text) : ∀ c ∈ ("as".toList ++ t).head?, isBlank c = false :=
  head?_word_append (by decide) (by decide) t

theorem head?_from_append (t : Text) : ∀ c ∈ ("from".toList ++ t).head?, isBlank c = false :=
  head?_word_append (by decide) (by decide) t

/-- A name starts with a character that is no blank. -/
theorem head?_name_append (n : Name) (t : Text) :
    ∀ c ∈ (n.text ++ t).head?, isBlank c = false :=
  head?_word_append (List.cons_ne_nil _ _) n.all_text t

/-- A word is passed over just if the text starts with it; what is left stands behind it. -/
theorem after_eq_some_iff {w t r : Text} : after w t = some r ↔ t = w ++ r :=
  Text.dropPrefix?_eq_some

/-- Blanks are passed over, at least one and all that there are. -/
theorem afterBlanks_eq_some_iff {t r : Text} : afterBlanks t = some r ↔
    ∃ s, t = s ++ r ∧ Text.IsSpace s ∧ ∀ c ∈ r.head?, isBlank c = false := by
  constructor
  · intro h
    cases t with
    | nil => cases h
    | cons c t =>
      rw [afterBlanks] at h
      split at h
      · rename_i hc
        cases h
        obtain ⟨g, hg, hb⟩ := Text.exists_eq_append_trimLeft t
        refine ⟨c :: g, by rw [List.cons_append, ← hg], ⟨by simp, ?_⟩,
          fun _ => eq_false_of_head?_dropWhile⟩
        rw [Text.blank, List.all_cons, Bool.and_eq_true]
        exact ⟨hc, hb⟩
      · cases h
  · rintro ⟨s, rfl, ⟨hne, hb⟩, hr⟩
    cases s with
    | nil => exact absurd rfl hne
    | cons c s =>
      rw [Text.blank, List.all_cons, Bool.and_eq_true] at hb
      rw [List.cons_append, afterBlanks, if_pos hb.1, Text.trimLeft_append hb.2 hr]

/-- A name is passed over as far as it goes. -/
theorem afterIdentifier_eq_some_iff {t r : Text} : afterIdentifier t = some r ↔
    ∃ n : Name, t = n.text ++ r ∧ ∀ c ∈ r.head?, isIdentifierRest c = false := by
  constructor
  · intro h
    cases t with
    | nil => cases h
    | cons c t =>
      rw [afterIdentifier] at h
      split at h
      · rename_i hc
        cases h
        refine ⟨⟨c, t.takeWhile isIdentifierRest, hc, List.all_takeWhile⟩, ?_,
          fun _ => eq_false_of_head?_dropWhile⟩
        rw [Name.text, List.cons_append, List.takeWhile_append_dropWhile]
      · cases h
  · rintro ⟨n, rfl, hr⟩
    rw [Name.text, List.cons_append, afterIdentifier, if_pos n.isIdentifierStart_first,
      Text.dropWhile_append (List.all_eq_true.1 n.isIdentifierRest_rest) hr]

/-- A list of symbols is passed over from its opening brace to the first brace behind it, which has
to close it. -/
theorem afterSymbols_eq_some_iff {t r : Text} : afterSymbols t = some r ↔
    ∃ p, t = '{' :: (p ++ '}' :: r) ∧ ∀ c ∈ p, c ≠ '{' ∧ c ≠ '}' := by
  unfold afterSymbols
  constructor
  · intro h
    obtain ⟨inside, hopen, hclose⟩ := Option.bind_eq_some_iff.1 h
    rw [after_eq_some_iff] at hopen hclose
    refine ⟨inside.takeWhile fun c => c ≠ '{' && c ≠ '}', ?_, fun c hc => ?_⟩
    · rw [hopen, ← List.singleton_append (l := r), ← hclose, List.takeWhile_append_dropWhile]
      rfl
    · simpa using List.all_eq_true.1 List.all_takeWhile c hc
  · rintro ⟨p, rfl, hp⟩
    have hopen : after ['{'] ('{' :: (p ++ '}' :: r)) = some (p ++ '}' :: r) :=
      after_eq_some_iff.2 rfl
    have hinside : (p ++ '}' :: r).dropWhile (fun c => c ≠ '{' && c ≠ '}') = '}' :: r :=
      Text.dropWhile_append (by simpa using hp) (by simp)
    rw [hopen, Option.bind_eq_bind, Option.bind_some, hinside]
    exact after_eq_some_iff.2 rfl

/-! ### Paths -/

/-- The search for the end of a path comes to the last quote, if no quote follows where a statement
is complete. -/
theorem untilQuote_eq_some_iff {q : Char} {complete : Text → Bool}
    (hc : ∀ t, complete t = true → q ∉ t) {t path : Text} : untilQuote q complete t = some path ↔
      ∃ rest, t = path ++ q :: rest ∧ complete rest = true := by
  induction t generalizing path with
  | nil => simp [untilQuote]
  | cons c t ih =>
    rw [untilQuote]
    split
    · rename_i hq
      obtain ⟨rfl, hdone⟩ : c = q ∧ complete t = true := by simpa using hq
      constructor
      · rintro ⟨⟩
        exact ⟨t, rfl, hdone⟩
      · rintro ⟨rest, he, -⟩
        cases path with
        | nil => rfl
        | cons d path =>
          obtain ⟨-, rfl⟩ := List.cons.inj he
          exact absurd (by simp) (hc _ hdone)
    · rename_i hq
      rw [Option.map_eq_some_iff]
      constructor
      · rintro ⟨u, hu, rfl⟩
        obtain ⟨rest, rfl, hrest⟩ := ih.1 hu
        exact ⟨rest, rfl, hrest⟩
      · rintro ⟨rest, he, hrest⟩
        cases path with
        | nil =>
          obtain ⟨rfl, rfl⟩ := List.cons.inj he
          exact absurd (by simpa using hrest) hq
        | cons d path =>
          obtain ⟨rfl, rfl⟩ := List.cons.inj he
          exact ⟨path, ih.2 ⟨rest, rfl, hrest⟩, rfl⟩

/-- A statement that is complete before `t` holds no quote in `t`. -/
def Unquoted (complete : Text → Bool) : Prop :=
  ∀ t, complete t = true → ∀ c ∈ t, isQuote c = false

/-- When what may follow a path has no quotation mark in it, a quoted path is read from its mark to
the same mark again, behind which the statement may end. There is only one such mark. -/
theorem quotedPath_eq_some_iff {complete : Text → Bool} (hc : Unquoted complete)
    {t path rest : Text} : quotedPath complete t = some (path, rest) ↔
      ∃ q back, t = q :: rest ∧ rest = path ++ q :: back ∧ isQuote q ∧ complete back = true := by
  have hnot : ∀ q, isQuote q → ∀ t, complete t = true → q ∉ t := fun q hq t ht hm => by
    rw [hc t ht q hm] at hq
    cases hq
  constructor
  · intro h
    cases t with
    | nil => cases h
    | cons q t =>
      rw [quotedPath] at h
      split at h
      · rename_i hq
        have hq : isQuote q := by simpa [isQuote] using hq
        obtain ⟨u, hu, he⟩ := Option.map_eq_some_iff.1 h
        cases he
        obtain ⟨back, hback, hdone⟩ := (untilQuote_eq_some_iff (hnot q hq)).1 hu
        exact ⟨q, back, rfl, hback, hq, hdone⟩
      · cases h
  · rintro ⟨q, back, rfl, hrest, hq, hdone⟩
    have hquote : (q = '"' || q = '\'') = true := by simpa [isQuote] using hq
    rw [quotedPath, if_pos hquote, (untilQuote_eq_some_iff (hnot q hq)).2 ⟨back, hrest, hdone⟩]
    rfl

/-- Behind a path stands nothing but blanks, or the word `as` and a name with blanks around them. -/
theorem isAliasOrEnd_iff {t : Text} : isAliasOrEnd t = true ↔ Text.blank t ∨
    ∃ g s, ∃ n : Name, ∃ g', t = g ++ ("as".toList ++ (s ++ (n.text ++ g'))) ∧ Text.blank g ∧
      Text.IsSpace s ∧ Text.blank g' := by
  rw [isAliasOrEnd, Bool.or_eq_true, List.isEmpty_iff]
  constructor
  · obtain ⟨g, hg, hb⟩ := Text.exists_eq_append_trimLeft t
    rintro (h | h)
    · rw [h, List.append_nil] at hg
      exact .inl (hg ▸ hb)
    · obtain ⟨g', hsteps, hg'⟩ := (Option.any_eq_true _ _).1 h
      obtain ⟨u, hu, hname⟩ := Option.bind_eq_some_iff.1 hsteps
      obtain ⟨v, hv, hspace⟩ := Option.bind_eq_some_iff.1 hu
      obtain ⟨n, rfl, -⟩ := afterIdentifier_eq_some_iff.1 hname
      obtain ⟨s, rfl, hs, -⟩ := afterBlanks_eq_some_iff.1 hspace
      rw [after_eq_some_iff.1 hv] at hg
      exact .inr ⟨g, s, n, g', hg, hb, hs, hg'⟩
  · rintro (h | ⟨g, s, n, g', rfl, hg, hs, hg'⟩)
    · exact .inl (Text.trimLeft_of_blank h)
    · right
      have hspace : afterBlanks (s ++ (n.text ++ g')) = some (n.text ++ g') :=
        afterBlanks_eq_some_iff.2 ⟨s, rfl, hs, head?_name_append n g'⟩
      have hname : afterIdentifier (n.text ++ g') = some g' :=
        afterIdentifier_eq_some_iff.2 ⟨n, rfl, fun c hc =>
          isIdentifierRest_of_isBlank (List.all_eq_true.1 hg' c (List.mem_of_head? hc))⟩
      rw [Text.trimLeft_append hg (head?_as_append _), after_eq_some_iff.2 rfl]
      simp only [Option.bind_eq_bind, Option.bind_some, hspace, hname, Option.any_some, hg']

theorem isQuote_of_isBlank {c : Char} (h : isBlank c) : isQuote c = false :=
  (Lexeme.ne_slash_of_isBlank h).2

theorem isQuote_of_isIdentifierRest {c : Char} (h : isIdentifierRest c) : isQuote c = false := by
  rw [Bool.eq_false_iff]
  intro hq
  have hcases : c = '"' ∨ c = '\'' := by simpa [isQuote] using hq
  rcases hcases with rfl | rfl <;> revert h <;> decide

/-- No quotation mark stands in a word. -/
theorem isQuote_of_mem_word {w : Text} (h : w.all isIdentifierRest) :
    ∀ c ∈ w, isQuote c = false := fun c hc =>
  isQuote_of_isIdentifierRest (List.all_eq_true.1 h c hc)

/-- No quotation mark stands among blanks. -/
theorem unquoted_blank : Unquoted Text.blank := fun _ ht c hc =>
  isQuote_of_isBlank (List.all_eq_true.1 ht c hc)

/-- No quotation mark stands in what follows the path of a direct import. -/
theorem unquoted_isAliasOrEnd : Unquoted isAliasOrEnd := by
  intro t ht
  rcases isAliasOrEnd_iff.1 ht with hb | ⟨g, s, n, g', rfl, hg, hs, hg'⟩
  · exact unquoted_blank t hb
  · simp only [List.forall_mem_append]
    exact ⟨unquoted_blank g hg, isQuote_of_mem_word (by decide), unquoted_blank s hs.blank,
      isQuote_of_mem_word n.all_text, unquoted_blank g' hg'⟩

/-! ### Frames -/

/-- What may stand in a masked import statement before the quote that opens its path, and after the
quote that closes it. -/
inductive Frame : Text → Text → Prop where
  /-- `import "path";` -/
  | bare {g g' : Text} (hg : Text.blank g) (hg' : Text.blank g') : Frame g g'
  /-- `import "path" as Alias;` -/
  | renamed {g g₁ s g' : Text} (n : Name) (hg : Text.blank g) (hg₁ : Text.blank g₁)
      (hs : Text.IsSpace s) (hg' : Text.blank g') :
    Frame g (g₁ ++ ("as".toList ++ (s ++ (n.text ++ g'))))
  /-- `import * as Alias from "path";` -/
  | wildcard {g g₁ s₁ s₂ s₃ g' : Text} (n : Name) (hg : Text.blank g) (hg₁ : Text.blank g₁)
      (hs₁ : Text.IsSpace s₁) (hs₂ : Text.IsSpace s₂) (hs₃ : Text.IsSpace s₃)
      (hg' : Text.blank g') :
    Frame (g ++ '*' :: (g₁ ++ ("as".toList ++ (s₁ ++ (n.text ++ (s₂ ++ ("from".toList ++ s₃)))))))
      g'
  /-- `import {A, B as C} from "path";`, where anything but braces may stand between the braces -/
  | selected {g p g₁ s g' : Text} (hg : Text.blank g) (hp : ∀ c ∈ p, c ≠ '{' ∧ c ≠ '}')
      (hg₁ : Text.blank g₁) (hs : Text.IsSpace s) (hg' : Text.blank g') :
    Frame (g ++ '{' :: (p ++ '}' :: (g₁ ++ ("from".toList ++ s)))) g'

/-- The form with the path alone: blanks, the quoted path, and perhaps an alias. -/
theorem direct_eq_some_iff {t path rest : Text} : direct t = some (path, rest) ↔
    ∃ g q back, t = g ++ q :: rest ∧ rest = path ++ q :: back ∧ Text.blank g ∧ isQuote q ∧
      isAliasOrEnd back = true := by
  rw [direct, quotedPath_eq_some_iff unquoted_isAliasOrEnd]
  constructor
  · rintro ⟨q, back, ht, hrest, hq, hdone⟩
    obtain ⟨g, hg, hb⟩ := Text.exists_eq_append_trimLeft t
    rw [ht] at hg
    exact ⟨g, q, back, hg, hrest, hb, hq, hdone⟩
  · rintro ⟨g, q, back, rfl, hrest, hb, hq, hdone⟩
    refine ⟨q, back, Text.trimLeft_append hb ?_, hrest, hq, hdone⟩
    simpa using isBlank_of_isQuote hq

/-- The form with a star: a star, its alias, the word `from`, and the quoted path, with blanks where
they may or have to be. -/
theorem wildcard_eq_some_iff {t path rest : Text} : wildcard t = some (path, rest) ↔
    ∃ g g₁ s₁, ∃ n : Name, ∃ s₂ s₃ q back,
      t = g ++ '*' :: (g₁ ++ ("as".toList ++ (s₁ ++ (n.text ++ (s₂ ++ ("from".toList ++
        (s₃ ++ q :: rest))))))) ∧ rest = path ++ q :: back ∧ Text.blank g ∧ Text.blank g₁ ∧
      Text.IsSpace s₁ ∧ Text.IsSpace s₂ ∧ Text.IsSpace s₃ ∧ isQuote q ∧ Text.blank back := by
  unfold wildcard
  simp only [Option.bind_eq_bind]
  constructor
  · intro h
    -- the steps in order: the star, `as`, blanks, the alias, blanks, `from`, blanks, the path
    obtain ⟨t₁, hstar, h⟩ := Option.bind_eq_some_iff.1 h
    obtain ⟨t₂, has, h⟩ := Option.bind_eq_some_iff.1 h
    obtain ⟨t₅, hsteps, h⟩ := Option.bind_eq_some_iff.1 h
    obtain ⟨t₄, hsteps, hs₂⟩ := Option.bind_eq_some_iff.1 hsteps
    obtain ⟨t₃, hs₁, hname⟩ := Option.bind_eq_some_iff.1 hsteps
    obtain ⟨t₇, hsteps, h⟩ := Option.bind_eq_some_iff.1 h
    obtain ⟨t₆, hfrom, hs₃⟩ := Option.bind_eq_some_iff.1 hsteps
    obtain ⟨q, back, rfl, hrest, hq, hback⟩ := (quotedPath_eq_some_iff unquoted_blank).1 h
    obtain ⟨s₃, rfl, hs₃, -⟩ := afterBlanks_eq_some_iff.1 hs₃
    rw [after_eq_some_iff] at hstar has hfrom
    subst hfrom
    obtain ⟨s₂, rfl, hs₂, -⟩ := afterBlanks_eq_some_iff.1 hs₂
    obtain ⟨n, rfl, -⟩ := afterIdentifier_eq_some_iff.1 hname
    obtain ⟨s₁, rfl, hs₁, -⟩ := afterBlanks_eq_some_iff.1 hs₁
    obtain ⟨g₁, hg₁, hb₁⟩ := Text.exists_eq_append_trimLeft t₁
    obtain ⟨g, hg, hb⟩ := Text.exists_eq_append_trimLeft t
    rw [has] at hg₁
    rw [hstar, hg₁] at hg
    exact ⟨g, g₁, s₁, n, s₂, s₃, q, back, hg, hrest, hb, hb₁, hs₁, hs₂, hs₃, hq, hback⟩
  · rintro ⟨g, g₁, s₁, n, s₂, s₃, q, back, rfl, hrest, hg, hg₁, hs₁, hs₂, hs₃, hq, hback⟩
    have hpath : quotedPath Text.blank (q :: rest) = some (path, rest) :=
      (quotedPath_eq_some_iff unquoted_blank).2 ⟨q, back, rfl, hrest, hq, hback⟩
    have hspace : ∀ {s t : Text}, Text.IsSpace s → (∀ c ∈ t.head?, isBlank c = false) →
        afterBlanks (s ++ t) = some t := fun hs ht => afterBlanks_eq_some_iff.2 ⟨_, rfl, hs, ht⟩
    have hname : ∀ t, afterIdentifier (n.text ++ (s₂ ++ t)) = some (s₂ ++ t) := fun t =>
      afterIdentifier_eq_some_iff.2 ⟨n, rfl, fun c hc => by
        obtain ⟨d, hd, hblank⟩ := hs₂.head?_append t
        obtain rfl : c = d := Option.some.inj (hc.symm.trans hd)
        exact isIdentifierRest_of_isBlank hblank⟩
    have hstar : ∀ t : Text, after ['*'] ('*' :: t) = some t := fun t => after_eq_some_iff.2 rfl
    have hword : ∀ w t : Text, after w (w ++ t) = some t := fun w t => after_eq_some_iff.2 rfl
    rw [Text.trimLeft_append hg (by simp; decide), hstar, Option.bind_some,
      Text.trimLeft_append hg₁ (head?_as_append _), hword, Option.bind_some,
      hspace hs₁ (head?_name_append n _), Option.bind_some, hname, Option.bind_some,
      hspace hs₂ (head?_from_append _), Option.bind_some, hword, Option.bind_some,
      hspace hs₃ (by simpa using isBlank_of_isQuote hq), Option.bind_some, hpath]

/-- The form with symbols: their list in braces, the word `from`, and the quoted path, with blanks
where they may or have to be. -/
theorem symbols_eq_some_iff {t path rest : Text} : symbols t = some (path, rest) ↔
    ∃ g p g₁ s q back, t = g ++ '{' :: (p ++ '}' :: (g₁ ++ ("from".toList ++ (s ++ q :: rest)))) ∧
      rest = path ++ q :: back ∧ Text.blank g ∧ (∀ c ∈ p, c ≠ '{' ∧ c ≠ '}') ∧ Text.blank g₁ ∧
      Text.IsSpace s ∧ isQuote q ∧ Text.blank back := by
  unfold symbols
  simp only [Option.bind_eq_bind]
  constructor
  · intro h
    obtain ⟨t₁, hlist, h⟩ := Option.bind_eq_some_iff.1 h
    obtain ⟨t₃, hsteps, h⟩ := Option.bind_eq_some_iff.1 h
    obtain ⟨t₂, hfrom, hs⟩ := Option.bind_eq_some_iff.1 hsteps
    obtain ⟨q, back, rfl, hrest, hq, hback⟩ := (quotedPath_eq_some_iff unquoted_blank).1 h
    obtain ⟨s, rfl, hs, -⟩ := afterBlanks_eq_some_iff.1 hs
    obtain ⟨p, hp, hfree⟩ := afterSymbols_eq_some_iff.1 hlist
    obtain ⟨g₁, hg₁, hb₁⟩ := Text.exists_eq_append_trimLeft t₁
    obtain ⟨g, hg, hb⟩ := Text.exists_eq_append_trimLeft t
    rw [after_eq_some_iff.1 hfrom] at hg₁
    rw [hp, hg₁] at hg
    exact ⟨g, p, g₁, s, q, back, hg, hrest, hb, hfree, hb₁, hs, hq, hback⟩
  · rintro ⟨g, p, g₁, s, q, back, rfl, hrest, hg, hp, hg₁, hs, hq, hback⟩
    have hpath : quotedPath Text.blank (q :: rest) = some (path, rest) :=
      (quotedPath_eq_some_iff unquoted_blank).2 ⟨q, back, rfl, hrest, hq, hback⟩
    have hspace : afterBlanks (s ++ q :: rest) = some (q :: rest) :=
      afterBlanks_eq_some_iff.2 ⟨s, rfl, hs, by simpa using isBlank_of_isQuote hq⟩
    rw [Text.trimLeft_append hg (by simp; decide), afterSymbols_eq_some_iff.2 ⟨p, rfl, hp⟩,
      Option.bind_some, Text.trimLeft_append hg₁ (head?_from_append _), after_eq_some_iff.2 rfl,
      Option.bind_some, hspace, Option.bind_some, hpath]

/-- The first character that is no blank tells the forms apart. -/
theorem eq_of_blank_append {g g' u v : Text} {c d : Char} (h : g ++ c :: u = g' ++ d :: v)
    (hg : Text.blank g) (hg' : Text.blank g') (hc : isBlank c = false) (hd : isBlank d = false) :
    c = d := by
  have htrim : Text.trimLeft (g ++ c :: u) = Text.trimLeft (g' ++ d :: v) := by rw [h]
  rw [Text.trimLeft_append hg (by simpa using hc), Text.trimLeft_append hg' (by simpa using hd)]
    at htrim
  exact (List.cons.inj htrim).1

/-- What starts, blanks apart, with something that is no quotation mark is not a path alone. -/
theorem direct_eq_none {g u : Text} {m : Char} (hg : Text.blank g) (hm : isBlank m = false)
    (hq : isQuote m = false) : direct (g ++ m :: u) = none := by
  rw [Option.eq_none_iff_forall_ne_some]
  rintro ⟨path, rest⟩ h
  obtain ⟨g', q, back, he, -, hg', hquote, -⟩ := direct_eq_some_iff.1 h
  obtain rfl := eq_of_blank_append he hg hg' hm (isBlank_of_isQuote hquote)
  rw [hquote] at hq
  cases hq

/-- A list of symbols is not read as a star. -/
theorem wildcard_eq_none {g u : Text} (hg : Text.blank g) : wildcard (g ++ '{' :: u) = none := by
  rw [Option.eq_none_iff_forall_ne_some]
  rintro ⟨path, rest⟩ h
  obtain ⟨g', g₁, s₁, n, s₂, s₃, q, back, he, -, hg', -⟩ := wildcard_eq_some_iff.1 h
  exact absurd (eq_of_blank_append he hg hg' (by decide) (by decide)) (by decide)

/-- One of the forms fits a masked statement exactly when its path stands in a frame. -/
theorem forms_eq_some_iff {t path rest : Text} :
    (direct t <|> wildcard t <|> symbols t) = some (path, rest) ↔
      ∃ front q back, t = front ++ q :: rest ∧ rest = path ++ q :: back ∧ isQuote q ∧
        Frame front back := by
  simp only [Option.orElse_eq_orElse, Option.orElse_eq_or]
  constructor
  · intro h
    rcases Option.or_eq_some_iff.1 h with h | ⟨-, h⟩
    · obtain ⟨g, q, back, ht, hrest, hg, hq, hdone⟩ := direct_eq_some_iff.1 h
      refine ⟨g, q, back, ht, hrest, hq, ?_⟩
      rcases isAliasOrEnd_iff.1 hdone with hb | ⟨g₁, s, n, g', rfl, hg₁, hs, hg'⟩
      · exact .bare hg hb
      · exact .renamed n hg hg₁ hs hg'
    rcases Option.or_eq_some_iff.1 h with h | ⟨-, h⟩
    · obtain ⟨g, g₁, s₁, n, s₂, s₃, q, back, ht, hrest, hg, hg₁, hs₁, hs₂, hs₃, hq, hback⟩ :=
        wildcard_eq_some_iff.1 h
      exact ⟨_, q, back, by rw [ht]; simp, hrest, hq, .wildcard n hg hg₁ hs₁ hs₂ hs₃ hback⟩
    · obtain ⟨g, p, g₁, s, q, back, ht, hrest, hg, hp, hg₁, hs, hq, hback⟩ :=
        symbols_eq_some_iff.1 h
      exact ⟨_, q, back, by rw [ht]; simp, hrest, hq, .selected hg hp hg₁ hs hback⟩
  · rintro ⟨front, q, back, rfl, hrest, hq, hframe⟩
    cases hframe with
    | bare hg hg' =>
      rw [direct_eq_some_iff.2 ⟨front, q, back, rfl, hrest, hg, hq, isAliasOrEnd_iff.2 (.inl hg')⟩]
      rfl
    | renamed n hg hg₁ hs hg' =>
      rw [direct_eq_some_iff.2 ⟨front, q, _, rfl, hrest, hg, hq,
        isAliasOrEnd_iff.2 (.inr ⟨_, _, n, _, rfl, hg₁, hs, hg'⟩)⟩]
      rfl
    | wildcard n hg hg₁ hs₁ hs₂ hs₃ hg' =>
      rw [List.append_assoc, List.cons_append, direct_eq_none hg (by decide) (by decide),
        wildcard_eq_some_iff.2 ⟨_, _, _, n, _, _, q, back, by simp, hrest, hg, hg₁, hs₁, hs₂, hs₃,
          hq, hg'⟩]
      rfl
    | selected hg hp hg₁ hs hg' =>
      rw [List.append_assoc, List.cons_append, direct_eq_none hg (by decide) (by decide),
        wildcard_eq_none hg, symbols_eq_some_iff.2 ⟨_, _, _, _, q, back, by simp, hrest, hg, hp,
          hg₁, hs, hq, hg'⟩]
      rfl

/-- The path of a masked import statement stands in a frame, between two quotes. -/
theorem pathSpan_eq_some_iff {t : Text} {start length : Nat} :
    pathSpan t = some (start, length) ↔ ∃ front q path back,
      t = front ++ q :: (path ++ q :: back) ∧ isQuote q ∧ Frame front back ∧
        start = front.length + 1 ∧ length = path.length := by
  rw [pathSpan, Option.map_eq_some_iff]
  constructor
  · rintro ⟨⟨path, rest⟩, h, he⟩
    obtain ⟨front, q, back, rfl, rfl, hq, hframe⟩ := forms_eq_some_iff.1 h
    cases he
    refine ⟨front, q, path, back, rfl, hq, hframe, ?_, rfl⟩
    simp only [List.length_append, List.length_cons]
    omega
  · rintro ⟨front, q, path, back, rfl, hq, hframe, rfl, rfl⟩
    refine ⟨_, forms_eq_some_iff.2 ⟨front, q, back, rfl, rfl, hq, hframe⟩, ?_⟩
    simp only [List.length_append, List.length_cons, Prod.mk.injEq, and_true]
    omega

end Statement

/-- The specifier is what is written where the path was found, and it is not empty. -/
theorem Directive.specifier_eq_ok_iff {written masked path : Text} :
    specifier written masked = .ok path ↔ path ≠ [] ∧ ∃ start length,
      Statement.pathSpan masked = some (start, length) ∧
        (written.drop start).take length = path := by
  unfold specifier
  cases hspan : Statement.pathSpan masked with
  | none => simp
  | some r =>
    obtain ⟨start, length⟩ := r
    have hone : (∃ i n, some (start, length) = some (i, n) ∧ (written.drop i).take n = path) ↔
        (written.drop start).take length = path := by
      constructor
      · rintro ⟨i, n, he, hpath⟩
        cases he
        exact hpath
      · exact fun hpath => ⟨start, length, rfl, hpath⟩
    rw [hone]
    dsimp only
    split
    · rename_i hnil
      rw [hnil]
      exact ⟨nofun, fun ⟨hne, he⟩ => absurd he.symm hne⟩
    · rename_i hne
      rw [Except.ok.injEq]
      exact ⟨fun he => ⟨he ▸ hne, he⟩, And.right⟩

end Flattener
