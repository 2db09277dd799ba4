import Flattener.Source.Lexeme

/-!
# Cutting a text again

A row of lexemes is the cut of the text that it writes exactly when every lexeme closes where it
ends and none of them would be read on into what follows it. This is `scan_eq_ok_iff`. It lets a
text be changed by changing its lexemes: whatever keeps the row a cut keeps every comment and
every literal what it was.

Whether a lexeme can stand before a text is seen at the first character of that text: a slash of
code must not start a comment, and a line comment runs up to the end of its line. A lexeme that
is neither can stand before anything, so what follows it can be changed (`Lexeme.Cut.change`).
-/

namespace Flattener

theorem map_eq_ok_iff {ε α β : Type} {x : Except ε α} {f : α → β} {b : β} :
    x.map f = .ok b ↔ ∃ a, x = .ok a ∧ f a = b := by
  cases x <;> simp [Except.map]

theorem map_eq_error_iff {ε α β : Type} {x : Except ε α} {f : α → β} {e : ε} :
    x.map f = .error e ↔ x = .error e := by
  cases x <;> simp [Except.map]

theorem bind_eq_ok_iff {ε α β : Type} {x : Except ε α} {f : α → Except ε β} {b : β} :
    (x >>= f) = .ok b ↔ ∃ a, x = .ok a ∧ f a = .ok b := by
  cases x <;> simp [bind, Except.bind]

theorem bind_eq_error_iff {ε α β : Type} {x : Except ε α} {f : α → Except ε β} {e : ε} :
    (x >>= f) = .error e ↔ x = .error e ∨ ∃ a, x = .ok a ∧ f a = .error e := by
  cases x <;> simp [bind, Except.bind]

theorem toOption_eq_some_iff {ε α : Type} {e : Except ε α} {a : α} :
    e.toOption = some a ↔ e = .ok a := by
  cases e <;> simp [Except.toOption]

theorem mapError_eq_ok_iff {ε ε' α : Type} {f : ε → ε'} {e : Except ε α} {a : α} :
    e.mapError f = .ok a ↔ e = .ok a := by
  cases e with
  | error _ => exact ⟨nofun, nofun⟩
  | ok _ => exact ⟨fun | rfl => rfl, fun | rfl => rfl⟩

theorem mapError_eq_error_iff {ε ε' α : Type} {f : ε → ε'} {e : Except ε α} {x : ε'} :
    e.mapError f = .error x ↔ ∃ y, e = .error y ∧ f y = x := by
  cases e with
  | error y =>
    constructor
    · rintro ⟨⟩
      exact ⟨y, rfl, rfl⟩
    · rintro ⟨_, ⟨⟩, rfl⟩
      rfl
  | ok _ => exact ⟨nofun, nofun⟩

/-- A run of things of one kind stops before one of another kind. -/
theorem eq_false_of_head?_dropWhile {α : Type} {p : α → Bool} {xs : List α} {x : α}
    (h : x ∈ (xs.dropWhile p).head?) : p x = false := by
  have hnot := List.head?_dropWhile_not p xs
  rw [Option.mem_def.1 h] at hnot
  simpa using hnot

/-- A run of characters of one kind is taken, and no more. -/
theorem Text.takeWhile_append {p : Char → Bool} {u t : Text} (hu : ∀ c ∈ u, p c = true)
    (ht : ∀ c ∈ t.head?, p c = false) : (u ++ t).takeWhile p = u := by
  rw [List.takeWhile_append_of_pos hu]
  cases t with
  | nil => simp
  | cons c t => rw [List.takeWhile_cons_of_neg (by simp [ht c rfl]), List.append_nil]

/-- A run of characters of one kind is dropped, and no more. -/
theorem Text.dropWhile_append {p : Char → Bool} {u t : Text} (hu : ∀ c ∈ u, p c = true)
    (ht : ∀ c ∈ t.head?, p c = false) : (u ++ t).dropWhile p = t := by
  rw [List.dropWhile_append_of_pos hu]
  cases t with
  | nil => rfl
  | cons c t => rw [List.dropWhile_cons_of_neg (by simp [ht c rfl])]

/-- A text is cut at the first mark. -/
theorem Text.takeWhile_mark {mark : Char} {t : Text} (h : mark ∉ t) (later : Text) :
    (t ++ mark :: later).takeWhile (· ≠ mark) = t ∧
      (t ++ mark :: later).dropWhile (· ≠ mark) = mark :: later := by
  have hall : ∀ c ∈ t, decide (c ≠ mark) = true := fun c hc => decide_eq_true fun he => h (he ▸ hc)
  have hmark : ∀ c ∈ (mark :: later).head?, decide (c ≠ mark) = false := by
    rintro _ ⟨⟩
    simp
  exact ⟨takeWhile_append hall hmark, dropWhile_append hall hmark⟩

theorem Text.eq_of_dropWhile_mark {mark c : Char} {t later : Text}
    (h : t.dropWhile (· ≠ mark) = c :: later) :
    t = t.takeWhile (· ≠ mark) ++ mark :: later ∧ mark ∉ t.takeWhile (· ≠ mark) := by
  have hhead : c ∈ (t.dropWhile (· ≠ mark)).head? := by
    rw [h]
    rfl
  have hc : c = mark := by simpa using eq_false_of_head?_dropWhile hhead
  subst hc
  refine ⟨?_, fun hm => ?_⟩
  · rw [← h, List.takeWhile_append_dropWhile]
  · simpa using List.all_eq_true.1 (List.all_takeWhile (l := t)) _ hm

/-- A piece stands in what is glued together. -/
theorem Text.infix_intercalate {glue w : Text} {ws : List Text} (h : w ∈ ws) :
    w <:+: glue.intercalate ws := by
  induction ws with
  | nil => cases h
  | cons u us ih =>
    cases us with
    | nil => exact ⟨[], [], by simp [List.mem_singleton.1 h]⟩
    | cons v vs =>
      rw [List.intercalate_cons_cons, List.append_assoc]
      rcases List.mem_cons.1 h with rfl | h
      · exact (List.prefix_append _ _).isInfix
      · exact (ih h).trans ((List.suffix_append _ _).trans (List.suffix_append _ _)).isInfix

/-- What is glued together holds nothing but the pieces and the glue. -/
theorem Text.mem_intercalate {glue : Text} {ws : List Text} {c : Char}
    (h : c ∈ glue.intercalate ws) : c ∈ glue ∨ ∃ w ∈ ws, c ∈ w := by
  induction ws with
  | nil => cases h
  | cons w ws ih =>
    cases ws with
    | nil => exact .inr ⟨w, by simp, by simpa using h⟩
    | cons u us =>
      rw [List.intercalate_cons_cons] at h
      rcases List.mem_append.1 h with h | h
      · rcases List.mem_append.1 h with h | h
        · exact .inr ⟨w, by simp, h⟩
        · exact .inl h
      · rcases ih h with h | ⟨v, hv, h⟩
        · exact .inl h
        · exact .inr ⟨v, by simp [hv], h⟩

/-- The pieces between marks hold no marks. -/
theorem Text.eq_false_of_mem_splitOnP {mark : Char → Bool} {t w : Text}
    (hw : w ∈ t.splitOnP mark) {c : Char} (hc : c ∈ w) : mark c = false := by
  induction t generalizing w with
  | nil =>
    rw [List.splitOnP_nil, List.mem_singleton] at hw
    subst hw
    cases hc
  | cons d t ih =>
    rw [List.splitOnP_cons_eq_if_modifyHead] at hw
    cases hs : t.splitOnP mark with
    | nil => exact absurd hs (List.splitOnP_ne_nil _ _)
    | cons u us =>
      rw [hs] at hw ih
      cases hd : mark d with
      | true =>
        rw [if_pos hd] at hw
        rcases List.mem_cons.1 hw with rfl | hw
        · cases hc
        · exact ih hw hc
      | false =>
        rw [if_neg (by simp [hd]), List.modifyHead_cons] at hw
        rcases List.mem_cons.1 hw with rfl | hw
        · rcases List.mem_cons.1 hc with rfl | hc
          · exact hd
          · exact ih List.mem_cons_self hc
        · exact ih (List.mem_cons_of_mem u hw) hc

/-! ### Closing -/

theorem splitBlockComment_cons {c : Char} {t : Text} (h : c = '*' → t.head? ≠ some '/') :
    splitBlockComment (c :: t) = (splitBlockComment t).map fun r => (c :: r.1, r.2) := by
  refine splitBlockComment.eq_3 c t fun u hc ht => h hc ?_
  rw [ht]
  rfl

theorem splitBlockComment_append {u : Text} {r : Text × Text} (h : splitBlockComment u = some r)
    (t : Text) : splitBlockComment (u ++ t) = some (r.1, r.2 ++ t) := by
  fun_induction splitBlockComment u generalizing r with
  | case1 => simp at h
  | case2 u => cases h; rfl
  | case3 c u hne ih =>
    obtain ⟨s, hs, rfl⟩ := Option.map_eq_some_iff.1 h
    rw [List.cons_append, splitBlockComment_cons, ih hs]
    · rfl
    · intro hc hu
      cases u with
      | nil => simp [splitBlockComment] at hs
      | cons d u => exact hne u hc (by simpa using hu)

/-- What a block comment takes does not depend on what follows it. -/
theorem splitBlockComment_closed {u : Text} {r : Text × Text} (h : splitBlockComment u = some r) :
    splitBlockComment (r.1 ++ ['*', '/']) = some (r.1, []) := by
  fun_induction splitBlockComment u generalizing r with
  | case1 => simp at h
  | case2 u => cases h; rfl
  | case3 c u hne ih =>
    obtain ⟨s, hs, rfl⟩ := Option.map_eq_some_iff.1 h
    rw [List.cons_append, splitBlockComment_cons, ih hs]
    · rfl
    · -- the slash after this star would be in the text that was split, too
      intro hc hu
      have hs' := eq_of_splitBlockComment hs
      cases h1 : s.1 with
      | nil => simp [h1] at hu
      | cons d v =>
        rw [h1] at hs' hu
        obtain rfl : d = '/' := by simpa using hu
        exact hne _ hc hs'

/-- Without its first character a block comment closes where it did, for it does not end with that
character and the next one. -/
theorem splitBlockComment_tail {c : Char} {body : Text}
    (h : splitBlockComment (c :: (body ++ ['*', '/'])) = some (c :: body, [])) :
    splitBlockComment (body ++ ['*', '/']) = some (body, []) ∧
      (c = '*' → (body ++ ['*', '/']).head? ≠ some '/') := by
  have hs : c = '*' → (body ++ ['*', '/']).head? ≠ some '/' := by
    rintro rfl hs
    cases body with
    | nil => simp at hs
    | cons d body =>
      obtain rfl : d = '/' := by simpa using hs
      simp [splitBlockComment] at h
  rw [splitBlockComment_cons hs] at h
  obtain ⟨⟨b, r⟩, hb, he⟩ := Option.map_eq_some_iff.1 h
  cases he
  exact ⟨hb, hs⟩

theorem splitLiteral_quote {quote : Char} (hq : quote ≠ '\\') (t : Text) :
    splitLiteral quote (quote :: t) = some ([], t) := by
  rw [splitLiteral.eq_3 quote quote t fun _ _ h => absurd h hq, if_pos rfl]

theorem splitLiteral_cons {quote c : Char} (hc : c ≠ '\\') (hq : c ≠ quote) (hn : c ≠ '\n')
    (t : Text) :
    splitLiteral quote (c :: t) = (splitLiteral quote t).map fun r => (c :: r.1, r.2) := by
  rw [splitLiteral.eq_3 quote c t fun _ _ h => absurd h hc, if_neg hq, if_neg (by simp [hn, hc])]

theorem ne_backslash_of_isQuote {c : Char} (h : isQuote c) : c ≠ '\\' := by
  rintro rfl
  simp [isQuote] at h

theorem ne_slash_of_isQuote {c : Char} (h : isQuote c) : c ≠ '/' := by
  rintro rfl
  simp [isQuote] at h

/-- What can stand between two quotes: characters that are taken by a backslash, and others that
neither close the literal nor break it. -/
inductive Inside (quote : Char) : Text → Prop where
  | nil : Inside quote []
  | escape (c : Char) {t : Text} (h : Inside quote t) : Inside quote ('\\' :: c :: t)
  | plain {c : Char} {t : Text} (hb : c ≠ '\\') (hq : c ≠ quote) (hn : c ≠ '\n')
      (h : Inside quote t) : Inside quote (c :: t)

theorem Inside.splitLiteral_append {quote : Char} (hq : quote ≠ '\\') {body : Text}
    (h : Inside quote body) (t : Text) :
    splitLiteral quote (body ++ quote :: t) = some (body, t) := by
  induction h with
  | nil => exact splitLiteral_quote hq t
  | escape c _ ih =>
    rw [List.cons_append, List.cons_append, splitLiteral, ih]
    rfl
  | plain hb hc hn _ ih =>
    rw [List.cons_append, splitLiteral_cons hb hc hn, ih]
    rfl

theorem inside_of_splitLiteral {quote : Char} {u : Text} {r : Text × Text}
    (h : splitLiteral quote u = some r) : Inside quote r.1 := by
  fun_induction splitLiteral quote u generalizing r with
  | case1 => simp at h
  | case2 c u ih =>
    obtain ⟨s, hs, rfl⟩ := Option.map_eq_some_iff.1 h
    exact .escape c (ih hs)
  | case3 u => cases h; exact .nil
  | case4 => simp at h
  | case5 c u _ hc hb ih =>
    obtain ⟨s, hs, rfl⟩ := Option.map_eq_some_iff.1 h
    simp only [Bool.or_eq_true, decide_eq_true_eq, not_or] at hb
    exact .plain hb.2 hc hb.1 (ih hs)

/-! ### Rows of lexemes -/

namespace Lexeme

/-- The lexeme closes where it ends and not before. -/
def WellFormed : Lexeme → Prop
  | code c => isQuote c = false
  | lineComment body => '\n' ∉ body
  | blockComment body => splitBlockComment (body ++ ['*', '/']) = some (body, [])
  | literal quote body => isQuote quote = true ∧ Inside quote body

/-- The lexeme is not read on into the text `t` that follows it. -/
def EndsBefore : Lexeme → Text → Prop
  | code c, t => c = '/' → t.head? ≠ some '/' ∧ t.head? ≠ some '*'
  | lineComment _, t => ∀ c ∈ t.head?, c = '\n'
  | blockComment _, _ => True
  | literal _ _, _ => True

/-- The lexemes are the cut of the text that they write, when `t` follows it. -/
def Cut : List Lexeme → Text → Prop
  | [], _ => True
  | l :: ls, t => l.WellFormed ∧ l.EndsBefore (ls.flatMap text ++ t) ∧ Cut ls t

theorem cut_append {ls ks : List Lexeme} {t : Text} :
    Cut (ls ++ ks) t ↔ Cut ls (ks.flatMap text ++ t) ∧ Cut ks t := by
  induction ls with
  | nil => simp [Cut]
  | cons l ls ih => simp [Cut, ih, and_assoc]

/-- Whether a lexeme is not read on is seen at the first character of what follows. -/
theorem EndsBefore.congr {l : Lexeme} {t t' : Text} (h : l.EndsBefore t)
    (ht : t.head? = t'.head?) : l.EndsBefore t' := by
  cases l with
  | code c => intro hc; rw [← ht]; exact h hc
  | lineComment body => intro c hc; exact h c (ht ▸ hc)
  | blockComment body => trivial
  | literal quote body => trivial

/-- The lexeme can stand before anything. -/
def Firm (l : Lexeme) : Prop := ∀ t, l.EndsBefore t

theorem firm_code {c : Char} (h : c ≠ '/') : (code c).Firm := fun _ hc => absurd hc h

/-- Every lexeme can end before a line feed. -/
theorem endsBefore_lineFeed (l : Lexeme) (t : Text) : l.EndsBefore ('\n' :: t) := by
  cases l with
  | code c => exact fun _ => ⟨by simp, by simp⟩
  | lineComment body => exact fun c hc => by simpa [eq_comm] using hc
  | blockComment body => trivial
  | literal quote body => trivial

/-- What follows a row can be changed if the last lexeme can stand before it. -/
theorem Cut.change {ls : List Lexeme} {t t' : Text} (h : Cut ls t)
    (hl : ∀ l ∈ ls.getLast?, l.EndsBefore t') : Cut ls t' := by
  induction ls with
  | nil => trivial
  | cons l ls ih =>
    obtain ⟨hw, hb, hc⟩ := h
    cases ls with
    | nil => exact ⟨hw, hl l rfl, trivial⟩
    | cons k ls =>
      refine ⟨hw, hb.congr ?_, ih hc fun j hj => hl j (by simpa using hj)⟩
      cases k <;> simp [text]

end Lexeme

/-! ### Blanks among lexemes -/

/-- What holds of the characters in the ranges of blanks holds of every blank. -/
theorem forall_isBlank {p : Char → Bool}
    (h : ∀ r ∈ blankRanges, ∀ i < r.2 + 1 - r.1, p (Char.ofNat (r.1 + i)) = true) {c : Char}
    (hc : isBlank c) : p c = true := by
  obtain ⟨r, hr, hc⟩ := List.any_eq_true.1 hc
  simp only [Bool.and_eq_true, decide_eq_true_eq] at hc
  have := h r hr (c.toNat - r.1) (by omega)
  rwa [Nat.add_sub_of_le hc.1, Char.ofNat_toNat] at this

namespace Lexeme

theorem ne_slash_of_isBlank {c : Char} (h : isBlank c) : c ≠ '/' ∧ isQuote c = false := by
  have hc := forall_isBlank (p := fun c => c != '/' && !isQuote c) (by decide) h
  rwa [Bool.and_eq_true, Bool.not_eq_true', bne_iff_ne] at hc

/-- Characters that are neither slashes nor quotes are code, whatever follows. -/
theorem cut_map_code {p : Text} (h : ∀ c ∈ p, c ≠ '/' ∧ isQuote c = false) (t : Text) :
    Cut (p.map code) t := by
  induction p with
  | nil => trivial
  | cons c p ih =>
    obtain ⟨hslash, hq⟩ := h c List.mem_cons_self
    exact ⟨hq, firm_code hslash _, ih fun d hd => h d (List.mem_cons_of_mem c hd)⟩

/-- Blanks are code, whatever follows. -/
theorem cut_map_code_of_blank {p : Text} (h : Text.blank p) (t : Text) : Cut (p.map code) t :=
  cut_map_code (fun c hc => ne_slash_of_isBlank (List.all_eq_true.1 h c hc)) t

theorem cut_lineFeed (t : Text) : Cut [code '\n'] t :=
  cut_map_code_of_blank (p := ['\n']) (by decide) t

theorem flatMap_text_map_code (p : Text) : (p.map code).flatMap text = p := by
  induction p with
  | nil => rfl
  | cons c p ih => rw [List.map_cons, List.flatMap_cons, ih]; rfl

theorem flatMap_masked_map_code (p : Text) : (p.map code).flatMap masked = p := by
  induction p with
  | nil => rfl
  | cons c p ih => rw [List.map_cons, List.flatMap_cons, ih]; rfl

theorem length_flatMap_masked (ls : List Lexeme) :
    (ls.flatMap masked).length = (ls.flatMap text).length := by
  simp [List.length_flatMap]

/-- Nothing of a block comment is seen. -/
theorem blank_masked_blockComment (body : Text) : Text.blank (blockComment body).masked := by
  have hspace : isBlank ' ' = true := by decide
  rw [Text.blank, List.all_eq_true]
  intro c hc
  simp only [masked, List.mem_cons, List.mem_append, List.mem_map] at hc
  rcases hc with rfl | rfl | ⟨d, -, rfl⟩ | rfl | rfl | hc
  · exact hspace
  · exact hspace
  · split <;> decide
  · exact hspace
  · exact hspace
  · cases hc

/-- Nothing of a line comment is seen. -/
theorem blank_masked_lineComment (body : Text) : Text.blank (lineComment body).masked := by
  have hspace : isBlank ' ' = true := by decide
  rw [Text.blank, List.all_eq_true]
  intro c hc
  simp only [masked, List.mem_cons, List.mem_map] at hc
  rcases hc with rfl | rfl | ⟨d, -, rfl⟩ <;> exact hspace

/-- Only code starts with a character that is neither a slash nor a quote. -/
theorem eq_code_of_head? {l : Lexeme} {c : Char} (hc : c ≠ '/') (hq : isQuote c = false) {t : Text}
    (hw : l.WellFormed) (h : (l.text ++ t).head? = some c) : l = code c := by
  cases l with
  | code d => simpa [text] using h
  | lineComment body => exact absurd (by simpa [text, eq_comm] using h) hc
  | blockComment body => exact absurd (by simpa [text, eq_comm] using h) hc
  | literal quote body =>
    obtain rfl : quote = c := by simpa [text] using h
    exact absurd hw.1 (by simp [hq])

/-- Blanks at the start of a cut are code. -/
theorem exists_eq_map_code_append {ls : List Lexeme} {t p u : Text} (h : Cut ls t)
    (hp : Text.blank p) (he : ls.flatMap text = p ++ u) :
    ∃ ks, ls = p.map code ++ ks ∧ ks.flatMap text = u := by
  induction p generalizing ls with
  | nil => exact ⟨ls, rfl, he⟩
  | cons c p ih =>
    rw [Text.blank, List.all_cons, Bool.and_eq_true] at hp
    cases ls with
    | nil => simp at he
    | cons l ls =>
      obtain ⟨hw, -, hcut⟩ := h
      rw [List.flatMap_cons] at he
      obtain ⟨hc, hq⟩ := ne_slash_of_isBlank hp.1
      obtain rfl := eq_code_of_head? hc hq hw (by rw [he]; rfl)
      obtain ⟨ks, rfl, hks⟩ := ih hcut hp.2 (List.cons.inj he).2
      exact ⟨ks, rfl, hks⟩

theorem text_ne_nil (l : Lexeme) : l.text ≠ [] := by cases l <;> simp [text]

theorem flatMap_text_eq_nil {ls : List Lexeme} : ls.flatMap text = [] ↔ ls = [] := by
  cases ls <;> simp [text_ne_nil]

/-- A cut that writes a blank text is code. -/
theorem eq_map_code_of_blank {ls : List Lexeme} {t : Text} (h : Cut ls t)
    (hp : Text.blank (ls.flatMap text)) : ls = (ls.flatMap text).map code := by
  obtain ⟨ks, he, hks⟩ := exists_eq_map_code_append h hp (List.append_nil _).symm
  rw [flatMap_text_eq_nil] at hks
  rwa [hks, List.append_nil] at he

/-- No blank ends a lexeme other than code and line comments. -/
theorem isBlank_getLast {l : Lexeme} (hw : l.WellFormed) {c : Char} (hc : l.text.getLast? = some c)
    (hb : isBlank c) : l = code c ∨ ∃ body, l = lineComment body := by
  obtain ⟨hslash, hq⟩ := ne_slash_of_isBlank hb
  cases l with
  | code d => exact .inl (by simpa [text] using hc)
  | lineComment body => exact .inr ⟨body, rfl⟩
  | blockComment body =>
    exact absurd (by simpa [text, List.getLast?_cons, eq_comm] using hc) hslash
  | literal quote body =>
    obtain rfl : quote = c := by simpa [text, List.getLast?_cons] using hc
    exact absurd hw.1 (by simp [hq])

/-- Blanks at the end of a cut are code, unless they stand in a line comment: that is so if they
start with a line feed, or if what follows is on the same line. -/
theorem exists_eq_append_map_code {ls : List Lexeme} {t p u : Text} (h : Cut ls t)
    (hp : Text.blank p) (he : ls.flatMap text = u ++ p)
    (hn : p.head? = some '\n' ∨ '\n' ∉ p ∧ ∃ c ∈ t.head?, c ≠ '\n') :
    ∃ ks, ls = ks ++ p.map code ∧ ks.flatMap text = u := by
  induction ls generalizing u with
  | nil =>
    obtain ⟨rfl, rfl⟩ : u = [] ∧ p = [] := by simpa using he
    exact ⟨[], rfl, rfl⟩
  | cons l ls ih =>
    obtain ⟨hw, hb, hcut⟩ := h
    rw [List.flatMap_cons] at he
    -- the blanks start within the later lexemes, or within this one
    rcases List.append_eq_append_iff.1 he with ⟨v, rfl, hv⟩ | ⟨v, hv, rfl⟩
    · obtain ⟨ks, rfl, hks⟩ := ih hcut hv
      exact ⟨l :: ks, rfl, by rw [List.flatMap_cons, hks]⟩
    · rw [Text.blank, List.all_append, Bool.and_eq_true] at hp
      have hls := eq_map_code_of_blank hcut hp.2
      cases hlast : v.getLast? with
      | none =>
        obtain rfl := List.getLast?_eq_none_iff.1 hlast
        exact ⟨[l], by rw [List.nil_append, ← hls]; rfl, by simpa using hv⟩
      | some c =>
        have hc : l.text.getLast? = some c := by rw [hv, List.getLast?_append, hlast]; rfl
        have hblank := List.all_eq_true.1 hp.1 c (List.mem_of_getLast? hlast)
        rcases isBlank_getLast hw hc hblank with rfl | ⟨body, rfl⟩
        · obtain ⟨rfl, rfl⟩ : u = [] ∧ v = [c] := by
            rcases List.singleton_eq_append_iff.1 hv with hv | ⟨-, rfl⟩
            · exact hv
            · cases hlast
          exact ⟨[], by rw [List.map_append, ← hls]; rfl, rfl⟩
        · -- the line comment would go on up to a line feed
          exfalso
          rcases hn with hn | ⟨hn, d, hd, hdn⟩
          · have hmem : '\n' ∈ (lineComment body).text := by
              cases v with
              | nil => cases hlast
              | cons e v =>
                obtain rfl : e = '\n' := by simpa using hn
                rw [hv]
                simp
            exact hw (by simpa [text] using hmem)
          · cases hrest : ls.flatMap text with
            | nil => exact hdn (hb d (by rwa [hrest]))
            | cons e rest =>
              obtain rfl := hb e (by rw [hrest]; rfl)
              exact hn (by rw [hrest]; simp)

/-- A character is seen in a masked text as code if it is no blank, no quote and no underscore. -/
def seen (c : Char) : Bool := !isBlank c && !isQuote c && c != '_'

theorem eq_code_of_mem_masked {l : Lexeme} (hw : l.WellFormed) {c : Char} (hs : seen c)
    (hc : c ∈ l.masked) : l = code c := by
  simp only [seen, Bool.and_eq_true, Bool.not_eq_true', bne_iff_ne] at hs
  obtain ⟨⟨hb, hq⟩, hu⟩ := hs
  have hspace : c ≠ ' ' := by rintro rfl; revert hb; decide
  have hfeed : c ≠ '\n' := by rintro rfl; revert hb; decide
  cases l with
  | code d => simpa [masked, eq_comm] using hc
  | lineComment body =>
    simp only [masked, List.mem_cons, List.mem_map, hspace, false_or] at hc
    obtain ⟨d, -, hd⟩ := hc
    exact absurd hd.symm hspace
  | blockComment body =>
    simp only [masked, List.mem_cons, List.mem_append, List.mem_map, List.not_mem_nil, hspace,
      false_or, or_false] at hc
    obtain ⟨d, -, hd⟩ := hc
    split at hd
    · exact absurd hd.symm hfeed
    · exact absurd hd.symm hspace
  | literal quote body =>
    have hne : c ≠ quote := by rintro rfl; simp [hw.1] at hq
    simp only [masked, List.mem_cons, List.mem_append, List.mem_map, List.not_mem_nil, hne,
      false_or, or_false] at hc
    obtain ⟨d, -, hd⟩ := hc
    exact absurd hd.symm hu

/-- Where code is seen, the lexemes can be split. -/
theorem exists_eq_append_code {ls : List Lexeme} {t a b : Text} {c : Char} (h : Cut ls t)
    (hs : seen c) (he : ls.flatMap masked = a ++ c :: b) :
    ∃ ks js, ls = ks ++ code c :: js ∧ ks.flatMap masked = a ∧ js.flatMap masked = b := by
  induction ls generalizing a with
  | nil => simp at he
  | cons l ls ih =>
    obtain ⟨hw, -, hcut⟩ := h
    rw [List.flatMap_cons] at he
    rcases List.append_eq_append_iff.1 he with ⟨v, rfl, hv⟩ | ⟨v, hv, he⟩
    · obtain ⟨ks, js, rfl, rfl, rfl⟩ := ih hcut hv
      exact ⟨l :: ks, js, rfl, rfl, rfl⟩
    · cases v with
      | nil =>
        obtain ⟨ks, js, rfl, hks, rfl⟩ := ih hcut (a := []) he.symm
        exact ⟨l :: ks, js, rfl, by simpa [hks] using hv, rfl⟩
      | cons d v =>
        -- the character lies within the first lexeme, which is nothing else then
        obtain ⟨rfl, rfl⟩ := List.cons.inj he
        obtain rfl := eq_code_of_mem_masked hw hs (by rw [hv]; simp)
        obtain ⟨rfl, rfl⟩ : a = [] ∧ v = [] := by
          simpa [masked, List.singleton_eq_append_iff] using hv
        exact ⟨[], ls, rfl, rfl, rfl⟩

end Lexeme

/-! ### Scanning -/

/-- A lexeme that closes and is not read on is what is cut off first. -/
theorem scanFrom_text_append {l : Lexeme} {t : Text} (hw : l.WellFormed) (hb : l.EndsBefore t)
    (offset : Nat) :
    scanFrom offset (l.text ++ t) = (scanFrom (offset + l.text.length) t).map (l :: ·) := by
  cases l with
  | code c =>
    have h1 : ∀ u, c = '/' → t = '/' :: u → False := fun u hc ht => (hb hc).1 (by rw [ht]; rfl)
    have h2 : ∀ u, c = '/' → t = '*' :: u → False := fun u hc ht => (hb hc).2 (by rw [ht]; rfl)
    have hq : ¬ isQuote c = true := by rw [show isQuote c = false from hw]; simp
    exact (scanFrom.eq_4 offset c t h1 h2).trans (if_neg hq)
  | lineComment body =>
    have hall : ∀ c ∈ body, decide (c ≠ '\n') = true := fun c hc =>
      decide_eq_true fun he => hw (he ▸ hc)
    have hstop : t.takeWhile (· ≠ '\n') = [] ∧ t.dropWhile (· ≠ '\n') = t := by
      cases t with
      | nil => simp
      | cons c t => simp [hb c rfl]
    have hlen : offset + (Lexeme.lineComment body).text.length = offset + 2 + body.length := by
      simp [Lexeme.text]
      omega
    rw [hlen]
    simp only [Lexeme.text, List.cons_append]
    rw [scanFrom.eq_2, List.takeWhile_append_of_pos hall, List.dropWhile_append_of_pos hall,
      hstop.1, hstop.2, List.append_nil]
  | blockComment body =>
    have hs : splitBlockComment (body ++ '*' :: '/' :: t) = some (body, t) := by
      simpa using splitBlockComment_append (u := body ++ ['*', '/']) hw t
    have hlen : offset + (Lexeme.blockComment body).text.length = offset + 4 + body.length := by
      simp [Lexeme.text]
      omega
    rw [hlen]
    simp only [Lexeme.text, List.cons_append, List.append_assoc, List.nil_append]
    rw [scanFrom.eq_3]
    split
    · rename_i h
      rw [hs] at h
      cases h
    · rename_i h
      rw [hs] at h
      cases h
      rfl
  | literal quote body =>
    obtain ⟨hq, hw⟩ := hw
    have hne := ne_backslash_of_isQuote hq
    have hs := hw.splitLiteral_append hne t
    have hslash := ne_slash_of_isQuote hq
    have hlen : offset + (Lexeme.literal quote body).text.length = offset + 2 + body.length := by
      simp [Lexeme.text]
      omega
    rw [hlen]
    simp only [Lexeme.text, List.cons_append, List.append_assoc, List.nil_append]
    rw [scanFrom.eq_4 _ _ _ (fun _ h => absurd h hslash) (fun _ h => absurd h hslash), if_pos hq]
    split
    · rename_i h
      rw [hs] at h
      cases h
    · rename_i h
      rw [hs] at h
      cases h
      rfl

/-- A literal that never closes stops the scan. -/
theorem scanFrom_of_splitLiteral_none {quote : Char} (hq : isQuote quote) {t : Text}
    (h : splitLiteral quote t = none) (offset : Nat) :
    scanFrom offset (quote :: t) = .error ⟨.literal, offset⟩ := by
  have hslash := ne_slash_of_isQuote hq
  rw [scanFrom.eq_4 _ _ _ (fun _ h => absurd h hslash) (fun _ h => absurd h hslash), if_pos hq]
  split
  · rfl
  · rename_i heq
    rw [h] at heq
    cases heq

/-- A row that is a cut is cut off first, and what follows is scanned after it. -/
theorem scanFrom_append {ls : List Lexeme} {t : Text} (h : Lexeme.Cut ls t) (offset : Nat) :
    scanFrom offset (ls.flatMap Lexeme.text ++ t) =
      (scanFrom (offset + (ls.flatMap Lexeme.text).length) t).map (ls ++ ·) := by
  induction ls generalizing offset with
  | nil => cases hs : scanFrom offset t <;> simp [hs, Except.map]
  | cons l ls ih =>
    obtain ⟨hw, hb, hc⟩ := h
    rw [List.flatMap_cons, List.append_assoc, scanFrom_text_append hw hb, ih hc,
      List.length_append, ← Nat.add_assoc]
    cases scanFrom (offset + l.text.length + (ls.flatMap Lexeme.text).length) t <;> rfl

/-- A line comment runs up to the end of its line. -/
theorem Lexeme.lineComment_ends (t : Text) :
    (lineComment (t.takeWhile (· ≠ '\n'))).WellFormed ∧
      (lineComment (t.takeWhile (· ≠ '\n'))).EndsBefore (t.dropWhile (· ≠ '\n')) := by
  refine ⟨fun hn => ?_, fun c hc => ?_⟩
  · simpa using List.all_eq_true.1 (List.all_takeWhile (l := t)) _ hn
  · simpa using eq_false_of_head?_dropWhile hc

/-- A character after which no comment starts is code. -/
theorem Lexeme.code_ends {c : Char} {t : Text} (h1 : ∀ u, c = '/' → t = '/' :: u → False)
    (h2 : ∀ u, c = '/' → t = '*' :: u → False) : (code c).EndsBefore t := by
  intro hc
  cases t with
  | nil => simp
  | cons d t =>
    constructor
    · intro hd
      exact h1 t hc (by simpa using hd)
    · intro hd
      exact h2 t hc (by simpa using hd)

private theorem cut_of_map {offset : Nat} {t : Text} {l : Lexeme} {ls : List Lexeme}
    (ih : ∀ {ks}, scanFrom offset t = .ok ks → Lexeme.Cut ks []) (hw : l.WellFormed)
    (hb : l.EndsBefore t) (h : (scanFrom offset t).map (l :: ·) = .ok ls) :
    Lexeme.Cut ls [] := by
  obtain ⟨later, hs, rfl⟩ := map_eq_ok_iff.1 h
  refine ⟨hw, ?_, ih hs⟩
  rwa [flatMap_text_of_scanFrom hs, List.append_nil]

/-- What is cut off is a cut. -/
theorem cut_of_scanFrom {offset : Nat} {t : Text} {ls : List Lexeme}
    (h : scanFrom offset t = .ok ls) : Lexeme.Cut ls [] := by
  fun_induction scanFrom offset t generalizing ls with
  | case1 => cases h; trivial
  | case2 offset t =>
    rename_i ih
    obtain ⟨hw, hb⟩ := Lexeme.lineComment_ends t
    exact cut_of_map ih hw hb h
  | case3 => cases h
  | case4 offset t body rest hb ih =>
    have hw : (Lexeme.blockComment body).WellFormed := splitBlockComment_closed hb
    exact cut_of_map ih hw trivial h
  | case5 => cases h
  | case6 offset c t _ _ hq body rest hl ih =>
    have hw : (Lexeme.literal c body).WellFormed := ⟨hq, inside_of_splitLiteral hl⟩
    exact cut_of_map ih hw trivial h
  | case7 offset c t h1 h2 hq ih =>
    have hw : (Lexeme.code c).WellFormed := Bool.eq_false_iff.2 hq
    exact cut_of_map ih hw (Lexeme.code_ends h1 h2) h

/-- The lexemes of a text are those that write it and are a cut. -/
theorem scan_eq_ok_iff {t : Text} {ls : List Lexeme} :
    scan t = .ok ls ↔ ls.flatMap Lexeme.text = t ∧ Lexeme.Cut ls [] := by
  constructor
  · intro h
    exact ⟨flatMap_text_of_scanFrom h, cut_of_scanFrom h⟩
  · rintro ⟨rfl, h⟩
    have hs := scanFrom_append h 0
    rw [List.append_nil, scanFrom] at hs
    rw [scan, hs]
    simp [Except.map]

/-- The masked reading of a text is that of the cut which writes it. -/
theorem mask_eq_ok {t : Text} {ls : List Lexeme} (ht : ls.flatMap Lexeme.text = t)
    (h : Lexeme.Cut ls []) : mask t = .ok (ls.flatMap Lexeme.masked) := by
  rw [mask, scan_eq_ok_iff.2 ⟨ht, h⟩]
  rfl

end Flattener
