import Flattener.Proofs.Automaton

/-!
# What a masked text shows

A masked text is as long as the text it stands for, so offsets mean the same in both. Lines need
not. Which line feeds are seen is a matter of single steps of the automaton: all are but those in
literals, and those can only stand there after a backslash (`Automaton.lineFeeds_of_mask`).
`Automaton.mask_takenFeed` is the shortest text with such a line feed.

A masked text is masked already (`mask_mask`). Every literal in it is a literal with another inside,
and every comment is a row of blanks in code (`Lexeme.veiled`). No slash comes to stand before a
slash or a star by this, so these are the lexemes into which the scanner cuts it
(`Lexeme.cut_flatMap_veiled`).
-/

namespace Flattener

/-! ### Line feeds -/

theorem lineAt_succ (t : Text) (i : Nat) :
    lineAt t (i + 1) = lineAt t i + if t[i]? = some '\n' then 1 else 0 := by
  rw [lineAt, lineAt, Text.lineFeeds, Text.lineFeeds, List.take_add_one, List.count_append,
    Nat.add_right_comm]
  congr 1
  cases t[i]? with
  | none => rfl
  | some c =>
    rw [Option.toList_some, List.count_singleton]
    simp

/-- Two texts have the same lines exactly if they have line feeds at the same places. -/
theorem forall_lineAt_eq_iff {t m : Text} : (∀ i, lineAt m i = lineAt t i) ↔
    ∀ i : Nat, m[i]? = some '\n' ↔ t[i]? = some '\n' := by
  constructor
  · intro h i
    have hstep := h (i + 1)
    rw [lineAt_succ, lineAt_succ, h i, Nat.add_left_cancel_iff] at hstep
    constructor
    · intro hm
      by_contra ht
      rw [if_pos hm, if_neg ht] at hstep
      cases hstep
    · intro ht
      by_contra hm
      rw [if_neg hm, if_pos ht] at hstep
      cases hstep
  · intro h i
    induction i with
    | zero => rfl
    | succ i ih => rw [lineAt_succ, lineAt_succ, ih, if_congr (h i) rfl rfl]

namespace Automaton

/-- After a backslash in a literal. -/
def State.escapes : State → Bool
  | escape _ => true
  | _ => false

/-- The character at `i` stands in a literal and is taken by a backslash. -/
def taken (t : Text) (i : Nat) : Bool := (stateAt t i).escapes

variable {t m : Text}

theorem getElem?_mask (h : mask t = .ok m) (i : Nat) : m[i]? = t[i]?.map (partAt t i).mask := by
  rw [(shown_of_mask h).1, getElem?_shown]
  rfl

theorem stateAt_succ {i : Nat} {c : Char} (h : t[i]? = some c) :
    stateAt t (i + 1) = (stateAt t i).next c := by
  rw [stateAt, List.take_add_one, h, State.after_append]
  rfl

/-- In a text that can be masked no literal is broken. -/
theorem stateAt_ne_broken (h : mask t = .ok m) (i : Nat) : stateAt t i ≠ .broken := by
  intro hb
  have hclosed := (shown_of_mask h).2
  rw [← List.take_append_drop i t, State.after_append, ← stateAt, hb, State.after_broken] at hclosed
  cases hclosed

/-- No character but a line feed is shown as one. -/
theorem eq_lineFeed_of_mask {p : Part} {c : Char} (h : p.mask c = '\n') : c = '\n' := by
  cases p with
  | code => exact h
  | lineComment => exact absurd (show ' ' = '\n' from h) (by decide)
  | blockComment =>
    by_contra hc
    rw [Part.mask, if_neg hc] at h
    exact absurd h (by decide)
  | inside => exact absurd (show '_' = '\n' from h) (by decide)

/-- A line feed that does not break a literal is shown unless a backslash takes it. -/
theorem mask_lineFeed_iff {s : State} (h : s.next '\n' ≠ .broken) (later : State) :
    (partOf s (s.next '\n') later).mask '\n' = '\n' ↔ s.escapes = false := by
  cases s with
  | literal quote =>
    by_cases hq : '\n' = quote
    · have hnext : (State.literal quote).next '\n' = .code := if_pos hq
      rw [hnext]
      exact ⟨fun _ => rfl, fun _ => rfl⟩
    · exact absurd (if_neg hq) h
  | escape quote => exact ⟨fun he => absurd (show '_' = '\n' from he) (by decide), nofun⟩
  | broken => exact absurd rfl h
  | _ => exact ⟨fun _ => rfl, fun _ => rfl⟩

/-- The line feeds of the masked text are those of the text that no backslash takes. -/
theorem getElem?_mask_eq_lineFeed_iff (h : mask t = .ok m) (i : Nat) :
    m[i]? = some '\n' ↔ t[i]? = some '\n' ∧ taken t i = false := by
  rw [getElem?_mask h]
  constructor
  · intro hi
    obtain ⟨c, hc, hshown⟩ := Option.map_eq_some_iff.1 hi
    obtain rfl := eq_lineFeed_of_mask hshown
    have hnext := stateAt_succ hc
    rw [partAt, hnext] at hshown
    exact ⟨hc, (mask_lineFeed_iff (hnext ▸ stateAt_ne_broken h (i + 1)) _).1 hshown⟩
  · rintro ⟨hc, htaken⟩
    have hnext := stateAt_succ hc
    rw [hc, Option.map_some, partAt, hnext]
    exact congrArg some ((mask_lineFeed_iff (hnext ▸ stateAt_ne_broken h (i + 1)) _).2 htaken)

/-- A line feed is seen in the masked text exactly if no backslash takes it in a literal. So the
masked text has the line feeds of the text at the same places, and with them the same lines, exactly
if no line feed is taken. -/
theorem lineFeeds_of_mask (h : mask t = .ok m) :
    (∀ i, m[i]? = some '\n' ↔ t[i]? = some '\n' ∧ taken t i = false) ∧
    ((∀ i : Nat, m[i]? = some '\n' ↔ t[i]? = some '\n') ↔
      ∀ i, t[i]? = some '\n' → taken t i = false) ∧
    ((∀ i, lineAt m i = lineAt t i) ↔ ∀ i, t[i]? = some '\n' → taken t i = false) := by
  have hfeeds := getElem?_mask_eq_lineFeed_iff h
  have hall : (∀ i : Nat, m[i]? = some '\n' ↔ t[i]? = some '\n') ↔
      ∀ i, t[i]? = some '\n' → taken t i = false := by
    refine forall_congr' fun i => ?_
    rw [hfeeds i]
    exact and_iff_left_iff_imp
  exact ⟨hfeeds, hall, forall_lineAt_eq_iff.trans hall⟩

/-- A text with line feeds in a comment, in a literal and in code. -/
def threeFeeds : Text := "/*\n*/'\\\n'\n".toList

theorem lineFeeds_of_mask_threeFeeds :
    mask threeFeeds = .ok "  \n  '__'\n".toList ∧ threeFeeds[7]? = some '\n' ∧
      "  \n  '__'\n".toList[2]? = some '\n' ∧ "  \n  '__'\n".toList[7]? ≠ some '\n' ∧
      "  \n  '__'\n".toList[9]? = some '\n' := by
  have hm : mask threeFeeds = .ok "  \n  '__'\n".toList := by decide +kernel
  obtain ⟨hfeeds, -⟩ := lineFeeds_of_mask hm
  refine ⟨hm, by decide, (hfeeds 2).2 ⟨by decide, by decide⟩, fun hi => ?_,
    (hfeeds 9).2 ⟨by decide, by decide⟩⟩
  exact absurd ((hfeeds 7).1 hi).2 (by decide)

/-- A literal that holds a line feed, which a backslash takes. -/
def takenFeed : Text := "'\\\n'".toList

/-- The line feed of a literal is hidden, and the line after it is lost. -/
theorem mask_takenFeed :
    mask takenFeed = .ok "'__'".toList ∧ takenFeed[2]? = some '\n' ∧
      "'__'".toList[2]? ≠ some '\n' ∧ lineAt takenFeed 3 = 2 ∧ lineAt "'__'".toList 3 = 1 := by
  decide +kernel

end Automaton

/-! ### Masking again -/

namespace Lexeme

/-- The lexemes of a masked lexeme. -/
def veiled : Lexeme → List Lexeme
  | code c => [code c]
  | lineComment body => (lineComment body).masked.map code
  | blockComment body => (blockComment body).masked.map code
  | literal quote body => [literal quote (body.map fun _ => '_')]

theorem flatMap_text_veiled (l : Lexeme) : l.veiled.flatMap text = l.masked := by
  cases l with
  | code c => rfl
  | lineComment body => exact flatMap_text_map_code _
  | blockComment body => exact flatMap_text_map_code _
  | literal quote body => exact List.append_nil _

theorem flatMap_masked_veiled (l : Lexeme) : l.veiled.flatMap masked = l.masked := by
  cases l with
  | code c => rfl
  | lineComment body => exact flatMap_masked_map_code _
  | blockComment body => exact flatMap_masked_map_code _
  | literal quote body => simp [veiled, masked]

/-- Masking leaves the first character as it is, or makes it a space. -/
theorem head?_flatMap_masked (ls : List Lexeme) (t : Text) :
    (ls.flatMap masked ++ t).head? = (ls.flatMap text ++ t).head? ∨
      (ls.flatMap masked ++ t).head? = some ' ' := by
  cases ls with
  | nil => exact .inl rfl
  | cons l ls =>
    cases l with
    | code c => exact .inl rfl
    | lineComment body => exact .inr rfl
    | blockComment body => exact .inr rfl
    | literal quote body => exact .inl rfl

theorem inside_map_hidden {quote : Char} (h : isQuote quote) (body : Text) :
    Inside quote (body.map fun _ => '_') := by
  have hb : '_' ≠ '\\' := by decide
  have hn : '_' ≠ '\n' := by decide
  have hq : '_' ≠ quote := by
    rintro rfl
    simp [isQuote] at h
  induction body with
  | nil => exact .nil
  | cons c body ih => exact .plain hb hq hn ih

/-- Whatever is not read on is not read on when the text after it is masked. -/
theorem cut_veiled {l : Lexeme} {t t' : Text} (hw : l.WellFormed) (hb : l.EndsBefore t)
    (ht : t'.head? = t.head? ∨ t'.head? = some ' ') : Cut l.veiled t' := by
  cases l with
  | code c =>
    refine ⟨hw, fun hc => ?_, trivial⟩
    rcases ht with ht | ht
    · rw [List.flatMap_nil, List.nil_append, ht]
      exact hb hc
    · rw [List.flatMap_nil, List.nil_append, ht]
      exact ⟨by decide, by decide⟩
  | lineComment body => exact cut_map_code_of_blank (blank_masked_lineComment body) t'
  | blockComment body => exact cut_map_code_of_blank (blank_masked_blockComment body) t'
  | literal quote body => exact ⟨⟨hw.1, inside_map_hidden hw.1 body⟩, trivial, trivial⟩

theorem flatMap_text_flatMap_veiled (ls : List Lexeme) :
    (ls.flatMap veiled).flatMap text = ls.flatMap masked := by
  rw [List.flatMap_assoc]
  exact List.flatMap_congr fun l _ => flatMap_text_veiled l

theorem flatMap_masked_flatMap_veiled (ls : List Lexeme) :
    (ls.flatMap veiled).flatMap masked = ls.flatMap masked := by
  rw [List.flatMap_assoc]
  exact List.flatMap_congr fun l _ => flatMap_masked_veiled l

/-- The lexemes of a masked text are those of its lexemes. -/
theorem cut_flatMap_veiled {ls : List Lexeme} {t : Text} (h : Cut ls t) :
    Cut (ls.flatMap veiled) t := by
  induction ls with
  | nil => trivial
  | cons l ls ih =>
    obtain ⟨hw, hb, hcut⟩ := h
    rw [List.flatMap_cons, cut_append, flatMap_text_flatMap_veiled]
    exact ⟨cut_veiled hw hb (head?_flatMap_masked ls t), ih hcut⟩

end Lexeme

/-- A masked text is masked already. It is as long as the text, and each of its characters is that
of the text, a space or an underscore. -/
theorem mask_mask {t m : Text} (h : mask t = .ok m) :
    mask m = .ok m ∧ m.length = t.length ∧
      ∀ (i : Nat) (c : Char), t[i]? = some c →
        ∃ d, m[i]? = some d ∧ (d = c ∨ d = ' ' ∨ d = '_') := by
  refine ⟨?_, length_of_mask h, fun i c hc => ?_⟩
  · obtain ⟨ls, hs, rfl⟩ := map_eq_ok_iff.1 h
    obtain ⟨-, hcut⟩ := scan_eq_ok_iff.1 hs
    have hagain := mask_eq_ok (Lexeme.flatMap_text_flatMap_veiled ls)
      (Lexeme.cut_flatMap_veiled hcut)
    rwa [Lexeme.flatMap_masked_flatMap_veiled] at hagain
  · refine ⟨(Automaton.partAt t i).mask c, ?_, ?_⟩
    · rw [Automaton.getElem?_mask h, hc]
      rfl
    · cases Automaton.partAt t i with
      | code => exact .inl rfl
      | lineComment => exact .inr (.inl rfl)
      | blockComment =>
        by_cases hn : c = '\n'
        · exact .inl ((if_pos hn).trans hn.symm)
        · exact .inr (.inl (if_neg hn))
      | inside => exact .inr (.inr rfl)

/-- A text with marks of comments and literals inside one another. -/
def nestedMarks : Text := "/*/'*/ '\\'/*' a/b //'/*".toList

theorem mask_mask_nestedMarks :
    mask nestedMarks = .ok "       '____' a/b      ".toList ∧
      mask "       '____' a/b      ".toList = .ok "       '____' a/b      ".toList := by
  have h : mask nestedMarks = .ok "       '____' a/b      ".toList := by decide +kernel
  exact ⟨h, (mask_mask h).1⟩

end Flattener
