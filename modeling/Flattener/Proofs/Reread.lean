import Mathlib.Data.List.Basic
import Flattener.Proofs.Keywords

/-!
# Reading with other line breaks

A text whose line breaks are unified has other blanks than before: a carriage return becomes a
line feed, two characters become one, and what was a blank of a comment may be one of code. This
module says that the search for directives does not see the difference.

`Reread` relates the cells of a text, each with its character and its masked character, to the
cells of the text with unified line breaks, as long as runs of masked blanks stay runs of masked
blanks and everything else keeps its place. Whatever is read off the one text is read off the
other: the parts of a statement (`Carries`), its path (`CarriedPath`), what it says
(`Reread.reading`), and in the end all directives (`Directive.Found.reread`).
-/

namespace Flattener

/-! ### Unified line breaks -/

namespace Text

/-- Only a carriage return is changed. -/
theorem unifyNewlines_cons {c : Char} (h : c ≠ '\r') (t : Text) :
    unifyNewlines (c :: t) = c :: unifyNewlines t :=
  unifyNewlines.eq_4 c t (fun _ hc _ => h hc) h

/-- A carriage return that no line feed follows becomes a line feed. -/
theorem unifyNewlines_return {t : Text} (h : t.head? ≠ some '\n') :
    unifyNewlines ('\r' :: t) = '\n' :: unifyNewlines t :=
  unifyNewlines.eq_3 t fun u hu => h (by rw [hu]; rfl)

/-- Line breaks are unified piece by piece, unless a piece ends within a line break. -/
theorem unifyNewlines_append {a b : Text} (h : a.getLast? = some '\r' → b.head? ≠ some '\n') :
    unifyNewlines (a ++ b) = unifyNewlines a ++ unifyNewlines b := by
  fun_induction unifyNewlines a with
  | case1 => rfl
  | case2 a ih =>
    rw [List.cons_append, List.cons_append, unifyNewlines, ih, List.cons_append]
    exact fun ha => h (by simp [List.getLast?_cons, ha])
  | case3 a hne ih =>
    rw [List.cons_append, unifyNewlines_return, ih, List.cons_append]
    · exact fun ha => h (by simp [List.getLast?_cons, ha])
    · cases a with
      | nil => exact h rfl
      | cons d a =>
        intro hd
        obtain rfl : d = '\n' := by simpa using hd
        exact hne a rfl
  | case4 c a _ hc ih =>
    rw [List.cons_append, unifyNewlines_cons hc, ih, List.cons_append]
    exact fun ha => h (by simp [List.getLast?_cons, ha])

/-- No text vanishes when its line breaks are unified. -/
theorem unifyNewlines_eq_nil {t : Text} : unifyNewlines t = [] ↔ t = [] := by
  fun_cases unifyNewlines t <;> simp

/-- A text without carriage returns has unified line breaks. -/
theorem unifyNewlines_eq_self {t : Text} (h : '\r' ∉ t) : unifyNewlines t = t := by
  induction t with
  | nil => rfl
  | cons c t ih =>
    rw [List.mem_cons, not_or] at h
    rw [unifyNewlines_cons (Ne.symm h.1), ih h.2]

/-- No carriage return is left. -/
theorem return_notMem_unifyNewlines (t : Text) : '\r' ∉ unifyNewlines t := by
  fun_induction unifyNewlines t with
  | case1 => simp
  | case2 t ih => simpa using ih
  | case3 t _ ih => simpa using ih
  | case4 c t _ hc ih => simpa using ⟨Ne.symm hc, ih⟩

/-- What is said of a text before a mark is said of the text that ends there. -/
theorem unifyNewlines_cut {u u' v w : Text} {q : Char} (hq : q ≠ '\n')
    (h : unifyNewlines (u ++ (v ++ q :: w)) = u' ++ unifyNewlines (v ++ q :: w)) :
    unifyNewlines (u ++ v) = u' ++ unifyNewlines v := by
  have hhead : (q :: w).head? ≠ some '\n' := by simpa using hq
  rw [← List.append_assoc, unifyNewlines_append fun _ => hhead,
    unifyNewlines_append fun _ => hhead, ← List.append_assoc] at h
  exact List.append_cancel_right h

/-- A word holds no blanks. -/
theorem isBlank_of_mem_words {t w : Text} (hw : w ∈ words t) {c : Char} (hc : c ∈ w) :
    isBlank c = false :=
  eq_false_of_mem_splitOnP (List.mem_of_mem_filter hw) hc

/-- The only blank in a squeezed text is the space. -/
theorem eq_space_or_of_mem_squeeze {t : Text} {c : Char} (h : c ∈ squeeze t) :
    c = ' ' ∨ isBlank c = false := by
  rcases mem_intercalate h with hc | ⟨w, hw, hc⟩
  · exact .inl (List.mem_singleton.1 hc)
  · exact .inr (isBlank_of_mem_words hw hc)

end Text

/-! ### Cells -/

/-- The characters of a source, each as written and masked. -/
abbrev Cells := List (Char × Char)

namespace Cells

/-- The text as written. -/
def written (z : Cells) : Text := z.map Prod.fst

/-- The masked text. -/
def masked (z : Cells) : Text := z.map Prod.snd

@[simp]
theorem written_append (y z : Cells) : written (y ++ z) = written y ++ written z := List.map_append

@[simp]
theorem masked_append (y z : Cells) : masked (y ++ z) = masked y ++ masked z := List.map_append

@[simp]
theorem written_cons (c : Char × Char) (z : Cells) : written (c :: z) = c.1 :: written z := rfl

@[simp]
theorem masked_cons (c : Char × Char) (z : Cells) : masked (c :: z) = c.2 :: masked z := rfl

@[simp]
theorem length_written (z : Cells) : (written z).length = z.length := List.length_map _

@[simp]
theorem length_masked (z : Cells) : (masked z).length = z.length := List.length_map _

end Cells

open Cells

/-- The cells of a text, and the cells of the text with unified line breaks. -/
inductive Reread : Cells → Cells → Prop where
  | nil : Reread [] []
  /-- What is not blank keeps its place; if it is seen, it is seen as written. -/
  | sharp {c c' x : Char} {z z' : Cells} (hx : isBlank x = false) (hc : x ≠ '_' → c = x)
      (hw : Text.unifyNewlines (c :: written z) = c' :: Text.unifyNewlines (written z))
      (h : Reread z z') : Reread ((c, x) :: z) ((c', x) :: z')
  /-- A run of blanks stays a run of blanks. -/
  | blank {b b' z z' : Cells} (hb : b ≠ []) (hb' : b' ≠ []) (hm : Text.blank (masked b))
      (hm' : Text.blank (masked b'))
      (hw : Text.unifyNewlines (written b ++ written z) =
        written b' ++ Text.unifyNewlines (written z))
      (h : Reread z z') : Reread (b ++ z) (b' ++ z')

namespace Reread

/-- The second cells are those of the text with unified line breaks. -/
theorem written_eq {z z' : Cells} (h : Reread z z') :
    written z' = Text.unifyNewlines (written z) := by
  induction h with
  | nil => rfl
  | sharp _ _ hw _ ih => rw [written_cons, written_cons, hw, ih]
  | blank _ _ _ _ hw _ ih => rw [written_append, written_append, hw, ih]

end Reread

/-! ### Parts of a statement -/

/-- What is left of two texts after a part of a statement: nothing of either, or ends of both
that are read alike. -/
inductive Carried (z z' : Cells) : Option Text → Option Text → Prop where
  | stuck : Carried z z' none none
  | left {y y' : Cells} (hy : y <:+ z) (hy' : y' <:+ z') (h : Reread y y') :
    Carried z z' (some (masked y)) (some (masked y'))

/-- A part of a statement is passed over in the same way. -/
def Carries (P : Text → Option Text) : Prop :=
  ∀ z z', Reread z z' → Carried z z' (P (masked z)) (P (masked z'))

/-- A test has the same outcome. -/
def Respects (q : Text → Bool) : Prop := ∀ z z', Reread z z' → q (masked z) = q (masked z')

namespace Carried

/-- Cells that are read alike are left alike before anything has been passed over. -/
theorem refl {z z' : Cells} (h : Reread z z') :
    Carried z z' (some (masked z)) (some (masked z')) :=
  .left (List.suffix_refl z) (List.suffix_refl z') h

/-- What is left at an end of a text is left of the whole. -/
theorem mono {y y' z z' : Cells} {o o' : Option Text} (hy : y <:+ z) (hy' : y' <:+ z')
    (h : Carried y y' o o') : Carried z z' o o' := by
  cases h with
  | stuck => exact .stuck
  | left hx hx' h => exact .left (hx.trans hy) (hx'.trans hy') h

/-- Parts of a statement are passed over one after the other. -/
theorem bind {z z' : Cells} {o o' : Option Text} {P : Text → Option Text}
    (h : Carried z z' o o') (hP : Carries P) : Carried z z' (o.bind P) (o'.bind P) := by
  cases h with
  | stuck => exact .stuck
  | left hy hy' h => exact (hP _ _ h).mono hy hy'

/-- A test of what is left has the same outcome. -/
theorem any {z z' : Cells} {o o' : Option Text} {q : Text → Bool}
    (h : Carried z z' o o') (hq : Respects q) : o.any q = o'.any q := by
  cases h with
  | stuck => rfl
  | left _ _ h => exact hq _ _ h

/-- A test of what is left keeps it in both texts or in none. -/
theorem filter {z z' : Cells} {o o' : Option Text} {q : Text → Bool}
    (h : Carried z z' o o') (hq : Respects q) : Carried z z' (o.filter q) (o'.filter q) := by
  cases h with
  | stuck => exact .stuck
  | @left y y' hy hy' h =>
    have he := hq _ _ h
    cases hm : q (masked y') with
    | false =>
      rw [Option.filter_some_neg (by simp [he, hm]), Option.filter_some_neg (by simp [hm])]
      exact .stuck
    | true =>
      rw [Option.filter_some_pos (by rw [he, hm]), Option.filter_some_pos hm]
      exact .left hy hy' h

end Carried

/-- Two parts in a row that are passed over in the same way are passed over together. -/
theorem Carries.bind {P Q : Text → Option Text} (hP : Carries P) (hQ : Carries Q) :
    Carries fun t => (P t).bind Q := fun _ _ h => (hP _ _ h).bind hQ

/-- A run of blanks starts with a blank. -/
theorem exists_blank_cons {b : Cells} (hb : b ≠ []) (hm : Text.blank (masked b)) :
    ∃ c a, b = c :: a ∧ isBlank c.2 = true := by
  cases b with
  | nil => exact absurd rfl hb
  | cons c a => exact ⟨c, a, rfl, List.all_eq_true.1 hm c.2 (by simp)⟩

namespace Reread

/-- Characters are dropped in the same way, if the test does not tell one blank from another. -/
theorem dropWhile {z z' : Cells} (h : Reread z z') {p : Char → Bool}
    (hp : (∀ c, isBlank c → p c = true) ∨ ∀ c, isBlank c → p c = false) :
    Carried z z' (some ((masked z).dropWhile p)) (some ((masked z').dropWhile p)) := by
  induction h with
  | nil => exact .refl .nil
  | @sharp c c' x z z' hx hc hw h ih =>
    cases hpx : p x with
    | false => simpa [hpx] using Carried.refl (.sharp hx hc hw h)
    | true =>
      simpa [hpx] using ih.mono (List.suffix_cons (c, x) z) (List.suffix_cons (c', x) z')
  | @blank b b' z z' hb hb' hm hm' hw h ih =>
    rcases hp with hp | hp
    · have hall : ∀ c ∈ masked b, p c = true := fun c hc => hp c (List.all_eq_true.1 hm c hc)
      have hall' : ∀ c ∈ masked b', p c = true := fun c hc => hp c (List.all_eq_true.1 hm' c hc)
      rw [masked_append, masked_append, List.dropWhile_append_of_pos hall,
        List.dropWhile_append_of_pos hall']
      exact ih.mono (List.suffix_append b z) (List.suffix_append b' z')
    · have hs := Carried.refl (.blank hb hb' hm hm' hw h)
      obtain ⟨c, a, rfl, hc⟩ := exists_blank_cons hb hm
      obtain ⟨c', a', rfl, hc'⟩ := exists_blank_cons hb' hm'
      simpa [hp _ hc, hp _ hc'] using hs

/-- Blanks at the front are passed over in the same way, though they may differ in number. -/
theorem trimLeft {z z' : Cells} (h : Reread z z') :
    Carried z z' (some (Text.trimLeft (masked z))) (some (Text.trimLeft (masked z'))) :=
  h.dropWhile (.inl fun _ hc => hc)

end Reread

/-- Texts that are read alike are blank together. -/
theorem respects_blank : Respects Text.blank := by
  intro z z' h
  induction h with
  | nil => rfl
  | sharp hx => simp [Text.blank, hx]
  | blank _ _ hm hm' _ _ ih =>
    rw [masked_append, masked_append]
    simp only [Text.blank, List.all_append] at hm hm' ih ⊢
    rw [hm, hm', ih]

/-- Texts that are read alike are empty together: a run of blanks stays one. -/
theorem respects_isEmpty : Respects List.isEmpty := by
  intro z z' h
  cases h with
  | nil => rfl
  | sharp => rfl
  | blank hb hb' hm hm' =>
    obtain ⟨c, a, rfl, -⟩ := exists_blank_cons hb hm
    obtain ⟨c', a', rfl, -⟩ := exists_blank_cons hb' hm'
    rfl

/-- Whether a text starts with a word. -/
theorem respects_word : Respects fun t => !t.head?.any isWordChar := by
  intro z z' h
  cases h with
  | nil => rfl
  | sharp => rfl
  | blank hb hb' hm hm' =>
    obtain ⟨c, a, rfl, hc⟩ := exists_blank_cons hb hm
    obtain ⟨c', a', rfl, hc'⟩ := exists_blank_cons hb' hm'
    simp [isWordChar_of_isBlank hc, isWordChar_of_isBlank hc']

namespace Statement

/-- The rest of a text after a first character with a property. -/
def afterFirst (p : Char → Bool) (t : Text) : Option Text :=
  match t with
  | [] => none
  | c :: t => if p c then some t else none

/-- The first of some characters, none of them a blank, is passed over in the same way. -/
theorem carries_afterFirst {p : Char → Bool} (hp : ∀ c, isBlank c → p c = false) :
    Carries (afterFirst p) := by
  intro z z' h
  cases h with
  | nil => exact .stuck
  | @sharp c c' x z z' hx hc hw h =>
    cases hpx : p x with
    | false => simpa [afterFirst, hpx] using Carried.stuck
    | true =>
      simp only [masked_cons, afterFirst, hpx, if_true]
      exact .left (List.suffix_cons _ _) (List.suffix_cons _ _) h
  | blank hb hb' hm hm' =>
    obtain ⟨c, a, rfl, hc⟩ := exists_blank_cons hb hm
    obtain ⟨c', a', rfl, hc'⟩ := exists_blank_cons hb' hm'
    simpa [afterFirst, hp _ hc, hp _ hc'] using Carried.stuck

/-- A word without blanks is passed over in the same way. -/
theorem carries_after {w : Text} (hw : w.all fun c => !isBlank c) : Carries (after w) := by
  induction w with
  | nil => exact fun z z' h => Carried.refl h
  | cons c w ih =>
    have hstep : after (c :: w) = fun t => (afterFirst (· == c) t).bind (after w) := by
      funext t
      cases t with
      | nil => rfl
      | cons d t =>
        by_cases hd : d = c
        · simp [after, afterFirst, Text.dropPrefix?, hd]
        · simp [after, afterFirst, Text.dropPrefix?, hd, Ne.symm hd]
    rw [List.all_cons, Bool.and_eq_true, Bool.not_eq_true'] at hw
    rw [hstep]
    refine Carries.bind (carries_afterFirst fun d hd => ?_) (ih hw.2)
    rw [beq_eq_false_iff_ne]
    rintro rfl
    simp [hw.1] at hd

/-- At least one blank stands in both texts or in none. -/
theorem carries_afterBlanks : Carries afterBlanks := by
  intro z z' h
  have ht := h.trimLeft
  cases h with
  | nil => exact .stuck
  | @sharp c c' x z z' hx => simpa [afterBlanks, hx] using Carried.stuck
  | blank hb hb' hm hm' =>
    obtain ⟨c, a, rfl, hc⟩ := exists_blank_cons hb hm
    obtain ⟨c', a', rfl, hc'⟩ := exists_blank_cons hb' hm'
    simpa [afterBlanks, Text.trimLeft, hc, hc'] using ht

/-- A name is passed over in the same way. -/
theorem carries_afterIdentifier : Carries afterIdentifier := by
  have hstep : afterIdentifier = fun t =>
      (afterFirst isIdentifierStart t).bind fun t => some (t.dropWhile isIdentifierRest) := by
    funext t
    cases t with
    | nil => rfl
    | cons c t => cases hc : isIdentifierStart c <;> simp [afterIdentifier, afterFirst, hc]
  have hstart : ∀ c, isBlank c → isIdentifierStart c = false := fun c hc => by
    simpa using forall_isBlank (p := fun c => !isIdentifierStart c) (by decide) hc
  have hrest : ∀ c, isBlank c → isIdentifierRest c = false := fun c hc => by
    have hdollar : c ≠ '$' := fun he => by simp [he, isBlank, inRanges, blankRanges] at hc
    simp [isIdentifierRest, isWordChar_of_isBlank hc, hdollar]
  rw [hstep]
  exact Carries.bind (carries_afterFirst hstart) fun z z' h => h.dropWhile (.inr hrest)

/-- A list of symbols is passed over in the same way. -/
theorem carries_afterSymbols : Carries afterSymbols := by
  intro z z' h
  have hbrace : ∀ c, isBlank c → (decide (c ≠ '{') && decide (c ≠ '}')) = true := fun c hc => by
    exact forall_isBlank (p := fun c => decide (c ≠ '{') && decide (c ≠ '}')) (by decide) hc
  have hopen : Carries (after ['{']) := carries_after (by decide)
  have hclose : Carries (after ['}']) := carries_after (by decide)
  exact (hopen _ _ h).bind fun y y' h => (h.dropWhile (.inl hbrace)).bind hclose

/-- Behind a path both texts end or have an alias, or none of them does. -/
theorem respects_isAliasOrEnd : Respects isAliasOrEnd := by
  intro z z' h
  have hlast := fun (y y' : Cells) (h : Reread y y') => (((carries_after (w := "as".toList)
    (by decide) y y' h).bind carries_afterBlanks).bind carries_afterIdentifier).any respects_blank
  have ht := h.trimLeft
  unfold isAliasOrEnd
  generalize Text.trimLeft (masked z) = t at ht
  generalize Text.trimLeft (masked z') = t' at ht
  cases ht with
  | left _ _ h => exact congrArg₂ (· || ·) (respects_isEmpty _ _ h) (hlast _ _ h)

/-! ### The path of a statement -/

/-- Up to a mark that is seen, two texts are read alike, and from it on. -/
inductive CarriedUntil (q : Char) (z z' : Cells) : Option Text → Option Text → Prop where
  | stuck : CarriedUntil q z z' none none
  | found (a a' : Cells) {y y' : Cells} (hz : z = a ++ (q, q) :: y)
      (hz' : z' = a' ++ (q, q) :: y') (ha : Reread a a') (hy : Reread y y') :
    CarriedUntil q z z' (some (masked a)) (some (masked a'))

/-- A mark is not looked for among blanks. -/
theorem untilQuote_blank_append {q : Char} (hq : isBlank q = false) (complete : Text → Bool)
    {b : Text} (hb : Text.blank b) (t : Text) :
    untilQuote q complete (b ++ t) = (untilQuote q complete t).map (b ++ ·) := by
  induction b with
  | nil => simp
  | cons c b ih =>
    rw [Text.blank, List.all_cons, Bool.and_eq_true] at hb
    have hc : c ≠ q := by
      rintro rfl
      simp [hq] at hb
    rw [List.cons_append, untilQuote, if_neg (by simp [hc]), ih hb.2, Option.map_map]
    rfl

/-- Up to a quotation mark behind which a statement may end, both texts are read alike. -/
theorem carriedUntil {q : Char} (hq : isBlank q = false) (hu : q ≠ '_') {complete : Text → Bool}
    (hc : Respects complete) {z z' : Cells} (h : Reread z z') :
    CarriedUntil q z z' (untilQuote q complete (masked z)) (untilQuote q complete (masked z')) := by
  -- the mark is no part of a line break, so both texts can be cut there
  have hn : q ≠ '\n' := by rintro rfl; revert hq; decide
  have hr : q ≠ '\r' := by rintro rfl; revert hq; decide
  induction h with
  | nil => exact .stuck
  | @sharp c c' x z z' hx hcx hw h ih =>
    have hcz := hc _ _ h
    rw [masked_cons, masked_cons, untilQuote, untilQuote, ← hcz]
    by_cases hstop : (decide (x = q) && complete (masked z)) = true
    · rw [if_pos hstop, if_pos hstop]
      rw [Bool.and_eq_true, decide_eq_true_eq] at hstop
      obtain ⟨rfl, -⟩ := hstop
      obtain rfl := hcx hu
      rw [Text.unifyNewlines_cons hr] at hw
      obtain rfl := (List.cons.inj hw).1
      exact .found [] [] rfl rfl .nil h
    · rw [if_neg hstop, if_neg hstop]
      generalize untilQuote q complete (masked z) = o at ih
      generalize untilQuote q complete (masked z') = o' at ih
      cases ih with
      | stuck => exact .stuck
      | found a a' hz hz' ha hy =>
        subst hz hz'
        rw [written_append, written_cons] at hw
        have hs := Reread.sharp hx hcx (@Text.unifyNewlines_cut [c] [c'] _ _ _ hn hw) ha
        exact .found ((c, x) :: a) ((c', x) :: a') rfl rfl hs hy
  | @blank b b' z z' hb hb' hm hm' hw h ih =>
    rw [masked_append, masked_append, untilQuote_blank_append hq _ hm,
      untilQuote_blank_append hq _ hm']
    generalize untilQuote q complete (masked z) = o at ih
    generalize untilQuote q complete (masked z') = o' at ih
    cases ih with
    | stuck => exact .stuck
    | found a a' hz hz' ha hy =>
      subst hz hz'
      rw [written_append a, written_cons] at hw
      have hs := Reread.blank hb hb' hm hm' (Text.unifyNewlines_cut hn hw) ha
      rw [Option.map_some, Option.map_some, ← masked_append, ← masked_append]
      exact .found (b ++ a) (b' ++ a') (by simp) (by simp) hs hy

/-- The path of a statement and the text from it on, found in two texts that are read alike. -/
inductive CarriedPath (z z' : Cells) : Option (Text × Text) → Option (Text × Text) → Prop where
  | stuck : CarriedPath z z' none none
  | found {a a' y y' : Cells} (hz : a ++ y <:+ z) (hz' : a' ++ y' <:+ z') (ha : Reread a a') :
    CarriedPath z z' (some (masked a, masked (a ++ y))) (some (masked a', masked (a' ++ y')))

/-- A path at an end of a text is one of the whole. -/
theorem CarriedPath.mono {y y' z z' : Cells} {o o' : Option (Text × Text)} (hy : y <:+ z)
    (hy' : y' <:+ z') (h : CarriedPath y y' o o') : CarriedPath z z' o o' := by
  cases h with
  | stuck => exact .stuck
  | found hx hx' ha => exact .found (hx.trans hy) (hx'.trans hy') ha

/-- A path is read behind a part that is passed over in the same way. -/
theorem carriedPath_bind {z z' : Cells} {o o' : Option Text}
    {P : Text → Option (Text × Text)} (h : Carried z z' o o')
    (hP : ∀ y y', Reread y y' → CarriedPath y y' (P (masked y)) (P (masked y'))) :
    CarriedPath z z' (o.bind P) (o'.bind P) := by
  cases h with
  | stuck => exact .stuck
  | left hy hy' h => exact (hP _ _ h).mono hy hy'

/-- A quoted path is found at the same place of both texts. -/
theorem carriedPath_quotedPath {complete : Text → Bool} (hc : Respects complete) {z z' : Cells}
    (h : Reread z z') :
    CarriedPath z z' (quotedPath complete (masked z)) (quotedPath complete (masked z')) := by
  cases h with
  | nil => exact .stuck
  | @sharp c c' x z z' hx hcx hw h =>
    by_cases hq : (decide (x = '"') || decide (x = '\'')) = true
    · have hu : x ≠ '_' := by rintro rfl; revert hq; decide
      rw [masked_cons, masked_cons, quotedPath, quotedPath, if_pos hq, if_pos hq]
      have hp := carriedUntil hx hu hc h
      generalize untilQuote x complete (masked z) = o at hp
      generalize untilQuote x complete (masked z') = o' at hp
      cases hp with
      | stuck => exact .stuck
      | found a a' hz hz' ha hy =>
        subst hz hz'
        exact .found (List.suffix_cons _ _) (List.suffix_cons _ _) ha
    · rw [masked_cons, masked_cons, quotedPath, quotedPath, if_neg hq, if_neg hq]
      exact .stuck
  | blank hb hb' hm hm' =>
    have hblank : ∀ c, isBlank c → (decide (c = '"') || decide (c = '\'')) = false := fun c hc => by
      simpa using forall_isBlank (p := fun c => !(decide (c = '"') || decide (c = '\'')))
        (by decide) hc
    obtain ⟨c, a, rfl, hc⟩ := exists_blank_cons hb hm
    obtain ⟨c', a', rfl, hc'⟩ := exists_blank_cons hb' hm'
    simpa [quotedPath, hblank _ hc, hblank _ hc'] using CarriedPath.stuck

theorem carriedPath_direct {z z' : Cells} (h : Reread z z') :
    CarriedPath z z' (direct (masked z)) (direct (masked z')) :=
  carriedPath_bind h.trimLeft fun _ _ h => carriedPath_quotedPath respects_isAliasOrEnd h

theorem carriedPath_wildcard {z z' : Cells} (h : Reread z z') :
    CarriedPath z z' (wildcard (masked z)) (wildcard (masked z')) := by
  have hstar : Carries (after ['*']) := carries_after (by decide)
  have has : Carries (after "as".toList) := carries_after (by decide)
  have hfrom : Carries (after "from".toList) := carries_after (by decide)
  refine carriedPath_bind (h.trimLeft.bind hstar) fun y y' h => ?_
  refine carriedPath_bind (h.trimLeft.bind has) fun y y' h => ?_
  refine carriedPath_bind (((carries_afterBlanks _ _ h).bind carries_afterIdentifier).bind
    carries_afterBlanks) fun y y' h => ?_
  refine carriedPath_bind ((hfrom _ _ h).bind carries_afterBlanks) fun y y' h => ?_
  exact carriedPath_quotedPath respects_blank h

theorem carriedPath_symbols {z z' : Cells} (h : Reread z z') :
    CarriedPath z z' (symbols (masked z)) (symbols (masked z')) := by
  have hfrom : Carries (after "from".toList) := carries_after (by decide)
  refine carriedPath_bind (h.trimLeft.bind carries_afterSymbols) fun y y' h => ?_
  refine carriedPath_bind ((h.trimLeft.bind hfrom).bind carries_afterBlanks) fun y y' h => ?_
  exact carriedPath_quotedPath respects_blank h

/-- Of two forms that may be tried the same one is taken in both texts. -/
theorem CarriedPath.orElse {z z' : Cells} {o o' p p' : Option (Text × Text)}
    (h : CarriedPath z z' o o') (hp : CarriedPath z z' p p') :
    CarriedPath z z' (o <|> p) (o' <|> p') := by
  cases h with
  | stuck => exact hp
  | found hz hz' ha => exact .found hz hz' ha

end Statement

/-! ### What a statement says -/

namespace Reread

open Statement

/-- The path that is written stands in the same place. -/
theorem specifier {z z' : Cells} (h : Reread z z') {path : Text}
    (hp : Directive.specifier (written z) (masked z) = .ok path) :
    Directive.specifier (written z') (masked z') = .ok (Text.unifyNewlines path) := by
  have hc := (carriedPath_direct h).orElse ((carriedPath_wildcard h).orElse (carriedPath_symbols h))
  have hslice : ∀ {a y z : Cells}, a ++ y <:+ z →
      ((written z).drop ((masked z).length - (masked (a ++ y)).length)).take (masked a).length =
        written a := by
    rintro a y _ ⟨x, rfl⟩
    simp
  unfold Directive.specifier pathSpan at hp ⊢
  generalize (direct (masked z) <|> wildcard (masked z) <|> symbols (masked z)) = o at hc hp
  generalize (direct (masked z') <|> wildcard (masked z') <|> symbols (masked z')) = o' at hc ⊢
  cases hc with
  | stuck => simp at hp
  | @found a a' y y' hz hz' ha =>
    simp only [Option.map_some, hslice hz, hslice hz', ha.written_eq] at hp ⊢
    cases hw : written a with
    | nil => simp [hw] at hp
    | cons c w =>
      obtain rfl : c :: w = path := by simpa [hw] using hp
      cases hu : Text.unifyNewlines (c :: w) with
      | nil => simp [Text.unifyNewlines_eq_nil] at hu
      | cons c' w' => rfl

/-- Blanks in front give empty words only. -/
private theorem splitOnP_blank_append {b : Text} (hb : Text.blank b) (t : Text) :
    (b ++ t).splitOnP isBlank = List.replicate b.length [] ++ t.splitOnP isBlank := by
  induction b with
  | nil => rfl
  | cons c b ih =>
    rw [Text.blank, List.all_cons, Bool.and_eq_true] at hb
    rw [List.cons_append, List.splitOnP_cons_eq_if_modifyHead, if_pos hb.1, ih hb.2]
    rfl

/-- The words are the same. -/
theorem words {z z' : Cells} (h : Reread z z') :
    Text.words (masked z) = Text.words (masked z') := by
  -- the first piece may be part of a longer word, so it is compared as it stands
  have hpieces : ∃ w ws ws', (masked z).splitOnP isBlank = w :: ws ∧
      (masked z').splitOnP isBlank = w :: ws' ∧
      ws.filter (fun w => !w.isEmpty) = ws'.filter (fun w => !w.isEmpty) := by
    induction h with
    | nil => exact ⟨[], [], [], by simp [masked], by simp [masked], rfl⟩
    | @sharp c c' x z z' hx _ _ _ ih =>
      obtain ⟨w, ws, ws', hz, hz', he⟩ := ih
      refine ⟨x :: w, ws, ws', ?_, ?_, he⟩
      · rw [masked_cons, List.splitOnP_cons_eq_if_modifyHead, hz]
        simp [hx]
      · rw [masked_cons, List.splitOnP_cons_eq_if_modifyHead, hz']
        simp [hx]
    | @blank b b' z z' hb hb' hm hm' _ _ ih =>
      obtain ⟨w, ws, ws', hz, hz', he⟩ := ih
      have hsplit := splitOnP_blank_append hm (masked z)
      have hsplit' := splitOnP_blank_append hm' (masked z')
      obtain ⟨c, a, rfl, -⟩ := exists_blank_cons hb hm
      obtain ⟨c', a', rfl, -⟩ := exists_blank_cons hb' hm'
      rw [← masked_append, hz] at hsplit
      rw [← masked_append, hz'] at hsplit'
      refine ⟨[], _, _, hsplit, hsplit', ?_⟩
      simp [List.filter_append, List.filter_cons, he]
  obtain ⟨w, ws, ws', hz, hz', he⟩ := hpieces
  rw [Text.words, Text.words, hz, hz', List.filter_cons, List.filter_cons, he]

/-- The version that is declared is the same. -/
theorem declaration {z z' : Cells} (h : Reread z z') :
    Directive.declaration? (masked z) = Directive.declaration? (masked z') := by
  have hlang : Carries (after "solidity".toList) := carries_after (by decide)
  have hc := h.trimLeft.bind hlang
  simp only [Option.bind_some, after] at hc
  unfold Directive.declaration?
  generalize Text.dropPrefix? "solidity".toList (Text.trimLeft (masked z)) = o at hc
  generalize Text.dropPrefix? "solidity".toList (Text.trimLeft (masked z')) = o' at hc
  cases hc with
  | stuck => rfl
  | left _ _ h =>
    have hw := respects_word _ _ h
    simp only [Bool.not_inj_iff] at hw
    simp only [hw, Text.squeeze, h.words]

/-- A version that is declared holds no carriage return. -/
private theorem return_notMem_of_declaration {m value : Text}
    (h : Directive.declaration? m = some value) : '\r' ∉ value := by
  unfold Directive.declaration? at h
  split at h
  · split at h
    · cases h
    · cases h
      intro hm
      rcases Text.eq_space_or_of_mem_squeeze hm with h | h <;> revert h <;> decide
  · cases h

/-- What a statement says is the same up to the line breaks in its value. -/
theorem reading {z z' : Cells} (h : Reread z z') {k : Keyword}
    {v : Option (DirectiveKind × Text)}
    (hv : Directive.reading k (written z) (masked z) = .ok v) :
    Directive.reading k (written z') (masked z') =
      .ok (v.map fun v => (v.1, Text.unifyNewlines v.2)) := by
  cases k with
  | imports =>
    obtain ⟨path, hp, rfl⟩ := map_eq_ok_iff.1 hv
    rw [Directive.reading, h.specifier hp]
    rfl
  | pragma =>
    cases hv
    rw [Directive.reading, ← h.declaration]
    cases hd : Directive.declaration? (masked z) with
    | none => rfl
    | some value =>
      simp [Text.unifyNewlines_eq_self (return_notMem_of_declaration hd)]

end Reread

/-! ### Directives -/

namespace Keyword

/-- The first keywords of two texts that are read alike: what is left after them is read alike. -/
inductive CarriedNext (z z' : Cells) :
    Option (Text × Keyword × Text) → Option (Text × Keyword × Text) → Prop where
  | stuck : CarriedNext z z' none none
  | found {skipped skipped' : Text} {k : Keyword} {y y' : Cells} (hy : y <:+ z) (hy' : y' <:+ z')
      (h : Reread y y') :
    CarriedNext z z' (some (skipped, k, masked y)) (some (skipped', k, masked y'))

/-- A keyword found at an end of a text is found in the whole, behind what was skipped. -/
theorem CarriedNext.skip {y y' z z' : Cells} {o o' : Option (Text × Keyword × Text)} {u u' : Text}
    (hy : y <:+ z) (hy' : y' <:+ z') (h : CarriedNext y y' o o') :
    CarriedNext z z' (o.map fun r => (u ++ r.1, r.2)) (o'.map fun r => (u' ++ r.1, r.2)) := by
  cases h with
  | stuck => exact .stuck
  | found hx hx' h => exact .found (hx.trans hy) (hx'.trans hy') h

/-- Of two places to look for a keyword the same one is taken in both texts. -/
theorem CarriedNext.or {z z' : Cells} {o o' p p' : Option (Text × Keyword × Text)}
    (h : CarriedNext z z' o o') (hp : CarriedNext z z' p p') :
    CarriedNext z z' (o.or p) (o'.or p') := by
  cases h with
  | stuck => exact hp
  | found hy hy' h => exact .found hy hy' h

theorem carries_after? (k : Keyword) : Carries k.after? := by
  intro z z' h
  have hk : (k.text.all fun c => !isBlank c) = true := by cases k <;> decide
  exact (Statement.carries_after hk _ _ h).filter respects_word

/-- A keyword stands at the start of both texts or of none. -/
theorem carriedNext_start? {z z' : Cells} (h : Reread z z') :
    CarriedNext z z' ((start? (masked z)).map ([], ·)) ((start? (masked z')).map ([], ·)) := by
  have hi := carries_after? .imports _ _ h
  have hp := carries_after? .pragma _ _ h
  unfold start?
  generalize imports.after? (masked z) = i at hi
  generalize imports.after? (masked z') = i' at hi
  generalize pragma.after? (masked z) = p at hp
  generalize pragma.after? (masked z') = p' at hp
  cases hi with
  | left hy hy' h => exact .found hy hy' h
  | stuck =>
    cases hp with
    | left hy hy' h => exact .found hy hy' h
    | stuck => exact .stuck

/-- The next keyword is the same one, and what is left behind it is read alike. -/
theorem carriedNext {z z' : Cells} (h : Reread z z') (touched : Bool) :
    CarriedNext z z' (next? touched (masked z)) (next? touched (masked z')) := by
  induction h generalizing touched with
  | nil => exact .stuck
  | @sharp c c' x z z' hx hc hw h ih =>
    have hskip := @CarriedNext.skip _ _ _ _ _ _ [x] [x] (List.suffix_cons (c, x) z)
      (List.suffix_cons (c', x) z') (ih (isWordChar x))
    rw [masked_cons, masked_cons]
    cases touched with
    | true =>
      rw [next?_cons_of_none (.inl rfl), next?_cons_of_none (.inl rfl)]
      exact hskip
    | false =>
      rw [next?_false_cons, next?_false_cons]
      exact (carriedNext_start? (.sharp hx hc hw h)).or hskip
  | @blank b b' z z' hb hb' hm hm' hw h ih =>
    have hnext : ∀ {b z : Cells}, b ≠ [] → Text.blank (masked b) →
        next? touched (masked (b ++ z)) =
          (next? false (masked z)).map fun r => (masked b ++ r.1, r.2) := by
      intro b z hb hm
      rw [next?_touched, masked_append, next?_blank_append hm]
      obtain ⟨c, a, rfl, hc⟩ := exists_blank_cons hb hm
      simpa using isWordChar_of_isBlank hc
    rw [hnext hb hm, hnext hb' hm']
    exact (ih false).skip (List.suffix_append b z) (List.suffix_append b' z')

end Keyword

namespace Statement

/-- A text without quotation marks is read up to the mark behind it. -/
theorem untilQuote_mark {q : Char} {complete : Text → Bool} {a t : Text} (h : q ∉ a)
    (ht : complete t = true) : untilQuote q complete (a ++ q :: t) = some a := by
  induction a with
  | nil => simp [untilQuote, ht]
  | cons c a ih =>
    rw [List.mem_cons, not_or] at h
    rw [List.cons_append, untilQuote, if_neg (by simp [Ne.symm h.1]), ih h.2]
    rfl

/-- What is read up to the first quotation mark does not hold that mark. -/
theorem notMem_of_untilQuote {q : Char} {t a : Text}
    (h : untilQuote q (fun _ => true) t = some a) : q ∉ a := by
  induction t generalizing a with
  | nil => simp [untilQuote] at h
  | cons c t ih =>
    rw [untilQuote] at h
    split at h
    · cases h
      simp
    · rename_i hc
      obtain ⟨u, hu, rfl⟩ := Option.map_eq_some_iff.1 h
      have hc' : c ≠ q := by simpa using hc
      simpa using ⟨Ne.symm hc', ih hu⟩

end Statement

namespace Directive

/-- What a directive says, without its place. -/
def said (d : Directive) : DirectiveKind × Text := (d.kind, d.value)

/-- What a directive says when the line breaks in its value are unified. -/
def saidUnified (d : Directive) : DirectiveKind × Text := (d.kind, Text.unifyNewlines d.value)

/-- A statement and what follows it stand where the offsets say. -/
private theorem written_statement {source : Text} {offset s n : Nat} {z y a w : Cells}
    {q : Char × Char}
    (hz : written z = source.drop offset) (hy : y <:+ z) (hlen : z.length = s + (n + y.length))
    (hya : y = a ++ q :: w) :
    (source.drop (offset + s + n)).take a.length = written a ∧
      written w = source.drop (offset + s + n + a.length + 1) := by
  obtain ⟨x, rfl⟩ := hy
  have hx : x.length = s + n := by
    rw [List.length_append] at hlen
    omega
  have hdrop : source.drop (offset + s + n) = written y := by
    rw [Nat.add_assoc, ← List.drop_drop, ← hz, ← hx, written_append, ← length_written x,
      List.drop_left]
  subst hya
  constructor
  · rw [hdrop, written_append, ← length_written a, List.take_left]
  · rw [Nat.add_assoc (offset + s + n), ← List.drop_drop, hdrop, written_append, written_cons,
      ← length_written a, ← List.drop_drop, List.drop_left]
    rfl

/-- In the text with unified line breaks the same directives are found. -/
theorem Found.reread {source source' m : Text} {offset offset' : Nat} {ds : List Directive}
    (hf : Found source offset m ds) {z z' : Cells} (h : Reread z z') (hm : masked z = m)
    (hw : written z = source.drop offset) (hw' : written z' = source'.drop offset') :
    ∃ ds', Found source' offset' (masked z') ds' ∧ ds'.map said = ds.map saidUnified := by
  induction hf generalizing z z' offset' with
  | done hn =>
    have hc := Keyword.carriedNext h false
    rw [hm, hn] at hc
    generalize hn' : Keyword.next? false (masked z') = o at hc
    cases hc
    exact ⟨[], .done hn', rfl⟩
  | @statement offset m skipped body later k v ds hn hb hv hl ih =>
    have hc := Keyword.carriedNext h false
    rw [hm, hn] at hc
    generalize hn' : Keyword.next? false (masked z') = o at hc
    generalize hrest : body ++ ';' :: later = rest at hc
    cases hc with
    | @found _ skipped' _ y y' hy hy' hyy =>
      -- from the keyword on, the semicolon ends the statement in both texts
      have hall : Respects fun _ => true := fun _ _ _ => rfl
      have hu := Statement.carriedUntil (q := ';') (by decide) (by decide) hall hyy
      rw [← hrest, Statement.untilQuote_mark hb rfl] at hu
      generalize hu' : Statement.untilQuote ';' (fun _ => true) (masked y') = o at hu
      generalize hbody : body = b at hu
      cases hu with
      | @found a a' w w' hya hya' ha hww =>
        have hlater : masked w = later := by
          rw [hya, masked_append, hbody] at hrest
          exact (List.cons.inj (List.append_cancel_left hrest)).2.symm
        have hm' : masked y' = masked a' ++ ';' :: masked w' := by rw [hya', masked_append]; rfl
        have hlen : z.length = skipped.length + (k.text.length + y.length) := by
          have := congrArg List.length (Keyword.eq_of_next? hn).1
          rw [← hm, hrest] at this
          simpa using this
        have hlen' : z'.length = skipped'.length + (k.text.length + y'.length) := by
          simpa using congrArg List.length (Keyword.eq_of_next? hn').1
        obtain ⟨hs, hsw⟩ := written_statement hw hy hlen hya
        obtain ⟨hs', hsw'⟩ := written_statement hw' hy' hlen' hya'
        -- what the statement says is read off its own cells, and the rest is left to the induction
        subst hbody
        rw [length_masked, hs] at hv
        rw [length_masked] at ih
        obtain ⟨ds', hf', hds⟩ := ih hww hlater hsw hsw'
        have hv' := ha.reading hv
        rw [← hs', ← length_masked a'] at hv'
        rw [hm'] at hn'
        rw [← length_masked a'] at hf'
        refine ⟨_, .statement hn' (Statement.notMem_of_untilQuote hu') hv' hf', ?_⟩
        rw [List.map_append, List.map_append, hds]
        cases v <;> rfl

end Directive

end Flattener
