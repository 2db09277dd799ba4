import Flattener.Proofs.Reread

/-!
# Line breaks and directives

The graph is built from the directives of a file as it is, the body is cleaned of the directives
of the file with unified line breaks. The two need not be the same. A carriage return is no line
break to the scanner, so it does not end a line comment and may stand in a literal; the line feed
that takes its place does and may not.

* `findAll_unifyNewlines`: if every line comment holds only blanks after its first carriage
  return, and no literal holds a carriage return that is not taken by a backslash, the directives
  are the same, up to the line breaks in their values.
* `said_unifyNewlines_iff`: as long as line comments are of that kind, the directives say the same
  exactly when no literal is broken and no value holds a carriage return.
* `said_unifyNewlines_comment`: otherwise a directive may come to light that was a comment.
-/

namespace Flattener

open Cells

/-! ### Literals and comments with unified line breaks -/

theorem head?_unifyNewlines (t : Text) :
    (Text.unifyNewlines t).head? = t.head?.map fun c => if c = '\r' then '\n' else c := by
  fun_cases Text.unifyNewlines t <;> simp_all

/-- A carriage return that is not taken by a backslash. -/
def bareReturn : Text → Bool
  | [] => false
  | '\\' :: _ :: t => bareReturn t
  | c :: t => c == '\r' || bareReturn t

theorem bareReturn_cons {c : Char} (hb : c ≠ '\\') (t : Text) :
    bareReturn (c :: t) = (c == '\r' || bareReturn t) :=
  bareReturn.eq_3 c t fun _ _ h => absurd h hb

theorem unifyNewlines_escape {c : Char} {t : Text} (h : t.head? ≠ some '\n') :
    Text.unifyNewlines ('\\' :: c :: t) =
      '\\' :: (if c = '\r' then '\n' else c) :: Text.unifyNewlines t := by
  rw [Text.unifyNewlines_cons (by decide)]
  by_cases hc : c = '\r'
  · rw [hc, Text.unifyNewlines_return h, if_pos rfl]
  · rw [Text.unifyNewlines_cons hc, if_neg hc]

namespace Inside

variable {quote : Char} {body : Text}

/-- No line feed stands at the start of a literal. -/
theorem head?_ne (h : Inside quote body) : body.head? ≠ some '\n' := by
  cases h with
  | nil => simp
  | escape => simp
  | plain _ _ hn => simpa using hn

theorem head?_append_ne (h : Inside quote body) (hq : quote ≠ '\n') (t : Text) :
    (body ++ quote :: t).head? ≠ some '\n' := by
  cases body with
  | nil => simpa using hq
  | cons c body => exact h.head?_ne

/-- A literal without bare carriage returns stays one when line breaks are unified. -/
theorem unify (h : Inside quote body) (hb : bareReturn body = false) :
    Inside quote (Text.unifyNewlines body) := by
  induction h with
  | nil => exact .nil
  | escape c h ih =>
    rw [unifyNewlines_escape h.head?_ne]
    exact .escape _ (ih hb)
  | @plain c body hc hq hn h ih =>
    rw [bareReturn_cons hc, Bool.or_eq_false_iff, beq_eq_false_iff_ne] at hb
    rw [Text.unifyNewlines_cons hb.1]
    exact .plain hc hq hn (ih hb.2)

/-- A bare carriage return becomes a line feed that leaves the literal open. -/
theorem splitLiteral_unify (h : Inside quote body) (hq : isQuote quote)
    (hb : bareReturn body = true) (t : Text) :
    splitLiteral quote (Text.unifyNewlines (body ++ quote :: t)) = none := by
  have hne : quote ≠ '\n' := by rintro rfl; revert hq; decide
  induction h with
  | nil => simp [bareReturn] at hb
  | escape c h ih =>
    rw [List.cons_append, List.cons_append, unifyNewlines_escape (h.head?_append_ne hne t),
      splitLiteral, ih hb]
    rfl
  | @plain c body hc hcq hn h ih =>
    rw [bareReturn_cons hc, Bool.or_eq_true, beq_iff_eq] at hb
    rw [List.cons_append]
    by_cases hr : c = '\r'
    · -- this is the bare one, and the line feed that it becomes is not taken
      rw [hr, Text.unifyNewlines_return (h.head?_append_ne hne t),
        splitLiteral.eq_3 _ _ _ (by simp), if_neg (Ne.symm hne), if_pos (by simp)]
    · rw [Text.unifyNewlines_cons hr, splitLiteral_cons hc hcq hn, ih (hb.resolve_left hr)]
      rfl

end Inside

theorem splitBlockComment_unify {body : Text}
    (h : splitBlockComment (body ++ ['*', '/']) = some (body, [])) :
    splitBlockComment (Text.unifyNewlines body ++ ['*', '/']) =
      some (Text.unifyNewlines body, []) := by
  fun_induction Text.unifyNewlines body with
  | case1 => rfl
  | case2 b ih =>
    have hb := (splitBlockComment_tail (splitBlockComment_tail h).1).1
    rw [List.cons_append, splitBlockComment_cons (by simp), ih hb]
    rfl
  | case3 b _ ih =>
    rw [List.cons_append, splitBlockComment_cons (by simp), ih (splitBlockComment_tail h).1]
    rfl
  | case4 c b _ hc ih =>
    obtain ⟨hb, hs⟩ := splitBlockComment_tail h
    rw [List.cons_append, splitBlockComment_cons, ih hb]
    · rfl
    · intro hstar
      have hs' := hs hstar
      cases b with
      | nil => simp [Text.unifyNewlines]
      | cons d b =>
        rw [List.head?_append, head?_unifyNewlines]
        by_cases hd : d = '\r' <;> simp_all

/-! ### Lexemes with unified line breaks -/

namespace Lexeme

/-- The characters of a lexeme, as written and masked. -/
def cells (l : Lexeme) : Cells := l.text.zip l.masked

/-- After its first carriage return, a line comment holds only blanks. -/
def settled : Lexeme → Bool
  | lineComment body => Text.blank (body.dropWhile (· ≠ '\r'))
  | _ => true

/-- A literal holds no bare carriage return. -/
def unbroken : Lexeme → Bool
  | literal _ body => !bareReturn body
  | _ => true

@[simp]
theorem written_cells (l : Lexeme) : written l.cells = l.text := by
  rw [written, cells, List.map_fst_zip (by simp)]

@[simp]
theorem masked_cells (l : Lexeme) : Cells.masked l.cells = l.masked := by
  rw [Cells.masked, cells, List.map_snd_zip (by simp)]

@[simp]
theorem written_flatMap_cells (ls : List Lexeme) :
    written (ls.flatMap cells) = ls.flatMap text := by
  induction ls with
  | nil => rfl
  | cons l ls ih => rw [List.flatMap_cons, List.flatMap_cons, written_append, written_cells, ih]

@[simp]
theorem masked_flatMap_cells (ls : List Lexeme) :
    Cells.masked (ls.flatMap cells) = ls.flatMap masked := by
  induction ls with
  | nil => rfl
  | cons l ls ih => rw [List.flatMap_cons, List.flatMap_cons, masked_append, masked_cells, ih]

theorem cells_ne_nil (l : Lexeme) : l.cells ≠ [] := by cases l <;> simp [cells, text, masked]

/-- The lexemes `ks` are a cut, and are read like `ls` but for unified line breaks. -/
structure Unified (ls ks : List Lexeme) (t : Text) : Prop where
  cut : Cut ks (Text.unifyNewlines t)
  reread : Reread (ls.flatMap cells) (ks.flatMap cells)

namespace Unified

variable {ls ks : List Lexeme} {t : Text}

theorem text_eq (h : Unified ls ks t) : ks.flatMap text = Text.unifyNewlines (ls.flatMap text) := by
  rw [← written_flatMap_cells, h.reread.written_eq, written_flatMap_cells]

theorem head?_eq (h : Unified ls ks t) : (ks.flatMap text ++ Text.unifyNewlines t).head? =
    (ls.flatMap text ++ t).head?.map fun c => if c = '\r' then '\n' else c := by
  rw [h.text_eq, List.head?_append, List.head?_append, head?_unifyNewlines, head?_unifyNewlines,
    Option.map_or]

/-- Whatever is not read on stays so. -/
theorem endsBefore (h : Unified ls ks t) {c : Char}
    (hb : (code c).EndsBefore (ls.flatMap text ++ t)) :
    (code c).EndsBefore (ks.flatMap text ++ Text.unifyNewlines t) := by
  intro hc
  rw [h.head?_eq]
  obtain ⟨h1, h2⟩ := hb hc
  cases hh : (ls.flatMap text ++ t).head? with
  | none => simp
  | some d =>
    rw [hh] at h1 h2
    by_cases hd : d = '\r' <;> simp_all

theorem code (h : Unified ls ks t) {c : Char} (hc : c ≠ '\r') (hw : (Lexeme.code c).WellFormed)
    (hb : (Lexeme.code c).EndsBefore (ls.flatMap text ++ t)) :
    Unified (.code c :: ls) (.code c :: ks) t := by
  refine ⟨⟨hw, h.endsBefore hb, h.cut⟩, ?_⟩
  have hu := Text.unifyNewlines_cons hc (written (ls.flatMap cells))
  rw [List.flatMap_cons, List.flatMap_cons]
  cases hblank : isBlank c with
  | false => exact .sharp hblank (fun _ => rfl) hu h.reread
  | true =>
    have hm : Text.blank (Cells.masked (Lexeme.code c).cells) := by
      simp [masked, Text.blank, hblank]
    exact .blank (cells_ne_nil _) (cells_ne_nil _) hm hm hu h.reread

theorem loneReturn (h : Unified ls ks t) (hn : (ls.flatMap text).head? ≠ some '\n') :
    Unified (.code '\r' :: ls) (.code '\n' :: ks) t := by
  refine ⟨⟨rfl, firm_code (by decide) _, h.cut⟩, ?_⟩
  rw [← written_flatMap_cells] at hn
  rw [List.flatMap_cons, List.flatMap_cons]
  exact .blank (by decide) (by decide) (by decide) (by decide) (Text.unifyNewlines_return hn)
    h.reread

theorem lineBreak (h : Unified ls ks t) :
    Unified (.code '\r' :: .code '\n' :: ls) (.code '\n' :: ks) t := by
  refine ⟨⟨rfl, firm_code (by decide) _, h.cut⟩, ?_⟩
  exact @Reread.blank [('\r', '\r'), ('\n', '\n')] [('\n', '\n')] _ _ (by decide) (by decide)
    (by decide) (by decide) (by simp [written, Text.unifyNewlines]) h.reread

/-- The cells of a block comment are blank. -/
theorem blank_blockComment (body : Text) :
    Text.blank (Cells.masked (Lexeme.blockComment body).cells) := by
  rw [masked_cells]
  exact blank_masked_blockComment body

theorem blockComment (h : Unified ls ks t) {body : Text}
    (hw : (Lexeme.blockComment body).WellFormed) :
    Unified (.blockComment body :: ls) (.blockComment (Text.unifyNewlines body) :: ks) t := by
  refine ⟨⟨splitBlockComment_unify hw, trivial, h.cut⟩, ?_⟩
  rw [List.flatMap_cons, List.flatMap_cons]
  refine .blank (cells_ne_nil _) (cells_ne_nil _) (blank_blockComment _) (blank_blockComment _) ?_
    h.reread
  simp only [written_cells, text, List.cons_append, List.append_assoc, List.nil_append]
  rw [Text.unifyNewlines_cons (by decide), Text.unifyNewlines_cons (by decide),
    Text.unifyNewlines_append (by simp), Text.unifyNewlines_cons (by decide),
    Text.unifyNewlines_cons (by decide)]

theorem cells_literal (quote : Char) (body : Text) : (Lexeme.literal quote body).cells =
    (quote, quote) :: ((body.map fun c => (c, '_')) ++ [(quote, quote)]) := by
  have hzip : body.zip (body.map fun _ => '_') = body.map fun c => (c, '_') := by
    induction body with
    | nil => rfl
    | cons c body ih => rw [List.map_cons, List.zip_cons_cons, ih, List.map_cons]
  rw [cells, text, masked, List.zip_cons_cons, List.zip_append (by simp), hzip]
  rfl

/-- What stands within a literal is read alike, if no line feed follows it. -/
theorem reread_inside {quote : Char} {body : Text} (hi : Inside quote body)
    (hb : bareReturn body = false) {z z' : Cells} (hz : (written z).head? ≠ some '\n')
    (h : Reread z z') :
    Reread ((body.map fun c => (c, '_')) ++ z)
      (((Text.unifyNewlines body).map fun c => (c, '_')) ++ z') := by
  have hhidden : isBlank '_' = false := by decide
  have hwritten : ∀ b : Text, written ((b.map fun c => (c, '_')) ++ z) = b ++ written z := by
    intro b
    simp [written, Function.comp_def]
  induction hi with
  | nil => exact h
  | @escape c body hi ih =>
    rw [unifyNewlines_escape hi.head?_ne]
    simp only [List.map_cons, List.cons_append]
    refine .sharp hhidden (by simp) (Text.unifyNewlines_cons (by decide) _) ?_
    refine .sharp hhidden (by simp) ?_ (ih hb)
    have hhead : (body ++ written z).head? ≠ some '\n' := by
      cases body with
      | nil => exact hz
      | cons d body => exact hi.head?_ne
    have he := unifyNewlines_escape (c := c) hhead
    rw [Text.unifyNewlines_cons (by decide)] at he
    rw [hwritten]
    exact (List.cons.inj he).2
  | @plain c body hc hq hn hi ih =>
    rw [bareReturn_cons hc, Bool.or_eq_false_iff, beq_eq_false_iff_ne] at hb
    rw [Text.unifyNewlines_cons hb.1]
    exact .sharp hhidden (by simp) (Text.unifyNewlines_cons hb.1 _) (ih hb.2)

theorem literal (h : Unified ls ks t) {quote : Char} {body : Text}
    (hw : (Lexeme.literal quote body).WellFormed) (hb : bareReturn body = false) :
    Unified (.literal quote body :: ls) (.literal quote (Text.unifyNewlines body) :: ks) t := by
  obtain ⟨hq, hi⟩ := hw
  refine ⟨⟨⟨hq, hi.unify hb⟩, trivial, h.cut⟩, ?_⟩
  have hchar : quote = '"' ∨ quote = '\'' := by simpa [isQuote] using hq
  have hblank : isBlank quote = false := by rcases hchar with rfl | rfl <;> decide
  have hquote : ∀ w, Text.unifyNewlines (quote :: w) = quote :: Text.unifyNewlines w :=
    Text.unifyNewlines_cons (by rcases hchar with rfl | rfl <;> decide)
  rw [List.flatMap_cons, List.flatMap_cons, cells_literal, cells_literal]
  simp only [List.cons_append, List.append_assoc, List.nil_append]
  refine .sharp hblank (fun _ => rfl) (hquote _) (reread_inside hi hb ?_ ?_)
  · rw [written_cons]
    rcases hchar with rfl | rfl <;> simp
  · exact .sharp hblank (fun _ => rfl) (hquote _) h.reread

theorem blank_lineComment (body : Text) :
    Text.blank (Cells.masked (Lexeme.lineComment body).cells) := by
  rw [masked_cells]
  exact blank_masked_lineComment body

theorem blank_unifyNewlines {p : Text} (h : Text.blank p) : Text.blank (Text.unifyNewlines p) := by
  have hfeed : isBlank '\n' = true := by decide
  unfold Text.blank at h ⊢
  fun_induction Text.unifyNewlines p with
  | case1 => rfl
  | case2 p ih => simp_all
  | case3 p _ ih => simp_all
  | case4 c p _ _ ih => simp_all

/-- A line comment may end earlier, where a line break comes to stand, if all from there to the
end of its line is blank. The text `q` is the line feed after the comment, if there is one. -/
theorem shortenComment (h : Unified ls ks t) {body q comment tail : Text}
    (hbody : body ++ q = comment ++ tail) (hreturn : '\r' ∉ comment) (hfeed : '\n' ∉ comment)
    (hblank : Text.blank tail) (hhead : ∀ c ∈ tail.head?, c = '\r' ∨ c = '\n')
    (hq : q = ['\n'] ∨ q = [] ∧ ls = [] ∧ t = []) :
    Unified (.lineComment body :: (q.map .code ++ ls))
      (.lineComment comment :: ((Text.unifyNewlines tail).map .code ++ ks)) t := by
  have hqblank : Text.blank q := by rcases hq with rfl | ⟨rfl, -⟩ <;> decide
  have htail : Text.unifyNewlines (tail ++ ls.flatMap text) =
      Text.unifyNewlines tail ++ Text.unifyNewlines (ls.flatMap text) := by
    apply Text.unifyNewlines_append
    rcases hq with rfl | ⟨rfl, rfl, -⟩
    · intro hr
      have := congrArg List.getLast? hbody
      simp [List.getLast?_append, hr] at this
    · simp
  have hcut := cut_map_code_of_blank (blank_unifyNewlines hblank)
  refine ⟨⟨hfeed, ?_, cut_append.2 ⟨hcut _, h.cut⟩⟩, ?_⟩
  · intro c hc
    rw [List.flatMap_append, flatMap_text_map_code, List.append_assoc, List.head?_append,
      head?_unifyNewlines, h.head?_eq] at hc
    cases ht : tail with
    | nil =>
      -- nothing follows the comment, not even the end of its line
      rcases hq with rfl | ⟨rfl, rfl, rfl⟩
      · rw [ht, List.append_nil] at hbody
        exact absurd (by rw [← hbody]; simp) hfeed
      · simp [ht] at hc
    | cons d u =>
      rcases hhead d (by rw [ht]; rfl) with rfl | rfl <;> simpa [ht, eq_comm] using hc
  · rw [List.flatMap_cons, List.flatMap_cons, List.flatMap_append, List.flatMap_append,
      ← List.append_assoc, ← List.append_assoc]
    refine .blank (by simp [cells_ne_nil]) (by simp [cells_ne_nil]) ?_ ?_ ?_ h.reread
    · rw [masked_append, masked_flatMap_cells, flatMap_masked_map_code, Text.blank, List.all_append,
        Bool.and_eq_true]
      exact ⟨blank_lineComment body, hqblank⟩
    · rw [masked_append, masked_flatMap_cells, flatMap_masked_map_code, Text.blank, List.all_append,
        Bool.and_eq_true]
      exact ⟨blank_lineComment comment, blank_unifyNewlines hblank⟩
    · simp only [written_append, written_flatMap_cells, flatMap_text_map_code, written_cells, text,
        List.cons_append]
      rw [hbody, List.append_assoc, Text.unifyNewlines_cons (by decide),
        Text.unifyNewlines_cons (by decide), Text.unifyNewlines_append, htail,
        Text.unifyNewlines_eq_self hreturn, List.append_assoc]
      exact fun hl => absurd (List.mem_of_getLast? hl) hreturn

/-- A line comment is shortened to what stands before its first carriage return. -/
theorem lineComment (h : Unified ls ks t) {body q : Text}
    (hw : (Lexeme.lineComment body).WellFormed)
    (hs : (Lexeme.lineComment body).settled) (hq : q = ['\n'] ∨ q = [] ∧ ls = [] ∧ t = []) :
    Unified (.lineComment body :: (q.map .code ++ ls))
      (.lineComment (body.takeWhile (· ≠ '\r')) ::
        ((Text.unifyNewlines (body.dropWhile (· ≠ '\r') ++ q)).map .code ++ ks)) t := by
  refine h.shortenComment ?_ (fun hm => ?_) (fun hm => hw ((List.takeWhile_sublist _).mem hm)) ?_
    (fun c hc => ?_) hq
  · rw [← List.append_assoc, List.takeWhile_append_dropWhile]
  · simpa using List.all_eq_true.1 (List.all_takeWhile (l := body)) _ hm
  · rw [Text.blank, List.all_append, Bool.and_eq_true]
    refine ⟨hs, ?_⟩
    rcases hq with rfl | ⟨rfl, -⟩ <;> decide
  · have hd := List.head?_dropWhile_not (· ≠ '\r') body
    rw [List.head?_append] at hc
    cases hh : (body.dropWhile (· ≠ '\r')).head? with
    | some d =>
      rw [hh] at hd hc
      left
      simpa [show d = c by simpa using hc] using hd
    | none =>
      rw [hh, Option.none_or] at hc
      rcases hq with rfl | ⟨rfl, -⟩
      · exact .inr (by simpa [eq_comm] using hc)
      · simp at hc

end Unified

theorem exists_head?_text (l : Lexeme) (t : Text) : ∃ c, (l.text ++ t).head? = some c := by
  cases l <;> exact ⟨_, rfl⟩

/-- A cut of settled and unbroken lexemes can be read with unified line breaks. -/
theorem exists_unified {ls : List Lexeme} {t : Text} (h : Cut ls t) (hs : ∀ l ∈ ls, l.settled)
    (hu : ∀ l ∈ ls, l.unbroken) (ht : t.head? ≠ some '\n') : ∃ ks, Unified ls ks t := by
  match ls, h with
  | [], _ => exact ⟨[], trivial, .nil⟩
  | code c :: ls, ⟨hw, hb, hc⟩ =>
    by_cases hr : c = '\r'
    · subst hr
      by_cases hn : (ls.flatMap text).head? = some '\n'
      · -- the line feed after the carriage return is the next lexeme
        match ls, hc with
        | [], _ => simp at hn
        | k :: ls, ⟨hkw, hkb, hc⟩ =>
          obtain rfl := eq_code_of_head? (by decide) rfl hkw hn
          obtain ⟨ks, hk⟩ := exists_unified hc (fun l hl => hs l (by simp [hl]))
            (fun l hl => hu l (by simp [hl])) ht
          exact ⟨_, hk.lineBreak⟩
      · obtain ⟨ks, hk⟩ := exists_unified hc (fun l hl => hs l (by simp [hl]))
          (fun l hl => hu l (by simp [hl])) ht
        exact ⟨_, hk.loneReturn hn⟩
    · obtain ⟨ks, hk⟩ := exists_unified hc (fun l hl => hs l (by simp [hl]))
        (fun l hl => hu l (by simp [hl])) ht
      exact ⟨_, hk.code hr hw hb⟩
  | blockComment body :: ls, ⟨hw, hb, hc⟩ =>
    obtain ⟨ks, hk⟩ := exists_unified hc (fun l hl => hs l (by simp [hl]))
      (fun l hl => hu l (by simp [hl])) ht
    exact ⟨_, hk.blockComment hw⟩
  | literal quote body :: ls, ⟨hw, hb, hc⟩ =>
    obtain ⟨ks, hk⟩ := exists_unified hc (fun l hl => hs l (by simp [hl]))
      (fun l hl => hu l (by simp [hl])) ht
    exact ⟨_, hk.literal hw (by simpa [unbroken] using hu (literal quote body) (by simp))⟩
  | [lineComment body], ⟨hw, hb, hc⟩ =>
    have hnil : t = [] := by
      cases t with
      | nil => rfl
      | cons c t => exact absurd (congrArg some (hb c rfl)) ht
    subst hnil
    have hk : Unified [] [] [] := ⟨trivial, .nil⟩
    exact ⟨_, hk.lineComment hw (hs _ (by simp)) (.inr ⟨rfl, rfl, rfl⟩)⟩
  | lineComment body :: k :: ls, ⟨hw, hb, hkw, hkb, hc⟩ =>
    -- the lexeme after a line comment is the line feed that ends its line
    have hhead : (k.text ++ (ls.flatMap text ++ t)).head? = some '\n' := by
      obtain ⟨c, hc⟩ := exists_head?_text k (ls.flatMap text ++ t)
      rw [hc, hb c (by rwa [List.flatMap_cons, List.append_assoc])]
    obtain rfl := eq_code_of_head? (by decide) rfl hkw hhead
    obtain ⟨ks, hk⟩ := exists_unified hc (fun l hl => hs l (by simp [hl]))
      (fun l hl => hu l (by simp [hl])) ht
    exact ⟨_, hk.lineComment hw (hs _ (by simp)) (.inl rfl)⟩

end Lexeme

/-! ### The directives of a text with unified line breaks -/

open Directive

/-- With unified line breaks the same directives are found, if line comments are settled and
literals unbroken. -/
theorem findAll_unifyNewlines {source : Text} {ls : List Lexeme} {ds : List Directive}
    (hs : scan source = .ok ls) (hd : findAll source = .ok ds) (hc : ∀ l ∈ ls, l.settled)
    (hu : ∀ l ∈ ls, l.unbroken) :
    ∃ ds', findAll (Text.unifyNewlines source) = .ok ds' ∧ ds'.map said = ds.map saidUnified := by
  obtain ⟨ht, hcut⟩ := scan_eq_ok_iff.1 hs
  obtain ⟨ks, hk⟩ := Lexeme.exists_unified hcut hc hu (by simp)
  obtain ⟨ls', hs', hf⟩ := findAll_eq_ok_iff.1 hd
  obtain rfl : ls' = ls := Except.ok.inj (hs'.symm.trans hs)
  have htext : ks.flatMap Lexeme.text = Text.unifyNewlines source := by rw [hk.text_eq, ht]
  have hw' : written (ks.flatMap Lexeme.cells) = (Text.unifyNewlines source).drop 0 := by
    rw [Lexeme.written_flatMap_cells, htext, List.drop_zero]
  obtain ⟨ds', hf', he⟩ := hf.reread hk.reread (Lexeme.masked_flatMap_cells _)
    (by simpa using ht) hw'
  refine ⟨ds', findAll_eq_ok_iff.2 ⟨ks, scan_eq_ok_iff.2 ⟨htext, hk.cut⟩, ?_⟩, he⟩
  rwa [Lexeme.masked_flatMap_cells] at hf'

/-- A literal with a bare carriage return is left open when line breaks are unified. -/
theorem scan_unifyNewlines_of_broken {source : Text} {ls : List Lexeme} {l : Lexeme}
    (hs : scan source = .ok ls) (hc : ∀ l ∈ ls, l.settled) (hl : l ∈ ls)
    (hb : l.unbroken = false) (ks : List Lexeme) :
    scan (Text.unifyNewlines source) ≠ .ok ks := by
  obtain ⟨ht, hcut⟩ := scan_eq_ok_iff.1 hs
  -- the first broken literal: what stands before it is read as before
  obtain ⟨k, hk⟩ := Option.isSome_iff_exists.1
    (List.find?_isSome.2 ⟨l, hl, by rw [hb]; rfl⟩ : (ls.find? fun l => !l.unbroken).isSome)
  obtain ⟨hkb, before, later, rfl, hbefore⟩ := List.find?_eq_some_iff_append.1 hk
  cases k with
  | code c => simp [Lexeme.unbroken] at hkb
  | lineComment body => simp [Lexeme.unbroken] at hkb
  | blockComment body => simp [Lexeme.unbroken] at hkb
  | literal quote body =>
    obtain ⟨hcut, ⟨hq, hi⟩, -⟩ := Lexeme.cut_append.1 hcut
    rw [List.append_nil] at hcut
    have hchar : quote = '"' ∨ quote = '\'' := by simpa [isQuote] using hq
    have hquote : ((Lexeme.literal quote body :: later).flatMap Lexeme.text).head? ≠ some '\n' := by
      rcases hchar with rfl | rfl <;> simp [Lexeme.text]
    obtain ⟨ks', hk'⟩ := Lexeme.exists_unified hcut (fun l hl => hc l (by simp [hl]))
      (fun l hl => by simpa using hbefore l hl) hquote
    -- the scan comes to the quote, from which on no lexeme closes
    have hrest : Text.unifyNewlines ((Lexeme.literal quote body :: later).flatMap Lexeme.text) =
        quote :: Text.unifyNewlines (body ++ quote :: later.flatMap Lexeme.text) := by
      rw [← Text.unifyNewlines_cons (by rcases hchar with rfl | rfl <;> decide)]
      simp [Lexeme.text]
    have hopen := hi.splitLiteral_unify hq (by simpa [Lexeme.unbroken] using hkb)
      (later.flatMap Lexeme.text)
    rw [← ht, List.flatMap_append, Text.unifyNewlines_append fun _ => hquote, ← hk'.text_eq, scan,
      scanFrom_append hk'.cut, hrest, scanFrom_of_splitLiteral_none hq hopen]
    simp [Except.map]

/-- While line comments are settled, a text and the text with unified line breaks say the same
exactly when no literal is broken and no value holds a carriage return. -/
theorem said_unifyNewlines_iff {source : Text} {ls : List Lexeme} {ds : List Directive}
    (hs : scan source = .ok ls) (hd : findAll source = .ok ds) (hc : ∀ l ∈ ls, l.settled) :
    (∃ ds', findAll (Text.unifyNewlines source) = .ok ds' ∧ ds'.map said = ds.map said) ↔
      (∀ l ∈ ls, l.unbroken) ∧ ∀ d ∈ ds, '\r' ∉ d.value := by
  constructor
  · rintro ⟨ds', hd', he⟩
    have hu : ∀ l ∈ ls, l.unbroken := by
      intro l hl
      obtain ⟨ks, hs', -⟩ := findAll_eq_ok_iff.1 hd'
      cases hb : l.unbroken with
      | true => rfl
      | false => exact absurd hs' (scan_unifyNewlines_of_broken hs hc hl hb ks)
    refine ⟨hu, fun d hm => ?_⟩
    obtain ⟨ds'', hd'', he'⟩ := findAll_unifyNewlines hs hd hc hu
    obtain rfl : ds'' = ds' := Except.ok.inj (hd''.symm.trans hd')
    -- both ways of writing the value say the same, so unifying does not change it
    have hvalue := List.map_inj_left.1 (he.symm.trans he') d hm
    rw [show d.value = Text.unifyNewlines d.value from congrArg Prod.snd hvalue]
    exact Text.return_notMem_unifyNewlines d.value
  · rintro ⟨hu, hv⟩
    obtain ⟨ds', hd', he⟩ := findAll_unifyNewlines hs hd hc hu
    refine ⟨ds', hd', he.trans (List.map_congr_left fun d hm => ?_)⟩
    rw [saidUnified, said, Text.unifyNewlines_eq_self (hv d hm)]

/-- An import with a comment, line breaks of all kinds, and a literal in which a carriage return
is taken by a backslash. -/
def mixedBreaks : Text := "import 'a';//b\r\r\n'\\\r'\r".toList

/-- The lexemes of `mixedBreaks`. -/
def mixedLexemes : List Lexeme :=
  "import ".toList.map .code ++ [.literal '\'' ['a'], .code ';', .lineComment "b\r\r".toList,
    .code '\n', .literal '\'' ['\\', '\r'], .code '\r']

theorem said_unifyNewlines_mixedBreaks :
    (∃ ds', findAll (Text.unifyNewlines mixedBreaks) = .ok ds' ∧
      ds'.map said = [(.imports, ['a'])]) ∧
      (∀ l ∈ mixedLexemes, l.settled) ∧ (∀ l ∈ mixedLexemes, l.unbroken) := by
  have hs : scan mixedBreaks = .ok mixedLexemes := by decide +kernel
  have hd : findAll mixedBreaks = .ok [⟨.imports, ['a'], 0, 11, 1⟩] := by decide +kernel
  have hc : ∀ l ∈ mixedLexemes, l.settled := by decide +kernel
  have hu : ∀ l ∈ mixedLexemes, l.unbroken := by decide +kernel
  exact ⟨(said_unifyNewlines_iff hs hd hc).2 ⟨hu, by decide⟩, hc, hu⟩

/-- A line comment that is not settled can hide a directive: it is not found in the text, but is
found once the line breaks are unified. -/
theorem said_unifyNewlines_comment :
    findAll "//c\rimport 'b';\n".toList = .ok [] ∧
      (findAll (Text.unifyNewlines "//c\rimport 'b';\n".toList)).map (List.map said) =
        .ok [(.imports, ['b'])] := by
  decide +kernel

end Flattener
