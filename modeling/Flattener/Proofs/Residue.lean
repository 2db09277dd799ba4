import Mathlib.Data.List.Basic
import Flattener.Proofs.Keywords
import Flattener.Source.Body

/-!
# What is left of a source

When directives are taken out of a source, what stood around them comes to stand together, and
must not be read as something else: a comment or a literal that was none, or a directive. This
module follows the lexemes of the source. Every place where the text is cut lies between two of
them, so what is left is written by the lexemes that are left; and a lexeme before a place where
something was taken out can stand before anything, unless it is a slash.

* `Body.stripFrom_cons` says what goes with one directive: blanks before it and after it.
* `Body.exists_stripFrom` says what is left when all of them have gone.
* `Body.trimBlankLines_eq` says what goes with blank lines at the ends of a text.
* `Inert` is what holds of the body of a source in the end: it holds no directive, and it can be
  put before anything (`Body.inert_of_clean`).
-/

namespace Flattener

namespace Body

/-! ### Taking out one directive -/

theorem slice_append (a b c : Text) :
    slice (a ++ (b ++ c)) a.length (a.length + b.length) = b := by
  rw [slice, ← List.append_assoc, ← List.length_append, List.take_left, List.drop_left]

/-- The part of `r` that lies on its last line starts after the line feeds in `r`. -/
theorem max_lineStart (a r x : Text) :
    max (lineStart (a ++ (r ++ x)) (a.length + r.length)) a.length =
      a.length + (r.reverse.dropWhile (· ≠ '\n')).length := by
  have hlen := congrArg List.length
    (List.takeWhile_append_dropWhile (p := (· ≠ '\n')) (l := r.reverse))
  rw [List.length_append, List.length_reverse] at hlen
  rw [lineStart, ← List.append_assoc, ← List.length_append, List.take_left, List.reverse_append,
    List.takeWhile_append]
  split
  · rename_i hall
    rw [List.length_reverse] at hall
    simp only [List.length_append, List.length_reverse]
    omega
  · simp only [List.length_append]
    omega

theorem lineEnd_append (a x : Text) :
    lineEnd (a ++ x) a.length = a.length + (x.takeWhile (· ≠ '\n')).length := by
  rw [lineEnd, List.drop_left]
  split
  · rfl
  · rename_i h
    obtain rfl : x = [] := by
      rw [List.length_append] at h
      exact List.length_eq_zero_iff.1 (by omega)
    simp

/-- A text is its last line and what stands before it. -/
theorem exists_lastLine (r : Text) : ∃ u v, r = u ++ v ∧ '\n' ∉ v ∧ (∀ c ∈ u.getLast?, c = '\n') ∧
    ∀ a x, max (lineStart (a ++ (r ++ x)) (a.length + r.length)) a.length =
      a.length + u.length := by
  refine ⟨(r.reverse.dropWhile (· ≠ '\n')).reverse, (r.reverse.takeWhile (· ≠ '\n')).reverse, ?_,
    fun hm => ?_, fun c hc => ?_, fun a x => ?_⟩
  · rw [← List.reverse_append, List.takeWhile_append_dropWhile, List.reverse_reverse]
  · simpa using List.all_eq_true.1 List.all_takeWhile _ (List.mem_reverse.1 hm)
  · have hhead := List.head?_dropWhile_not (· ≠ '\n') r.reverse
    rw [List.getLast?_reverse] at hc
    rw [Option.mem_def.1 hc] at hhead
    simpa using hhead
  · rw [max_lineStart, List.length_reverse]

/-- Of what stands before a directive, only blanks on its line go with it. -/
theorem exists_widen_fst (r : Text) : ∃ kept dropped, r = kept ++ dropped ∧ Text.blank dropped ∧
    '\n' ∉ dropped ∧ (dropped = [] ∨ ∀ c ∈ kept.getLast?, c = '\n') ∧
    ∀ a x stop, (widen (a ++ (r ++ x)) a.length (a.length + r.length) stop).1 =
      a.length + kept.length := by
  obtain ⟨u, v, hr, hv, hu, hmax⟩ := exists_lastLine r
  have hslice : ∀ a x, slice (a ++ (r ++ x)) (a.length + u.length) (a.length + r.length) = v := by
    intro a x
    have h := slice_append (a ++ u) v x
    rw [hr]
    simpa [Nat.add_assoc] using h
  -- `v` is what stands on the line before the directive: it goes if it is blank
  by_cases hb : Text.blank v
  · refine ⟨u, v, hr, hb, hv, .inr hu, fun a x stop => ?_⟩
    rw [widen, hmax, hslice, if_pos hb]
  · refine ⟨r, [], (List.append_nil r).symm, rfl, by simp, .inl rfl, fun a x stop => ?_⟩
    rw [widen, hmax, hslice, if_neg hb]

/-- Of what follows a directive, only blanks up to the end of its line go with it. -/
theorem exists_widen_snd (r : Text) : ∃ cut rest, r = cut ++ rest ∧ Text.blank cut ∧
    ∀ a cursor start, (widen (a ++ r) cursor start a.length).2 = a.length + cut.length := by
  have hsplit := List.takeWhile_append_dropWhile (p := (· ≠ '\n')) (l := r)
  have hslice : ∀ a, slice (a ++ r) a.length (a.length + (r.takeWhile (· ≠ '\n')).length) =
      r.takeWhile (· ≠ '\n') := by
    intro a
    have h := slice_append a (r.takeWhile (· ≠ '\n')) (r.dropWhile (· ≠ '\n'))
    rwa [hsplit] at h
  by_cases hb : Text.blank (r.takeWhile (· ≠ '\n'))
  · -- the line feed, if there is one, goes too
    cases hd : r.dropWhile (· ≠ '\n') with
    | nil =>
      rw [hd, List.append_nil] at hsplit
      refine ⟨r, [], (List.append_nil r).symm, hsplit ▸ hb, fun a cursor start => ?_⟩
      rw [widen, lineEnd_append, hslice, if_pos hb, hsplit, List.length_append]
      omega
    | cons c rest =>
      have hc := List.head?_dropWhile_not (· ≠ '\n') r
      rw [hd] at hc hsplit
      obtain rfl : c = '\n' := by simpa using hc
      refine ⟨r.takeWhile (· ≠ '\n') ++ ['\n'], rest, ?_, ?_, fun a cursor start => ?_⟩
      · rw [List.append_assoc]
        exact hsplit.symm
      · rw [Text.blank, List.all_append, Bool.and_eq_true]
        exact ⟨hb, by decide⟩
      · have hlen := congrArg List.length hsplit
        rw [List.length_append, List.length_cons] at hlen
        rw [widen, lineEnd_append, hslice, if_pos hb, List.length_append, List.length_append,
          List.length_singleton]
        omega
  · refine ⟨[], r, rfl, rfl, fun a cursor start => ?_⟩
    rw [widen, lineEnd_append, hslice, if_neg hb]
    rfl

/-- What is left after one directive is taken out: what stood before it but for some blanks at the
end, and what is left of the rest but for some blanks at its start. -/
theorem stripFrom_cons (a r w later : Text) : ∃ kept dropped cut rest, r = kept ++ dropped ∧
    Text.blank dropped ∧ '\n' ∉ dropped ∧ (dropped = [] ∨ ∀ c ∈ kept.getLast?, c = '\n') ∧
    later = cut ++ rest ∧ Text.blank cut ∧ ∀ spans,
    stripFrom (a ++ (r ++ (w ++ later))) a.length
      ((a.length + r.length, a.length + r.length + w.length) :: spans) =
    kept ++ stripFrom (a ++ (r ++ (w ++ later)))
      (a.length + r.length + w.length + cut.length) spans := by
  obtain ⟨kept, dropped, hr, hb, hn, hk, hfst⟩ := exists_widen_fst r
  obtain ⟨cut, rest, hl, hc, hsnd⟩ := exists_widen_snd later
  refine ⟨kept, dropped, cut, rest, hr, hb, hn, hk, hl, hc, fun spans => ?_⟩
  have hslice : slice (a ++ (r ++ (w ++ later))) a.length (a.length + kept.length) = kept := by
    rw [hr, List.append_assoc]
    exact slice_append a kept (dropped ++ (w ++ later))
  have hstop : (widen (a ++ (r ++ (w ++ later))) a.length (a.length + r.length)
      (a.length + r.length + w.length)).2 = a.length + r.length + w.length + cut.length := by
    have h := hsnd (a ++ r ++ w) a.length (a.length + r.length)
    simpa [Nat.add_assoc] using h
  rw [stripFrom]
  simp only [hfst, hstop, hslice]

end Body

/-! ### Lexemes around a directive -/

namespace Lexeme

/-- A statement starts and ends between two lexemes. -/
theorem exists_statement {ls : List Lexeme} {t gap body later : Text} {k : Keyword}
    (h : Cut ls t) (he : ls.flatMap masked = gap ++ (k.text ++ (body ++ ';' :: later))) :
    ∃ gs ws js, ls = gs ++ (ws ++ js) ∧ gs.flatMap masked = gap ∧
      ws.flatMap masked = k.text ++ (body ++ [';']) ∧ js.flatMap masked = later ∧
      ∃ c ∈ (ws.flatMap text).head?, c ≠ '\n' := by
  cases hk : k.text with
  | nil => exact absurd hk k.text_ne_nil
  | cons c u =>
    -- the first letter of the keyword and the semicolon are seen, so they are code
    have hall : k.text.all seen = true := by cases k <;> decide
    have hc : seen c := List.all_eq_true.1 hall c (by rw [hk]; simp)
    rw [hk, List.cons_append] at he
    obtain ⟨gs, xs, rfl, hgs, hxs⟩ := exists_eq_append_code h hc he
    obtain ⟨-, -, -, hcut⟩ := cut_append.1 h
    rw [← List.append_assoc] at hxs
    obtain ⟨ys, js, rfl, hys, hjs⟩ := exists_eq_append_code hcut (by decide) hxs
    refine ⟨gs, code c :: (ys ++ [code ';']), js, by simp, hgs, ?_, hjs, c, rfl, ?_⟩
    · rw [List.flatMap_cons, List.flatMap_append, hys, List.append_assoc]
      rfl
    · rintro rfl
      revert hc
      decide

theorem cut_getLast {ls : List Lexeme} {t : Text} (h : Cut ls t) {l : Lexeme}
    (hl : ls.getLast? = some l) : l.WellFormed ∧ l.EndsBefore t := by
  obtain ⟨ks, rfl⟩ := List.getLast?_eq_some_iff.1 hl
  obtain ⟨-, hw, hb, -⟩ := cut_append.1 h
  exact ⟨hw, hb⟩

/-- Before something on the same line, only a slash is read on. -/
theorem firm_of_endsBefore {l : Lexeme} {t : Text} (h : l.EndsBefore t)
    (ht : ∃ c ∈ t.head?, c ≠ '\n') (hs : l ≠ code '/') : l.Firm := by
  cases l with
  | code c => exact firm_code fun hc => hs (hc ▸ rfl)
  | lineComment body =>
    obtain ⟨c, hc, hn⟩ := ht
    exact absurd (h c hc) hn
  | blockComment body => exact fun _ => trivial
  | literal quote body => exact fun _ => trivial

/-- A line feed at the end of a text is code. -/
theorem eq_code_of_getLast {ls : List Lexeme} {t : Text} (h : Cut ls t)
    (hn : ∀ c ∈ (ls.flatMap text).getLast?, c = '\n') {l : Lexeme} (hl : ls.getLast? = some l) :
    l = code '\n' := by
  obtain ⟨hw, -⟩ := cut_getLast h hl
  obtain ⟨ks, rfl⟩ := List.getLast?_eq_some_iff.1 hl
  have hlast : l.text.getLast? = some '\n' := by
    cases hc : l.text.getLast? with
    | none => exact absurd (List.getLast?_eq_none_iff.1 hc) (text_ne_nil l)
    | some c => rw [hn c (by simp [List.getLast?_append, hc])]
  rcases isBlank_getLast hw hlast (by decide) with hl | ⟨body, rfl⟩
  · exact hl
  · have hmem := List.mem_of_getLast? hlast
    exact absurd (by simpa [text] using hmem) hw

/-- What is left before a directive can stand before anything, and no word ends there. -/
theorem exists_kept {gs : List Lexeme} {t kept dropped : Text} (h : Cut gs t)
    (ht : ∃ c ∈ t.head?, c ≠ '\n')
    (hlast : ∀ c ∈ (gs.flatMap masked).getLast?, isWordChar c = false ∧ c ≠ '/')
    (he : gs.flatMap text = kept ++ dropped) (hb : Text.blank dropped) (hn : '\n' ∉ dropped)
    (hk : dropped = [] ∨ ∀ c ∈ kept.getLast?, c = '\n') :
    ∃ ks, gs = ks ++ dropped.map code ∧ ks.flatMap text = kept ∧ (∀ l ∈ ks.getLast?, l.Firm) ∧
      ∀ c ∈ (ks.flatMap masked).getLast?, isWordChar c = false := by
  obtain ⟨ks, rfl, hks⟩ := exists_eq_append_map_code h hb he (.inr ⟨hn, ht⟩)
  refine ⟨ks, rfl, hks, ?_⟩
  rcases hk with rfl | hk
  · rw [List.map_nil, List.append_nil] at h hlast
    refine ⟨fun l hl => ?_, fun c hc => (hlast c hc).1⟩
    obtain ⟨-, hend⟩ := cut_getLast h hl
    refine firm_of_endsBefore hend ht ?_
    rintro rfl
    obtain ⟨ys, rfl⟩ := List.getLast?_eq_some_iff.1 hl
    exact (hlast '/' (by simp [masked, List.getLast?_append])).2 rfl
  · -- the directive stands alone on its line up to there
    obtain ⟨hcut, -⟩ := cut_append.1 h
    have hcode : ∀ l ∈ ks.getLast?, l = code '\n' := fun l hl =>
      eq_code_of_getLast hcut (hks ▸ hk) hl
    refine ⟨fun l hl => hcode l hl ▸ firm_code (by decide), fun c hc => ?_⟩
    cases hl : ks.getLast? with
    | none =>
      rw [List.getLast?_eq_none_iff.1 hl] at hc
      cases hc
    | some l =>
      obtain ⟨ys, rfl⟩ := List.getLast?_eq_some_iff.1 hl
      obtain rfl := hcode l hl
      obtain rfl : '\n' = c := by simpa [masked, List.getLast?_append] using hc
      decide

end Lexeme

/-! ### Taking out all directives -/

/-- The directive stands right after a slash that is not part of a comment; `masked` is the masked
text of its source. -/
def Directive.AfterSlash (masked : Text) (d : Directive) : Prop :=
  (masked.take d.start).getLast? = some '/'

instance (masked : Text) (d : Directive) : Decidable (d.AfterSlash masked) :=
  inferInstanceAs (Decidable (_ = _))

/-- No directive of the source stands right after a slash that is not part of a comment. -/
def Directive.NoneAfterSlash (source : Text) : Prop :=
  ∀ masked ds, mask source = .ok masked → findAll source = .ok ds → ∀ d ∈ ds, ¬ d.AfterSlash masked

instance (source : Text) : Decidable (Directive.NoneAfterSlash source) :=
  match hm : mask source, hd : Directive.findAll source with
  | .ok masked, .ok ds =>
    decidable_of_iff (∀ d ∈ ds, ¬ d.AfterSlash masked)
      ⟨fun h _ _ hm' hd' => by cases hm.symm.trans hm'; cases hd.symm.trans hd'; exact h,
        fun h => h masked ds hm hd⟩
  | .error _, _ => .isTrue fun _ _ hm' => by cases hm.symm.trans hm'
  | _, .error _ => .isTrue fun _ _ _ hd' => by cases hd.symm.trans hd'

namespace Body

/-- Taking out one directive ends between two lexemes: `gone` are those that are done with then,
and `gs` those of them that are kept. What is kept holds no directive and can stand before
anything. `written` and `hidden` are what stands before the lexemes, as written and masked. -/
theorem exists_stripFrom_cons {source written hidden : Text} {ls : List Lexeme} {d : Directive}
    {ds : List Directive} (hc : Lexeme.Cut ls []) (hlen : hidden.length = written.length)
    (hf : Directive.Found source written.length (ls.flatMap Lexeme.masked) (d :: ds))
    (hs : ¬ d.AfterSlash (hidden ++ ls.flatMap Lexeme.masked)) :
    ∃ gs gone js : List Lexeme, ls = gone ++ js ∧ (∀ t, Lexeme.Cut gs t) ∧
      Quiet (gs.flatMap Lexeme.masked) ∧
      (∀ c ∈ (gs.flatMap Lexeme.masked).getLast?, isWordChar c = false) ∧
      Directive.Found source (written ++ gone.flatMap Lexeme.text).length
        (js.flatMap Lexeme.masked) ds ∧
      stripFrom (written ++ ls.flatMap Lexeme.text) written.length (spans (d :: ds)) =
        gs.flatMap Lexeme.text ++ stripFrom (written ++ ls.flatMap Lexeme.text)
          (written ++ gone.flatMap Lexeme.text).length (spans ds) := by
  obtain ⟨gap, k, body, later, hm, hq, hword, hstart, hstop, hf⟩ := hf.gap
  obtain ⟨gs, ws, js, rfl, rfl, hws, rfl, c, hhead, hne⟩ := Lexeme.exists_statement hc hm
  rw [Lexeme.length_flatMap_masked] at hstart
  have hstop : d.stop = d.start + (ws.flatMap Lexeme.text).length := by
    rw [← Lexeme.length_flatMap_masked, hws, hstop]
    simp only [List.length_append, List.length_singleton]
    omega
  obtain ⟨hgs, hrest⟩ := Lexeme.cut_append.1 hc
  obtain ⟨-, hjs⟩ := Lexeme.cut_append.1 hrest
  obtain ⟨kept, dropped, cut, rest, hr, hb, hn, hk, hl, hcut, hstrip⟩ :=
    stripFrom_cons written (gs.flatMap Lexeme.text) (ws.flatMap Lexeme.text)
      (js.flatMap Lexeme.text)
  have hafter : ∃ c ∈ ((ws ++ js).flatMap Lexeme.text ++ []).head?, c ≠ '\n' := by
    refine ⟨c, ?_, hne⟩
    rw [List.append_nil, List.flatMap_append, List.head?_append, Option.mem_def.1 hhead]
    rfl
  -- the last character before the directive is no part of a word, for the keyword is found after
  -- it, and no slash, for the directive does not stand after one
  have hlast : ∀ c ∈ (gs.flatMap Lexeme.masked).getLast?, isWordChar c = false ∧ c ≠ '/' := by
    refine fun c hc => ⟨hword c hc, ?_⟩
    rintro rfl
    refine hs ?_
    rw [Directive.AfterSlash, hstart, List.flatMap_append, ← List.append_assoc, ← hlen,
      ← Lexeme.length_flatMap_masked, ← List.length_append, List.take_left,
      List.getLast?_append, Option.mem_def.1 hc]
    rfl
  obtain ⟨ks, hks, rfl, hfirm, hnoword⟩ := Lexeme.exists_kept hgs hafter hlast hr hb hn hk
  obtain ⟨js, rfl, rfl⟩ := Lexeme.exists_eq_map_code_append hjs hcut hl
  have hgone : (written ++ (gs ++ ws ++ cut.map Lexeme.code).flatMap Lexeme.text).length =
      d.stop + cut.length := by
    simp only [List.flatMap_append, Lexeme.flatMap_text_map_code, List.length_append]
    omega
  refine ⟨ks, gs ++ ws ++ cut.map Lexeme.code, js, by simp, fun t => ?_, ?_, hnoword, ?_, ?_⟩
  · rw [hks] at hgs
    exact (Lexeme.cut_append.1 hgs).1.change fun l hl => hfirm l hl t
  · rw [hks, List.flatMap_append, Lexeme.flatMap_masked_map_code] at hq
    exact hq.of_append_blank hb
  · rw [hgone]
    rw [List.flatMap_append, Lexeme.flatMap_masked_map_code] at hf
    exact hf.of_blank_append hcut
  · have hspan : (d.start, d.stop) = (written.length + (gs.flatMap Lexeme.text).length,
        written.length + (gs.flatMap Lexeme.text).length + (ws.flatMap Lexeme.text).length) := by
      rw [hstop, hstart]
    have htext : (gs ++ (ws ++ (cut.map Lexeme.code ++ js))).flatMap Lexeme.text =
        gs.flatMap Lexeme.text ++ (ws.flatMap Lexeme.text ++
          (cut.map Lexeme.code ++ js).flatMap Lexeme.text) := by
      simp only [List.flatMap_append]
    rw [spans, List.map_cons, hspan, htext, hstrip, hgone, hstop, hstart]
    rfl

/-- What is left of the lexemes of a source is the cut of what is left of the source, and holds no
directive. -/
theorem exists_stripFrom {source written hidden : Text} {ls : List Lexeme} {ds : List Directive}
    (hc : Lexeme.Cut ls []) (hlen : hidden.length = written.length)
    (hf : Directive.Found source written.length (ls.flatMap Lexeme.masked) ds)
    (hs : ∀ d ∈ ds, ¬ d.AfterSlash (hidden ++ ls.flatMap Lexeme.masked)) :
    ∃ ks : List Lexeme, stripFrom (written ++ ls.flatMap Lexeme.text) written.length (spans ds) =
      ks.flatMap Lexeme.text ∧ Lexeme.Cut ks [] ∧ Quiet (ks.flatMap Lexeme.masked) := by
  induction ds generalizing written hidden ls with
  | nil => exact ⟨ls, List.drop_left, hc, hf.quiet⟩
  | cons d ds ih =>
    obtain ⟨gs, gone, js, rfl, hgs, hquiet, hword, hf, hstrip⟩ :=
      exists_stripFrom_cons hc hlen hf (hs d List.mem_cons_self)
    obtain ⟨-, hjs⟩ := Lexeme.cut_append.1 hc
    rw [List.flatMap_append, ← List.append_assoc] at hs
    have hlen : (hidden ++ gone.flatMap Lexeme.masked).length =
        (written ++ gone.flatMap Lexeme.text).length := by
      rw [List.length_append, List.length_append, hlen, Lexeme.length_flatMap_masked]
    obtain ⟨ks, hks, hcut, hquiet'⟩ := ih hjs hlen hf fun e he => hs e (List.mem_cons_of_mem d he)
    refine ⟨gs ++ ks, ?_, Lexeme.cut_append.2 ⟨hgs _, hcut⟩, ?_⟩
    · rw [List.append_assoc, ← List.flatMap_append] at hks
      rw [hstrip, hks, List.flatMap_append]
    · -- no word lies over the joint, since none ends before a directive
      rw [List.flatMap_append]
      exact hquiet.append (fun x hx y _ hw => by simp [hword x hx] at hw) hquiet'

end Body

/-! ### Blank lines at the ends -/

namespace Text

theorem unlines_cons (l : Text) (ls : List Text) :
    unlines (l :: ls) = l ++ ls.flatMap ('\n' :: ·) := by
  induction ls generalizing l with
  | nil => rw [unlines, List.intercalate_singleton, List.flatMap_nil, List.append_nil]
  | cons k ls ih =>
    rw [unlines, List.intercalate_cons_cons, ← unlines, ih k, List.flatMap_cons]
    simp

/-- Lines at the end are set off by the line feeds before them. -/
theorem unlines_append_left {ls : List Text} (h : ls ≠ []) (ks : List Text) :
    unlines (ls ++ ks) = unlines ls ++ ks.flatMap ('\n' :: ·) := by
  cases ls with
  | nil => exact absurd rfl h
  | cons l ls => rw [List.cons_append, unlines_cons, unlines_cons, List.flatMap_append,
      List.append_assoc]

/-- Lines at the start are set off by the line feeds after them. -/
theorem unlines_append_right {ks : List Text} (h : ks ≠ []) (ls : List Text) :
    unlines (ls ++ ks) = ls.flatMap (· ++ ['\n']) ++ unlines ks := by
  induction ls with
  | nil => rfl
  | cons l ls ih =>
    have hne : ls ++ ks ≠ [] := fun he => h (List.append_eq_nil_iff.1 he).2
    rw [List.cons_append, unlines, List.intercalate_cons_of_ne_nil hne, ← unlines, ih,
      List.flatMap_cons]
    simp

theorem unlines_lines (t : Text) : unlines (lines t) = t := List.intercalate_splitOn '\n'

theorem blank_flatMap {ls : List Text} {f : Text → Text} (h : ∀ l ∈ ls, blank (f l)) :
    blank (ls.flatMap f) := by
  rw [blank, List.all_flatMap, List.all_eq_true]
  exact h

end Text

/-- A row of lines without the blank ones at its ends. -/
theorem Body.exists_blankLines (ls : List Text) :
    ∃ before after, (∀ l ∈ before, Text.blank l) ∧ (∀ l ∈ after, Text.blank l) ∧ ls = before ++
      (((ls.dropWhile Text.blank).reverse.dropWhile Text.blank).reverse ++ after) := by
  refine ⟨ls.takeWhile Text.blank, ((ls.dropWhile Text.blank).reverse.takeWhile Text.blank).reverse,
    fun l hl => ?_, fun l hl => ?_, ?_⟩
  · exact List.all_eq_true.1 List.all_takeWhile l hl
  · exact List.all_eq_true.1 List.all_takeWhile l (List.mem_reverse.1 hl)
  · rw [← List.reverse_append, List.takeWhile_append_dropWhile, List.reverse_reverse,
      List.takeWhile_append_dropWhile]

/-- What goes with the blank lines at the ends of a text are blanks; at its end they start with a
line feed. -/
theorem Body.trimBlankLines_eq (t : Text) : trimBlankLines t = [] ∨
    ∃ pre mid post, t = pre ++ (mid ++ post) ∧ Text.blank pre ∧ Text.blank post ∧
      (post = [] ∨ post.head? = some '\n') ∧ trimBlankLines t = mid ++ ['\n'] := by
  obtain ⟨before, after, hb, ha, hls⟩ := exists_blankLines (Text.lines t)
  rw [trimBlankLines]
  generalize (((Text.lines t).dropWhile Text.blank).reverse.dropWhile Text.blank).reverse = kept
    at hls
  by_cases hk : kept = []
  · exact .inl (by rw [hk]; rfl)
  · refine .inr ⟨before.flatMap (· ++ ['\n']), Text.unlines kept, after.flatMap ('\n' :: ·),
      ?_, ?_, ?_, ?_, ?_⟩
    · rw [← Text.unlines_append_left hk, ← Text.unlines_append_right (by simp [hk]), ← hls,
        Text.unlines_lines]
    · refine Text.blank_flatMap fun l hl => ?_
      rw [Text.blank, List.all_append, Bool.and_eq_true]
      exact ⟨hb l hl, by decide⟩
    · refine Text.blank_flatMap fun l hl => ?_
      rw [Text.blank, List.all_cons, Bool.and_eq_true]
      exact ⟨by decide, ha l hl⟩
    · cases after with
      | nil => exact .inl rfl
      | cons l after => exact .inr rfl
    · rw [if_neg (by simpa using hk)]

/-! ### Inert texts -/

/-- The text holds no directive, and whatever is put after it is read as if it stood alone: it is
empty or ends with a line feed of code. -/
def Inert (t : Text) : Prop :=
  ∃ ks : List Lexeme, ks.flatMap Lexeme.text = t ∧ Lexeme.Cut ks [] ∧
    Quiet (ks.flatMap Lexeme.masked) ∧ ∀ l ∈ ks.getLast?, l = .code '\n'

namespace Inert

theorem nil : Inert [] := ⟨[], rfl, trivial, .of_blank rfl, by simp⟩

theorem append {a b : Text} (ha : Inert a) (hb : Inert b) : Inert (a ++ b) := by
  obtain ⟨ks, rfl, hks, hq, hl⟩ := ha
  obtain ⟨js, rfl, hjs, hq', hl'⟩ := hb
  refine ⟨ks ++ js, List.flatMap_append, Lexeme.cut_append.2 ⟨?_, hjs⟩, ?_, ?_⟩
  · exact hks.change fun l h => hl l h ▸ Lexeme.firm_code (by decide) _
  · rw [List.flatMap_append]
    refine hq.append (fun x hx y _ hw => ?_) hq'
    -- the last character is the line feed, which is part of no word
    cases h : ks.getLast? with
    | none =>
      rw [List.getLast?_eq_none_iff.1 h] at hx
      cases hx
    | some l =>
      obtain ⟨ys, rfl⟩ := List.getLast?_eq_some_iff.1 h
      obtain rfl := hl l h
      obtain rfl : '\n' = x := by simpa [Lexeme.masked, List.getLast?_append] using hx
      exact absurd hw (by decide)
  · intro l h
    rw [List.getLast?_append] at h
    cases hj : js.getLast? with
    | none =>
      rw [hj] at h
      exact hl l h
    | some j =>
      rw [hj] at h
      exact hl' l (by rw [hj]; exact h)

/-- A comment on a line of its own. -/
theorem lineComment {body : Text} (h : '\n' ∉ body) : Inert ('/' :: '/' :: (body ++ ['\n'])) := by
  refine ⟨[.lineComment body, .code '\n'], by simp [Lexeme.text], ?_, .of_blank ?_, by simp⟩
  · exact ⟨h, Lexeme.endsBefore_lineFeed _ _, Lexeme.cut_lineFeed _⟩
  · have hspace : isBlank ' ' = true := by decide
    have hfeed : isBlank '\n' = true := by decide
    simp [Text.blank, Lexeme.masked, hspace, hfeed]

theorem lineFeed : Inert ['\n'] :=
  ⟨[.code '\n'], rfl, Lexeme.cut_lineFeed _, .of_blank (by decide), by simp⟩

/-- Nothing is found in an inert text. -/
theorem findAll {t : Text} (h : Inert t) : Directive.findAll t = .ok [] := by
  obtain ⟨ks, rfl, hcut, hq, -⟩ := h
  exact Directive.findAll_eq_ok_iff.2
    ⟨ks, scan_eq_ok_iff.2 ⟨rfl, hcut⟩, Directive.found_of_quiet hq _ 0⟩

end Inert

/-- Blank lines at the ends of a text can be taken away. -/
theorem Body.inert_trimBlankLines {ks : List Lexeme} (h : Lexeme.Cut ks [])
    (hq : Quiet (ks.flatMap Lexeme.masked)) :
    Inert (trimBlankLines (ks.flatMap Lexeme.text)) := by
  rcases trimBlankLines_eq (ks.flatMap Lexeme.text) with he |
    ⟨pre, mid, post, ht, hpre, hpost, hn, he⟩
  · rw [he]
    exact .nil
  · rw [he]
    obtain ⟨js, rfl, hjs⟩ := Lexeme.exists_eq_map_code_append h hpre ht
    obtain ⟨-, hcut⟩ := Lexeme.cut_append.1 h
    -- the blanks at the end start with a line feed, so they are not those of a line comment
    obtain ⟨ms, rfl, rfl⟩ :
        ∃ ms, js = ms ++ post.map Lexeme.code ∧ ms.flatMap Lexeme.text = mid := by
      rcases hn with rfl | hn
      · exact ⟨js, by simp, by simpa using hjs⟩
      · exact Lexeme.exists_eq_append_map_code hcut hpost hjs (.inl hn)
    refine ⟨ms ++ [.code '\n'], by simp [Lexeme.text], Lexeme.cut_append.2 ⟨?_, ?_⟩, ?_, by simp⟩
    · exact (Lexeme.cut_append.1 hcut).1.change fun l _ => Lexeme.endsBefore_lineFeed l _
    · exact Lexeme.cut_lineFeed _
    · rw [List.flatMap_append, List.flatMap_append, Lexeme.flatMap_masked_map_code,
        Lexeme.flatMap_masked_map_code] at hq
      have hms := (hq.of_blank_append hpre).of_append_blank hpost
      rw [List.flatMap_append]
      exact hms.append (Text.apart_of_blank_right (by decide)) (.of_blank (by decide))

/-- The body of a source is inert, if no directive was taken out right after a slash. -/
theorem Body.inert_of_clean {source body : Text} (h : clean source = .ok body)
    (hs : Directive.NoneAfterSlash (Text.unifyNewlines source)) : Inert body := by
  obtain ⟨ds, hd, rfl⟩ := map_eq_ok_iff.1 h
  obtain ⟨ls, hscan, hf⟩ := Directive.findAll_eq_ok_iff.1 hd
  obtain ⟨ht, hcut⟩ := scan_eq_ok_iff.1 hscan
  have hslash := hs _ ds (mask_eq_ok ht hcut) hd
  obtain ⟨ks, hks, hcut, hq⟩ := @exists_stripFrom _ [] [] ls ds hcut rfl hf hslash
  rw [List.nil_append, ht] at hks
  have hstrip : strip (Text.unifyNewlines source) (spans ds) = ks.flatMap Lexeme.text := hks
  rw [hstrip]
  exact inert_trimBlankLines hcut hq

end Flattener
