import Mathlib.Data.List.Pairwise
import Flattener.Proofs.ImportForms

/-!
# Where statements stand

A statement is a keyword with all that follows it up to the first semicolon outside comments and
literals. A *site* says where one stands among the lexemes of a source. The search for directives
goes from site to site, and no keyword is left out: `Directive.Found.exists_sites` lists the sites
that it comes to, by induction over the search.

The main statement is `Directive.spans_of_findAll`. Directives stand one after the other, each at
the site of a statement with its keyword; and a keyword that is seen in the masked text belongs to a
directive or to a pragma that is about something else than the language version.
-/

namespace Flattener

/-- The word stands in the text at the offset, and no word character touches it. -/
def Text.WordAt (w t : Text) (offset : Nat) : Prop :=
  ∃ u v, t = u ++ (w ++ v) ∧ u.length = offset ∧ (∀ c ∈ u.getLast?, isWordChar c = false) ∧
    ∀ c ∈ v.head?, isWordChar c = false

/-! ### Words among lexemes -/

namespace Lexeme

/-- Code that is seen at the start of a masked text stands at the start of the cut. -/
theorem exists_eq_word_append {ls : List Lexeme} {t w b : Text} (h : Cut ls t)
    (hw : w.all seen) (he : ls.flatMap masked = w ++ b) :
    ∃ js, ls = w.map code ++ js ∧ js.flatMap masked = b := by
  induction w generalizing ls with
  | nil => exact ⟨ls, rfl, he⟩
  | cons c w ih =>
    rw [List.all_cons, Bool.and_eq_true] at hw
    obtain ⟨ks, js, rfl, hks, hjs⟩ := exists_eq_append_code h hw.1 (a := []) he
    obtain rfl : ks = [] := by
      rw [← flatMap_text_eq_nil, ← List.length_eq_zero_iff, ← length_flatMap_masked, hks]
      rfl
    obtain ⟨-, -, hcut⟩ := h
    obtain ⟨is, rfl, his⟩ := ih hcut hw.2 hjs
    exact ⟨is, rfl, his⟩

/-- Where a word of code is seen, the lexemes can be split around it. -/
theorem exists_eq_append_word {ls : List Lexeme} {t a b w : Text} (h : Cut ls t) (hne : w ≠ [])
    (hw : w.all seen) (he : ls.flatMap masked = a ++ (w ++ b)) :
    ∃ ks js, ls = ks ++ (w.map code ++ js) ∧ ks.flatMap masked = a ∧ js.flatMap masked = b := by
  cases w with
  | nil => exact absurd rfl hne
  | cons c w =>
    rw [List.all_cons, Bool.and_eq_true] at hw
    obtain ⟨ks, js, rfl, hks, hjs⟩ := exists_eq_append_code h hw.1 he
    obtain ⟨-, -, -, hcut⟩ := cut_append.1 h
    obtain ⟨is, rfl, his⟩ := exists_eq_word_append hcut hw.2 hjs
    exact ⟨ks, is, rfl, hks, his⟩

theorem isWordChar_slash : isWordChar '/' = false := by decide

theorem isWordChar_space : isWordChar ' ' = false := by decide

/-- A word goes on into lexemes if it goes on into what is seen of them. -/
theorem head?_isWordChar_iff {ls : List Lexeme} {t : Text} (h : Cut ls t) :
    (∀ c ∈ (ls.flatMap text).head?, isWordChar c = false) ↔
      ∀ c ∈ (ls.flatMap masked).head?, isWordChar c = false := by
  cases ls with
  | nil => exact Iff.rfl
  | cons l ls =>
    obtain ⟨hw, -⟩ := h
    cases l with
    | code c => simp [text, masked]
    | lineComment body => simp [text, masked, isWordChar_slash, isWordChar_space]
    | blockComment body => simp [text, masked, isWordChar_slash, isWordChar_space]
    | literal quote body => simp [text, masked, isWordChar_of_isQuote hw.1]

/-- A word comes out of lexemes if it comes out of what is seen of them. Only a line comment may
end with a word that is not seen, and nothing follows it on its line. -/
theorem getLast?_isWordChar_iff {ls : List Lexeme} {t : Text} (h : Cut ls t)
    (ht : ∃ c ∈ t.head?, c ≠ '\n') :
    (∀ c ∈ (ls.flatMap text).getLast?, isWordChar c = false) ↔
      ∀ c ∈ (ls.flatMap masked).getLast?, isWordChar c = false := by
  rcases List.eq_nil_or_concat ls with rfl | ⟨ls, l, rfl⟩
  · exact Iff.rfl
  · obtain ⟨-, hw, hb, -⟩ := cut_append.1 (List.concat_eq_append ▸ h)
    cases l with
    | code c => simp [text, masked]
    | lineComment body =>
      obtain ⟨c, hc, hn⟩ := ht
      exact absurd (hb c hc) hn
    | blockComment body =>
      simp [text, masked, List.getLast?_append, List.getLast?_cons, isWordChar_slash,
        isWordChar_space]
    | literal quote body =>
      simp [text, masked, List.getLast?_append, List.getLast?_cons, isWordChar_of_isQuote hw.1]

/-- A row of lexemes is known by how much it writes. -/
theorem eq_of_length_eq {ls ks js is : List Lexeme} (h : ls ++ ks = js ++ is)
    (hl : (ls.flatMap text).length = (js.flatMap text).length) : ls = js ∧ ks = is := by
  rcases List.append_eq_append_iff.1 h with ⟨v, rfl, rfl⟩ | ⟨v, rfl, rfl⟩ <;>
  · obtain rfl : v = [] := by
      rw [← flatMap_text_eq_nil, ← List.length_eq_zero_iff]
      rw [List.flatMap_append, List.length_append] at hl
      omega
    simp

end Lexeme

/-! ### Sites -/

/-- Where a statement stands: its keyword, the lexemes between the keyword and the semicolon, and
the offset of its first character. -/
structure Site where
  keyword : Keyword
  body : List Lexeme
  start : Nat

namespace Site

/-- The lexemes of a statement. -/
def lexemes (s : Site) : List Lexeme := s.keyword.text.map .code ++ (s.body ++ [.code ';'])

/-- The offset just past the semicolon. -/
def stop (s : Site) : Nat := s.start + (s.lexemes.flatMap Lexeme.text).length

/-- The statement stands there among the lexemes of a source: its keyword is a word of its own
outside comments and literals, and it ends with the first semicolon after it outside of them. -/
def In (s : Site) (ls : List Lexeme) : Prop :=
  ∃ before later, ls = before ++ (s.lexemes ++ later) ∧
    (before.flatMap Lexeme.text).length = s.start ∧ .code ';' ∉ s.body ∧
    (∀ c ∈ (before.flatMap Lexeme.text).getLast?, isWordChar c = false) ∧
    ∀ c ∈ (s.body.flatMap Lexeme.text).head?, isWordChar c = false

/-- What the statement says, if it is a directive. -/
def said (s : Site) : Except Text (Option (DirectiveKind × Text)) :=
  Directive.reading s.keyword (s.body.flatMap Lexeme.text) (s.body.flatMap Lexeme.masked)

/-- The directive that the statement is, if it is one. -/
def directive? (source : Text) (s : Site) : Option Directive :=
  match s.said with
  | .ok (some v) => some ⟨v.1, v.2, s.start, s.stop, lineAt source s.start⟩
  | _ => none

theorem flatMap_text_lexemes (s : Site) :
    s.lexemes.flatMap Lexeme.text = s.keyword.text ++ (s.body.flatMap Lexeme.text ++ [';']) := by
  rw [lexemes, List.flatMap_append, Lexeme.flatMap_text_map_code, List.flatMap_append]
  rfl

theorem flatMap_masked_lexemes (s : Site) : s.lexemes.flatMap Lexeme.masked =
    s.keyword.text ++ (s.body.flatMap Lexeme.masked ++ [';']) := by
  rw [lexemes, List.flatMap_append, Lexeme.flatMap_masked_map_code, List.flatMap_append]
  rfl

theorem stop_eq (s : Site) :
    s.stop = s.start + s.keyword.text.length + (s.body.flatMap Lexeme.text).length + 1 := by
  rw [stop, flatMap_text_lexemes]
  simp only [List.length_append, List.length_singleton]
  omega

theorem start_lt_stop (s : Site) : s.start < s.stop := by
  rw [stop_eq]
  omega

theorem In.stop_le {s : Site} {ls : List Lexeme} (h : s.In ls) :
    s.stop ≤ (ls.flatMap Lexeme.text).length := by
  obtain ⟨before, later, rfl, hstart, -⟩ := h
  simp only [stop, List.flatMap_append, List.length_append]
  omega

/-- A statement starts with a letter. -/
theorem In.exists_first {s : Site} {ls : List Lexeme} (h : s.In ls) :
    ∃ c, (ls.flatMap Lexeme.text)[s.start]? = some c ∧ isBlank c = false := by
  obtain ⟨before, later, rfl, hstart, -⟩ := h
  rw [List.flatMap_append, List.getElem?_append_right (by omega), hstart, Nat.sub_self,
    List.flatMap_append, flatMap_text_lexemes]
  cases s.keyword
  · exact ⟨'i', rfl, by decide⟩
  · exact ⟨'p', rfl, by decide⟩

theorem semicolon_notMem_of_masked {body : List Lexeme}
    (hb : ';' ∉ body.flatMap Lexeme.masked) : .code ';' ∉ body := fun hm =>
  hb (List.mem_flatMap.2 ⟨_, hm, by simp [Lexeme.masked]⟩)

theorem In.exists_cut_body {s : Site} {ls : List Lexeme} (h : s.In ls) (hc : Lexeme.Cut ls []) :
    ∃ t, Lexeme.Cut s.body t := by
  obtain ⟨before, later, rfl, -⟩ := h
  obtain ⟨-, hcut⟩ := Lexeme.cut_append.1 hc
  obtain ⟨hcut, -⟩ := Lexeme.cut_append.1 hcut
  obtain ⟨-, hcut⟩ := Lexeme.cut_append.1 hcut
  obtain ⟨hbody, -⟩ := Lexeme.cut_append.1 hcut
  exact ⟨_, hbody⟩

/-- The keyword of a site is seen as a word in the masked text. -/
theorem In.wordAt {s : Site} {ls : List Lexeme} (h : s.In ls) (hc : Lexeme.Cut ls []) :
    Text.WordAt s.keyword.text (ls.flatMap Lexeme.masked) s.start := by
  obtain ⟨t, hbody⟩ := h.exists_cut_body hc
  obtain ⟨before, later, rfl, hstart, hb, hl, hr⟩ := h
  obtain ⟨hbefore, -⟩ := Lexeme.cut_append.1 hc
  refine ⟨before.flatMap Lexeme.masked, s.body.flatMap Lexeme.masked ++ ';' ::
    later.flatMap Lexeme.masked, ?_, ?_, ?_, ?_⟩
  · simp only [List.flatMap_append, flatMap_masked_lexemes]
    simp
  · rw [Lexeme.length_flatMap_masked, hstart]
  · refine (Lexeme.getLast?_isWordChar_iff hbefore ?_).1 hl
    -- a keyword follows, which is no line feed
    rw [List.append_nil, List.flatMap_append, flatMap_text_lexemes]
    cases s.keyword
    · exact ⟨'i', rfl, by decide⟩
    · exact ⟨'p', rfl, by decide⟩
  · have hseen := (Lexeme.head?_isWordChar_iff hbody).1 hr
    cases hm : s.body.flatMap Lexeme.masked with
    | nil =>
      intro c hc
      obtain rfl : ';' = c := by simpa using hc
      decide
    | cons d m =>
      rw [hm] at hseen
      exact hseen

/-- One statement stands at one place. -/
theorem In.unique {s s' : Site} {ls : List Lexeme} (h : s.In ls) (h' : s'.In ls)
    (he : s.start = s'.start) : s = s' := by
  obtain ⟨before, later, hls, hstart, hb, -⟩ := h
  obtain ⟨before', later', hls', hstart', hb', -⟩ := h'
  obtain ⟨-, hrest⟩ := Lexeme.eq_of_length_eq (hls.symm.trans hls')
    (by rw [hstart, hstart', he])
  obtain ⟨k, body, start⟩ := s
  obtain ⟨k', body', start'⟩ := s'
  simp only [lexemes, List.append_assoc] at hrest hb hb' he
  -- the keywords are equal, since they start with different letters
  obtain rfl : k = k' := by
    have hhead := congrArg List.head? hrest
    cases k <;> cases k'
    · rfl
    · have hletter : 'i' = 'p' := Lexeme.code.inj (Option.some.inj hhead)
      exact absurd hletter (by decide)
    · have hletter : 'p' = 'i' := Lexeme.code.inj (Option.some.inj hhead)
      exact absurd hletter (by decide)
    · rfl
  have hbodies := List.append_cancel_left hrest
  obtain rfl : body = body' := by
    rcases List.append_eq_append_iff.1 hbodies with ⟨v, rfl, hv⟩ | ⟨v, rfl, hv⟩ <;>
    · cases v with
      | nil => simp
      | cons l v =>
        obtain ⟨rfl, -⟩ := List.cons.inj (hv : Lexeme.code ';' :: _ = l :: _)
        simp at hb hb'
  rw [he]

end Site

/-! ### The sites that a search comes to -/

/-- A keyword that is a word does not start in a text without keywords that ends with no word. -/
theorem Keyword.length_le_of_wordAt {front rest u v : Text} {w : Keyword}
    (hn : next? false front = none) (hl : ∀ c ∈ front.getLast?, isWordChar c = false)
    (he : front ++ rest = u ++ (w.text ++ v)) (hu : ∀ c ∈ u.getLast?, isWordChar c = false)
    (hv : ∀ c ∈ v.head?, isWordChar c = false) : front.length ≤ u.length := by
  rcases List.append_eq_append_iff.1 he with ⟨b, rfl, -⟩ | ⟨b, rfl, hb⟩
  · simp
  rcases List.append_eq_append_iff.1 hb with ⟨d, rfl, rfl⟩ | ⟨d, hd, -⟩
  · -- the word would stand in the text
    refine absurd ⟨u, d, rfl, hu, fun c hc => hv c ?_⟩ (next?_eq_none_iff.1 hn w)
    rw [List.head?_append, Option.mem_def.1 hc]
    rfl
  · -- the text would end with a part of the word
    cases hlast : b.getLast? with
    | none => simp [List.getLast?_eq_none_iff.1 hlast]
    | some c =>
      have hfalse := hl c (by rw [List.getLast?_append, hlast]; rfl)
      have htrue : isWordChar c = true :=
        isWordChar_of_mem_text (k := w) (by rw [hd]; simp [List.mem_of_getLast? hlast])
      rw [hfalse] at htrue
      cases htrue

/-- A keyword after `front`, which holds none, stands in the statement that follows, up to its
semicolon, or after it. -/
theorem Keyword.wordAt_cases {front k body later : Text} {w : Keyword} {i : Nat}
    (hn : next? false front = none) (hl : ∀ c ∈ front.getLast?, isWordChar c = false)
    (h : Text.WordAt w.text (front ++ (k ++ (body ++ ';' :: later))) i) :
    (front.length ≤ i ∧ i + w.text.length ≤ front.length + k.length + body.length + 1) ∨
      ∃ j, i = front.length + k.length + body.length + 1 + j ∧ Text.WordAt w.text later j := by
  obtain ⟨u, v, he, rfl, hu, hv⟩ := h
  have hle := length_le_of_wordAt hn hl he hu hv
  have hsplit : (front ++ (k ++ body) ++ [';']) ++ later = u ++ (w.text ++ v) := by
    rw [← he]
    simp
  rcases List.append_eq_append_iff.1 hsplit with ⟨u', rfl, rfl⟩ | ⟨a, ha, hw⟩
  · refine .inr ⟨u'.length, by simp; omega, u', v, rfl, rfl, fun c hc => hu c ?_, hv⟩
    rw [List.getLast?_append, Option.mem_def.1 hc]
    rfl
  rcases List.eq_nil_or_concat a with rfl | ⟨a, c, rfl⟩
  · rw [List.append_nil] at ha
    refine .inr ⟨0, by simp [← ha]; omega, [], v, hw.symm, rfl, by simp, hv⟩
  · -- the semicolon is no part of the word, so the word ends before it
    rw [List.concat_eq_append, ← List.append_assoc u] at ha
    obtain ⟨hu', hc⟩ := List.append_inj' ha rfl
    obtain rfl : ';' = c := by simpa using hc
    have hlen := congrArg List.length hu'
    simp only [List.length_append] at hlen
    refine .inl ⟨hle, ?_⟩
    rw [List.concat_eq_append] at hw
    rcases List.append_eq_append_iff.1 hw with ⟨d, hd, -⟩ | ⟨d, hd, -⟩
    · have := congrArg List.length hd
      simp only [List.length_append, List.length_singleton] at this
      omega
    · have hsemi : ';' ∉ w.text := by cases w <;> decide
      exact absurd (by rw [hd]; simp) hsemi

/-- The step: where a keyword is found, a statement stands. The lexemes that are done with are
`before`. -/
theorem Site.exists_in_of_next? {before ls : List Lexeme} {skipped body later : Text} {k : Keyword}
    (hc : Lexeme.Cut ls [])
    (hn : Keyword.next? false (ls.flatMap Lexeme.masked) = some (skipped, k, body ++ ';' :: later))
    (hsemi : ';' ∉ body)
    (hb : ∀ c ∈ (before.flatMap Lexeme.text).getLast?, isWordChar c = false) :
    ∃ (s : Site) (gap rest : List Lexeme), ls = gap ++ (s.lexemes ++ rest) ∧ s.keyword = k ∧
      gap.flatMap Lexeme.masked = skipped ∧ s.body.flatMap Lexeme.masked = body ∧
      rest.flatMap Lexeme.masked = later ∧ Lexeme.Cut rest [] ∧
      s.start = (before.flatMap Lexeme.text).length + skipped.length ∧ s.In (before ++ ls) := by
  obtain ⟨hm, hlast, hhead⟩ := Keyword.eq_of_next? hn
  have hall : k.text.all Lexeme.seen = true := by cases k <;> decide
  obtain ⟨gap, xs, rfl, rfl, hxs⟩ := Lexeme.exists_eq_append_word hc k.text_ne_nil hall hm
  obtain ⟨hgap, hcut⟩ := Lexeme.cut_append.1 hc
  obtain ⟨-, hcut⟩ := Lexeme.cut_append.1 hcut
  obtain ⟨bs, rest, rfl, rfl, rfl⟩ := Lexeme.exists_eq_append_code hcut (by decide) hxs
  obtain ⟨hbs, -, -, hrest⟩ := Lexeme.cut_append.1 hcut
  refine ⟨⟨k, bs, (before.flatMap Lexeme.text).length + (gap.flatMap Lexeme.masked).length⟩, gap,
    rest, by simp [lexemes], rfl, rfl, rfl, rfl, hrest, rfl, before ++ gap, rest,
    by simp [lexemes], ?_, semicolon_notMem_of_masked hsemi, ?_, ?_⟩
  · rw [List.flatMap_append, List.length_append, Lexeme.length_flatMap_masked]
  · have hgapLast := (Lexeme.getLast?_isWordChar_iff hgap ?_).2 hlast
    · rw [List.flatMap_append, List.getLast?_append]
      cases hl : (gap.flatMap Lexeme.text).getLast? with
      | none => exact hb
      | some c =>
        rw [hl] at hgapLast
        exact hgapLast
    · -- the keyword follows, which is no line feed
      rw [List.append_nil, List.flatMap_append, Lexeme.flatMap_text_map_code]
      cases k
      · exact ⟨'i', rfl, by decide⟩
      · exact ⟨'p', rfl, by decide⟩
  · refine (Lexeme.head?_isWordChar_iff hbs).2 fun c hc => hhead c ?_
    rw [List.head?_append, Option.mem_def.1 hc]
    rfl

/-- What is written at a site is read there. -/
theorem Site.In.take_drop {s : Site} {ls : List Lexeme} (h : s.In ls) :
    ((ls.flatMap Lexeme.text).drop (s.start + s.keyword.text.length)).take
      (s.body.flatMap Lexeme.masked).length = s.body.flatMap Lexeme.text := by
  obtain ⟨before, later, rfl, hstart, -⟩ := h
  rw [List.flatMap_append, List.flatMap_append, flatMap_text_lexemes, ← hstart, ← List.drop_drop,
    List.drop_left, List.append_assoc, List.drop_left, List.append_assoc,
    Lexeme.length_flatMap_masked, List.take_left]

namespace Directive

/-- The run: the search goes from site to site. They stand one after the other, each says something
or nothing, and no keyword stands outside of them. -/
theorem Found.exists_sites {source m : Text} {offset : Nat} {ds : List Directive}
    (hf : Found source offset m ds) {before ls : List Lexeme} (hc : Lexeme.Cut ls [])
    (hs : (before ++ ls).flatMap Lexeme.text = source) (hm : ls.flatMap Lexeme.masked = m)
    (ho : (before.flatMap Lexeme.text).length = offset)
    (hb : ∀ c ∈ (before.flatMap Lexeme.text).getLast?, isWordChar c = false) :
    ∃ ss : List Site, (∀ s ∈ ss, s.In (before ++ ls) ∧ offset ≤ s.start ∧ ∃ v, s.said = .ok v) ∧
      (ss.Pairwise fun s s' => s.stop ≤ s'.start) ∧ ds = ss.filterMap (Site.directive? source) ∧
      ∀ (k : Keyword) (i : Nat), Text.WordAt k.text m i →
        ∃ s ∈ ss, s.start ≤ offset + i ∧ offset + i + k.text.length ≤ s.stop := by
  induction hf generalizing before ls with
  | done hn =>
    refine ⟨[], by simp, .nil, rfl, ?_⟩
    rintro k i ⟨u, v, rfl, -, hu, hv⟩
    exact absurd ⟨u, v, rfl, hu, hv⟩ (Keyword.next?_eq_none_iff.1 hn k)
  | @statement offset m skipped body later k v ds hn hsemi hv hl ih =>
    subst hm ho
    obtain ⟨s, gap, rest, rfl, rfl, hgap, rfl, rfl, hrest, hstart, hin⟩ :=
      @Site.exists_in_of_next? before _ _ _ _ _ hc hn hsemi hb
    have hsaid : s.said = .ok v := by
      rw [Site.said, ← hv, ← hs, ← hstart, hin.take_drop]
    have hstop : (before.flatMap Lexeme.text).length + skipped.length + s.keyword.text.length +
        (s.body.flatMap Lexeme.masked).length + 1 = s.stop := by
      rw [Site.stop_eq, hstart, Lexeme.length_flatMap_masked]
    rw [hstop] at ih hl ⊢
    rw [← hstart] at hv ⊢
    have hrow : before ++ (gap ++ (s.lexemes ++ rest)) =
        (before ++ (gap ++ s.lexemes)) ++ rest := by simp
    have hdone : ((before ++ (gap ++ s.lexemes)).flatMap Lexeme.text).length = s.stop := by
      rw [Site.stop, hstart, ← hgap, Lexeme.length_flatMap_masked]
      simp only [List.flatMap_append, List.length_append]
      omega
    have hlast : ∀ c ∈ ((before ++ (gap ++ s.lexemes)).flatMap Lexeme.text).getLast?,
        isWordChar c = false := by
      intro c hc
      obtain rfl : ';' = c := by
        simpa [List.flatMap_append, Site.flatMap_text_lexemes, List.getLast?_append] using hc
      decide
    obtain ⟨ss, hss, hpair, rfl, hcomplete⟩ := ih hrest (by rw [← hrow, hs]) rfl hdone hlast
    refine ⟨s :: ss, ?_, List.pairwise_cons.2 ⟨fun s' hs' => (hss s' hs').2.1, hpair⟩, ?_, ?_⟩
    · intro s' hs'
      rcases List.mem_cons.1 hs' with rfl | hs'
      · exact ⟨hin, by omega, v, hsaid⟩
      · obtain ⟨hin', hle, hsaid'⟩ := hss s' hs'
        have := s.start_lt_stop
        exact ⟨hrow ▸ hin', by omega, hsaid'⟩
    · rw [List.filterMap_cons, Site.directive?, hsaid]
      cases v <;> rfl
    · intro k i hk
      rw [List.flatMap_append, List.flatMap_append, Site.flatMap_masked_lexemes, hgap,
        List.append_assoc, List.append_assoc] at hk
      rcases Keyword.wordAt_cases (Keyword.next?_skipped hn) (Keyword.eq_of_next? hn).2.1 hk with
        ⟨hle, hlt⟩ | ⟨j, rfl, hj⟩
      · exact ⟨s, List.mem_cons_self, by omega, by omega⟩
      · obtain ⟨s', hs', hle, hlt⟩ := hcomplete k j hj
        exact ⟨s', List.mem_cons_of_mem s hs', by omega, by omega⟩

end Directive

/-! ### Directives and their sites -/

/-- Of things that stand one after the other, any two are apart. -/
theorem apart_of_pairwise {α : Type} {start stop : α → Nat} {xs : List α}
    (h : xs.Pairwise fun x y => stop x ≤ start y) {x y : α} (hx : x ∈ xs) (hy : y ∈ xs) :
    x = y ∨ stop x ≤ start y ∨ stop y ≤ start x :=
  List.Pairwise.forall_of_forall_of_flip (R := fun x y =>
      x = y ∨ stop x ≤ start y ∨ stop y ≤ start x)
    (fun _ _ => .inl rfl) (h.imp fun h => .inr (.inl h)) (h.imp fun h => .inr (.inr h)) hx hy

/-- The keyword of the directives of a kind. -/
def DirectiveKind.keyword : DirectiveKind → Keyword
  | imports => .imports
  | version => .pragma

namespace Directive

/-- The pragma is about the language version: that is its first word. -/
def NamesLanguage (masked : Text) : Prop :=
  ∃ gap rest, masked = gap ++ ("solidity".toList ++ rest) ∧ Text.blank gap ∧
    ∀ c ∈ rest.head?, isWordChar c = false

theorem isSome_declaration?_iff {t : Text} : (declaration? t).isSome ↔ NamesLanguage t := by
  have hhead : ∀ rest : Text, (∀ c ∈ rest.head?, isWordChar c = false) ↔
      rest.head?.any isWordChar = false := fun rest => by cases rest <;> simp
  unfold declaration?
  constructor
  · intro h
    split at h
    · rename_i rest hrest
      obtain ⟨gap, hgap, hb⟩ := Text.exists_eq_append_trimLeft t
      refine ⟨gap, rest, ?_, hb, (hhead rest).2 ?_⟩
      · rw [← Text.dropPrefix?_eq_some.1 hrest]
        exact hgap
      · split at h
        · cases h
        · rename_i hany
          simpa using hany
    · cases h
  · rintro ⟨gap, rest, rfl, hgap, hrest⟩
    have hword : ∀ c ∈ ("solidity".toList ++ rest).head?, isBlank c = false :=
      Statement.head?_word_append (by decide) (by decide) rest
    rw [Text.trimLeft_append hgap hword, Text.dropPrefix?_eq_some.2 rfl]
    simp only [(hhead rest).1 hrest, Bool.false_eq_true, if_false, Option.isSome_some]

/-- What a statement that is a directive says. -/
theorem eq_keyword_of_reading {k : Keyword} {written masked : Text} {v : DirectiveKind × Text}
    (h : reading k written masked = .ok (some v)) : k = v.1.keyword ∧
      (v.1 = .version → NamesLanguage masked) ∧
      (v.1 = .imports → specifier written masked = .ok v.2) := by
  cases k with
  | imports =>
    obtain ⟨path, hpath, he⟩ := map_eq_ok_iff.1 h
    cases he
    exact ⟨rfl, nofun, fun _ => hpath⟩
  | pragma =>
    obtain ⟨value, hvalue, rfl⟩ := Option.map_eq_some_iff.1 (Except.ok.inj h)
    exact ⟨rfl, fun _ => isSome_declaration?_iff.1 (by rw [hvalue]; rfl), nofun⟩

/-- The directive stands at the site of the statement. -/
structure StandsAt (d : Directive) (s : Site) : Prop where
  keyword_eq : s.keyword = d.kind.keyword
  start_eq : s.start = d.start
  stop_eq : s.stop = d.stop

end Directive

namespace Site

open Directive

theorem directive?_eq_some {source : Text} {s : Site} {d : Directive}
    (h : s.directive? source = some d) :
    d.StandsAt s ∧ d.line = lineAt source d.start ∧ s.said = .ok (some (d.kind, d.value)) := by
  unfold directive? at h
  split at h
  · rename_i v hv
    cases h
    exact ⟨⟨(eq_keyword_of_reading hv).1, rfl, rfl⟩, rfl, hv⟩
  · cases h

/-- A statement that is understood and is no directive is a pragma about something else. -/
theorem directive?_eq_none {source : Text} {s : Site} {v : Option (DirectiveKind × Text)}
    (hs : s.said = .ok v) (h : s.directive? source = none) :
    s.keyword = .pragma ∧ ¬ NamesLanguage (s.body.flatMap Lexeme.masked) := by
  cases v with
  | some v =>
    rw [directive?, hs] at h
    cases h
  | none =>
    obtain ⟨hk, hd⟩ := eq_pragma_of_reading hs
    exact ⟨hk, fun hn => by simpa [hd] using isSome_declaration?_iff.2 hn⟩

end Site

namespace Directive

/-- The directives of a source are those of its statements that are directives. -/
theorem exists_sites_of_findAll {source : Text} {ds : List Directive}
    (h : findAll source = .ok ds) : ∃ (ls : List Lexeme) (ss : List Site), scan source = .ok ls ∧
      (∀ s ∈ ss, s.In ls ∧ ∃ v, s.said = .ok v) ∧ (ss.Pairwise fun s s' => s.stop ≤ s'.start) ∧
      ds = ss.filterMap (Site.directive? source) ∧
      ∀ (k : Keyword) (i : Nat), Text.WordAt k.text (ls.flatMap Lexeme.masked) i →
        ∃ s ∈ ss, s.start ≤ i ∧ i + k.text.length ≤ s.stop := by
  obtain ⟨ls, hs, hf⟩ := findAll_eq_ok_iff.1 h
  obtain ⟨htext, hcut⟩ := scan_eq_ok_iff.1 hs
  obtain ⟨ss, hss, hpair, hds, hcomplete⟩ :=
    @Found.exists_sites _ _ _ _ hf [] ls hcut htext rfl rfl (by simp)
  refine ⟨ls, ss, hs, fun s hm => ⟨(hss s hm).1, (hss s hm).2.2⟩, hpair, hds, fun k i hk => ?_⟩
  simpa using hcomplete k i hk

/-- Directives stand one after the other, as their statements do. -/
theorem pairwise_of_findAll {source : Text} {ds : List Directive} (h : findAll source = .ok ds) :
    ds.Pairwise fun d e => d.stop ≤ e.start := by
  obtain ⟨ls, ss, -, -, hpair, rfl, -⟩ := exists_sites_of_findAll h
  refine hpair.filterMap _ fun s s' hle d hd e he => ?_
  rw [← (Site.directive?_eq_some hd).1.stop_eq, ← (Site.directive?_eq_some he).1.start_eq]
  exact hle

/-- A directive stands at the site of a statement that says what it says. -/
theorem exists_site_of_mem {source : Text} {ls : List Lexeme} {ds : List Directive}
    (hs : scan source = .ok ls) (h : findAll source = .ok ds) {d : Directive} (hd : d ∈ ds) :
    ∃ s : Site, s.In ls ∧ d.StandsAt s ∧ d.line = lineAt source d.start ∧
      s.said = .ok (some (d.kind, d.value)) := by
  obtain ⟨ls', ss, hs', hss, -, rfl, -⟩ := exists_sites_of_findAll h
  obtain rfl : ls = ls' := Except.ok.inj (hs.symm.trans hs')
  obtain ⟨s, hm, hsd⟩ := List.mem_filterMap.1 hd
  exact ⟨s, (hss s hm).1, Site.directive?_eq_some hsd⟩

theorem StandsAt.start_lt_stop {d : Directive} {s : Site} (h : d.StandsAt s) :
    d.start < d.stop := by
  rw [← h.start_eq, ← h.stop_eq]
  exact s.start_lt_stop

/-- The directives of a source stand one after the other, each at the site of a statement with its
keyword, on the line that it carries. Every keyword that is seen in the masked text as a word stands
in a directive, or else in a pragma about something else than the language version, which shares no
character with a directive. -/
theorem spans_of_findAll {source : Text} {ds : List Directive} (hd : findAll source = .ok ds) :
    ∃ ls, scan source = .ok ls ∧ (ds.Pairwise fun d e => d.stop ≤ e.start) ∧
      (∀ d ∈ ds, d.start < d.stop ∧ d.stop ≤ source.length ∧
        d.line = 1 + (source.take d.start).count '\n' ∧ ∃ s : Site, s.In ls ∧ d.StandsAt s ∧
          (d.kind = .version → NamesLanguage (s.body.flatMap Lexeme.masked))) ∧
      ∀ (k : Keyword) (i : Nat), Text.WordAt k.text (ls.flatMap Lexeme.masked) i →
        (∃ d ∈ ds, d.start ≤ i ∧ i + k.text.length ≤ d.stop) ∨
        ∃ s : Site, s.In ls ∧ s.keyword = .pragma ∧
          ¬ NamesLanguage (s.body.flatMap Lexeme.masked) ∧ s.start ≤ i ∧
          i + k.text.length ≤ s.stop ∧ ∀ d ∈ ds, d.stop ≤ s.start ∨ s.stop ≤ d.start := by
  obtain ⟨ls, ss, hs, hss, hpair, hds, hcomplete⟩ := exists_sites_of_findAll hd
  refine ⟨ls, hs, pairwise_of_findAll hd, fun d hm => ?_, fun k i hk => ?_⟩
  · obtain ⟨s, hin, hstands, hline, hsaid⟩ := exists_site_of_mem hs hd hm
    have hle := hin.stop_le
    rw [hstands.stop_eq, (scan_eq_ok_iff.1 hs).1] at hle
    exact ⟨hstands.start_lt_stop, hle, by rw [hline, lineAt, Text.lineFeeds, Nat.add_comm], s, hin,
      hstands, (eq_keyword_of_reading hsaid).2.1⟩
  · subst hds
    obtain ⟨s, hm, hle, hlt⟩ := hcomplete k i hk
    obtain ⟨hin, v, hv⟩ := hss s hm
    cases hsd : s.directive? source with
    | some d =>
      obtain ⟨hstands, -⟩ := Site.directive?_eq_some hsd
      refine .inl ⟨d, List.mem_filterMap.2 ⟨s, hm, hsd⟩, ?_, ?_⟩
      · rwa [← hstands.start_eq]
      · rwa [← hstands.stop_eq]
    | none =>
      obtain ⟨hkey, hnames⟩ := Site.directive?_eq_none hv hsd
      refine .inr ⟨s, hin, hkey, hnames, hle, hlt, fun d hd => ?_⟩
      obtain ⟨s', hm', hsd'⟩ := List.mem_filterMap.1 hd
      obtain ⟨hstands, -⟩ := Site.directive?_eq_some hsd'
      rw [← hstands.start_eq, ← hstands.stop_eq]
      rcases apart_of_pairwise hpair hm hm' with rfl | h | h
      · cases hsd.symm.trans hsd'
      · exact .inr h
      · exact .inl h

/-- A source with one directive. The first `import` stands in a pragma about something else. -/
def pragmaThenImport : Text := "pragma a import;\nimport 'b';".toList

theorem spans_of_findAll_pragmaThenImport :
    findAll pragmaThenImport = .ok [⟨.imports, ['b'], 17, 28, 2⟩] ∧
      ∃ ls, ∃ s : Site, scan pragmaThenImport = .ok ls ∧ s.In ls ∧ s.keyword = .pragma ∧
        s.start ≤ 9 ∧ 15 ≤ s.stop ∧ s.stop ≤ 17 := by
  have hd : findAll pragmaThenImport = .ok [⟨.imports, ['b'], 17, 28, 2⟩] := by decide +kernel
  refine ⟨hd, ?_⟩
  obtain ⟨ls, hs, -, -, hcomplete⟩ := spans_of_findAll hd
  have hm : mask pragmaThenImport = .ok "pragma a import;\nimport '_';".toList := by decide +kernel
  rw [mask, hs] at hm
  have hword : Text.WordAt Keyword.imports.text (ls.flatMap Lexeme.masked) 9 := by
    rw [show ls.flatMap Lexeme.masked = _ from Except.ok.inj hm]
    refine ⟨"pragma a ".toList, ";\nimport '_';".toList, by decide, by decide, ?_, ?_⟩ <;>
    · rintro c ⟨⟩
      decide
  rcases hcomplete .imports 9 hword with ⟨d, hmem, hle, -⟩ | ⟨s, hin, hk, -, hle, hlt, hapart⟩
  · obtain rfl := List.mem_singleton.1 hmem
    exact absurd hle (by decide)
  · refine ⟨ls, s, hs, hin, hk, hle, hlt, ?_⟩
    rcases hapart _ List.mem_cons_self with h | h
    · exact absurd (Nat.le_trans h hle) (by decide)
    · exact h

end Directive

end Flattener
