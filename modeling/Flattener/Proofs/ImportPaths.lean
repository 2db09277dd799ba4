import Flattener.Proofs.Statements

/-!
# Which literals an import statement names

The path of an import statement is found in the masked text, where a literal is two quotes with
underscores between them. The first quote of the path opens a literal, and the last one closes a
literal, but that need not be the same one: if the statement is not complete behind the first
literal, the search goes on to a later quote of the same kind. So the path is a *stretch* of the
statement, from inside one literal to inside another, with all that stands between them
(`Statement.Stretch`). `Directive.specifier_lexemes_eq_ok_iff` says that a statement is accepted
exactly if a stretch stands in a frame, and that the specifier is what is written in that stretch.

The main statement is `Directive.paths_of_scan`. The value of a directive is one literal exactly if
the statement has no other one outside a list of symbols, and a statement without a frame around a
stretch makes the search fail. `Directive.paths_twoLiterals` is a statement with two literals that
is accepted.
-/

namespace Flattener

/-! ### Literals among lexemes -/

namespace Lexeme

/-- What stands between the quotes, if the lexeme is a literal. -/
def literal? : Lexeme → Option Text
  | literal _ body => some body
  | _ => none

/-- Whether nothing but blanks is seen of the lexeme. -/
def faint (l : Lexeme) : Bool := Text.blank l.masked

/-- The only lexemes in which a quote is seen are literals with that quote. -/
theorem exists_literal_of_mem_masked {l : Lexeme} (hw : l.WellFormed) {q : Char} (hq : isQuote q)
    (hm : q ∈ l.masked) : ∃ body, l = literal q body := by
  have hblank : ∀ {t : Text}, Text.blank t → q ∉ t := fun ht hm => by
    rw [Statement.unquoted_blank _ ht q hm] at hq
    cases hq
  cases l with
  | code c =>
    obtain rfl : q = c := by simpa [masked] using hm
    rw [show isQuote q = false from hw] at hq
    cases hq
  | lineComment body => exact absurd hm (hblank (blank_masked_lineComment body))
  | blockComment body => exact absurd hm (hblank (blank_masked_blockComment body))
  | literal quote body =>
    have hunder : q ≠ '_' := by rintro rfl; revert hq; decide
    obtain rfl : q = quote := by
      simp only [masked, List.mem_cons, List.mem_append, List.mem_map, List.not_mem_nil,
        or_false] at hm
      rcases hm with rfl | ⟨c, -, hc⟩ | rfl
      · rfl
      · exact absurd hc.symm hunder
      · rfl
    exact ⟨body, rfl⟩

/-- A quote behind hidden characters is the first one, and what stands before it is hidden. -/
theorem eq_of_hidden_append {body a b t : Text} {q : Char} (hq : isQuote q)
    (h : body.map (fun _ => '_') ++ q :: t = a ++ q :: b) :
    (a = body.map (fun _ => '_') ∧ b = t) ∨
      ∃ a', a = body.map (fun _ => '_') ++ q :: a' ∧ t = a' ++ q :: b := by
  have hunder : ∀ v, body.map (fun _ => '_') ≠ a ++ q :: v := fun v hv => by
    have hm : q ∈ body.map fun _ => '_' := by rw [hv]; simp
    obtain ⟨c, -, rfl⟩ := List.mem_map.1 hm
    revert hq
    decide
  rcases List.append_eq_append_iff.1 h with ⟨v, rfl, hv⟩ | ⟨v, hv, he⟩
  · cases v with
    | nil => exact .inl ⟨by simp, (List.cons.inj hv).2.symm⟩
    | cons c v =>
      obtain ⟨rfl, ht⟩ := List.cons.inj hv
      exact .inr ⟨v, rfl, ht⟩
  · cases v with
    | nil => exact .inl ⟨by simpa using hv.symm, (List.cons.inj he).2⟩
    | cons c v =>
      obtain ⟨rfl, -⟩ := List.cons.inj he
      exact absurd hv (hunder v)

/-- A quote that is seen opens a literal or closes one. -/
theorem exists_literal_of_quote {ls : List Lexeme} {t a b : Text} {q : Char} (h : Cut ls t)
    (hq : isQuote q) (he : ls.flatMap masked = a ++ q :: b) :
    ∃ ks body js, ls = ks ++ literal q body :: js ∧
      ((ks.flatMap masked = a ∧ b = body.map (fun _ => '_') ++ q :: js.flatMap masked) ∨
        (a = ks.flatMap masked ++ q :: body.map (fun _ => '_') ∧ b = js.flatMap masked)) := by
  induction ls generalizing a with
  | nil => simp at he
  | cons l ls ih =>
    obtain ⟨hw, -, hcut⟩ := h
    rw [List.flatMap_cons] at he
    rcases List.append_eq_append_iff.1 he with ⟨v, rfl, hv⟩ | ⟨v, hv, hrest⟩
    · obtain ⟨ks, body, js, rfl, hcases⟩ := ih hcut hv
      refine ⟨l :: ks, body, js, rfl, ?_⟩
      simpa using hcases
    · cases v with
      | nil =>
        obtain ⟨ks, body, js, rfl, hcases⟩ := ih hcut (a := []) hrest.symm
        obtain rfl : a = l.masked := by simpa using hv.symm
        refine ⟨l :: ks, body, js, rfl, ?_⟩
        simpa using hcases
      | cons c v =>
        -- the quote lies within the first lexeme
        obtain ⟨rfl, rfl⟩ := List.cons.inj hrest
        obtain ⟨body, rfl⟩ := exists_literal_of_mem_masked hw hq (by rw [hv]; simp)
        refine ⟨[], body, ls, rfl, ?_⟩
        cases a with
        | nil =>
          obtain ⟨-, rfl⟩ := List.cons.inj (hv : q :: (body.map (fun _ => '_') ++ [q]) = q :: v)
          exact .inl ⟨rfl, by simp⟩
        | cons d a =>
          obtain ⟨rfl, htail⟩ :=
            List.cons.inj (hv : q :: (body.map (fun _ => '_') ++ [q]) = d :: (a ++ q :: v))
          rcases eq_of_hidden_append hq htail with ⟨rfl, rfl⟩ | ⟨a', -, hnil⟩
          · exact .inr ⟨by simp, by simp⟩
          · simp at hnil

/-- Where no quote is seen there is no literal. -/
theorem filterMap_literal?_eq_nil {ls : List Lexeme} {t : Text} (h : Cut ls t)
    (hq : ∀ c ∈ ls.flatMap masked, isQuote c = false) : ls.filterMap literal? = [] := by
  induction ls with
  | nil => rfl
  | cons l ls ih =>
    obtain ⟨hw, -, hcut⟩ := h
    rw [List.flatMap_cons] at hq
    have hls := ih hcut fun c hc => hq c (List.mem_append_right _ hc)
    cases l with
    | literal quote body =>
      have := hq quote (List.mem_append_left _ (by simp [masked]))
      rw [hw.1] at this
      cases this
    | code c => exact hls
    | lineComment body => exact hls
    | blockComment body => exact hls

theorem all_faint_of_blank {ls : List Lexeme} (h : Text.blank (ls.flatMap masked)) :
    ∀ l ∈ ls, l.faint := fun l hl =>
  List.all_eq_true.2 fun c hc => List.all_eq_true.1 h c (List.mem_flatMap.2 ⟨l, hl, hc⟩)

end Lexeme

/-! ### Stretches -/

namespace Statement

/-- What follows the list of symbols of a statement, or the whole statement if it has none. -/
def pastSymbols (body : List Lexeme) : List Lexeme :=
  let rest := body.dropWhile Lexeme.faint
  if rest.head? = some (.code '{') then rest.dropWhile (· ≠ .code '}') else rest

/-- The literals of a statement, those in its list of symbols apart. -/
def literals (body : List Lexeme) : List Text := (pastSymbols body).filterMap Lexeme.literal?

/-- The lexemes are one literal, or go from one literal to another one with the same quote. The text
is what is written between the first quote and the last one. -/
inductive Stretch (quote : Char) : List Lexeme → Text → Prop where
  | one (path : Text) : Stretch quote [.literal quote path] path
  | more (first : Text) (between : List Lexeme) (last : Text) :
    Stretch quote (.literal quote first :: (between ++ [.literal quote last]))
      (first ++ quote :: (between.flatMap Lexeme.text ++ quote :: last))

/-- The statement has a stretch in a frame, and `path` is what is written in it. -/
def Reads (body : List Lexeme) (path : Text) : Prop :=
  ∃ front core back quote, body = front ++ (core ++ back) ∧
    Frame (front.flatMap Lexeme.masked) (back.flatMap Lexeme.masked) ∧ Stretch quote core path

namespace Stretch

variable {quote : Char} {core : List Lexeme} {path : Text}

theorem flatMap_text (h : Stretch quote core path) :
    core.flatMap Lexeme.text = quote :: (path ++ [quote]) := by
  cases h <;> simp [Lexeme.text]

theorem exists_flatMap_masked (h : Stretch quote core path) :
    ∃ m, core.flatMap Lexeme.masked = quote :: (m ++ [quote]) ∧ m.length = path.length := by
  cases h with
  | one path => exact ⟨path.map fun _ => '_', by simp [Lexeme.masked], by simp⟩
  | more first between last =>
    refine ⟨first.map (fun _ => '_') ++ quote :: (between.flatMap Lexeme.masked ++
      quote :: last.map fun _ => '_'), by simp [Lexeme.masked], ?_⟩
    simp only [List.length_append, List.length_cons, List.length_map, Lexeme.length_flatMap_masked]

theorem exists_eq_cons (h : Stretch quote core path) :
    ∃ first rest, core = .literal quote first :: rest := by
  cases h with
  | one path => exact ⟨path, [], rfl⟩
  | more first between last => exact ⟨first, _, rfl⟩

/-- The path is one literal if the stretch holds no other one. -/
theorem filterMap_literal?_iff (h : Stretch quote core path) :
    core.filterMap Lexeme.literal? = [path] ↔ (core.filterMap Lexeme.literal?).length = 1 := by
  cases h <;> simp [Lexeme.literal?]

end Stretch

namespace Frame

variable {front back : Text}

theorem unquoted_back (h : Frame front back) : ∀ c ∈ back, isQuote c = false := by
  cases h with
  | bare hg hg' => exact unquoted_blank _ hg'
  | renamed n hg hg₁ hs hg' =>
    exact unquoted_isAliasOrEnd _ (isAliasOrEnd_iff.2 (.inr ⟨_, _, n, _, rfl, hg₁, hs, hg'⟩))
  | wildcard n hg hg₁ hs₁ hs₂ hs₃ hg' => exact unquoted_blank _ hg'
  | selected hg hp hg₁ hs hg' => exact unquoted_blank _ hg'

/-- A blank stands before the path, if anything does. -/
theorem isBlank_getLast? (h : Frame front back) : ∀ c ∈ front.getLast?, isBlank c := by
  have hspace : ∀ {u s : Text}, Text.IsSpace s → ∀ c ∈ (u ++ s).getLast?, isBlank c := by
    intro u s hs c hc
    rw [List.getLast?_append_of_ne_nil _ hs.ne_nil] at hc
    exact List.all_eq_true.1 hs.blank c (List.mem_of_getLast? hc)
  cases h with
  | bare hg hg' => exact fun c hc => List.all_eq_true.1 hg c (List.mem_of_getLast? hc)
  | renamed n hg hg₁ hs hg' => exact fun c hc => List.all_eq_true.1 hg c (List.mem_of_getLast? hc)
  | @wildcard g g₁ s₁ s₂ s₃ g' n hg hg₁ hs₁ hs₂ hs₃ hg' =>
    have := @hspace (g ++ '*' :: (g₁ ++ ("as".toList ++ (s₁ ++ (n.text ++ (s₂ ++
      "from".toList)))))) s₃ hs₃
    simpa using this
  | @selected g p g₁ s g' hg hp hg₁ hs hg' =>
    have := @hspace (g ++ '{' :: (p ++ '}' :: (g₁ ++ "from".toList))) s hs
    simpa using this

end Frame

/-- The frame says where the path is: its first quote opens a literal, its last one closes one. -/
theorem exists_stretch {body : List Lexeme} {t front path back : Text} {q : Char}
    (hc : Lexeme.Cut body t) (hq : isQuote q)
    (he : body.flatMap Lexeme.masked = front ++ q :: (path ++ q :: back))
    (hframe : Frame front back) : ∃ fs core bs v, body = fs ++ (core ++ bs) ∧
      fs.flatMap Lexeme.masked = front ∧ bs.flatMap Lexeme.masked = back ∧ Stretch q core v := by
  obtain ⟨fs, first, js, rfl, ⟨hfs, hpath⟩ | ⟨hclosed, -⟩⟩ :=
    Lexeme.exists_literal_of_quote hc hq he
  · rcases Lexeme.eq_of_hidden_append hq hpath.symm with ⟨-, hback⟩ | ⟨path', -, hjs⟩
    · exact ⟨fs, _, js, _, rfl, hfs, hback.symm, .one first⟩
    · -- the literal ends before the path does
      obtain ⟨-, -, -, hcut⟩ := Lexeme.cut_append.1 hc
      obtain ⟨mid, last, bs, rfl, ⟨-, hback⟩ | ⟨-, hback⟩⟩ :=
        Lexeme.exists_literal_of_quote hcut hq hjs
      · have hnot := hframe.unquoted_back q (by rw [hback]; simp)
        rw [hq] at hnot
        cases hnot
      · exact ⟨fs, _, bs, _, by simp, hfs, hback.symm, .more first mid last⟩
  · -- a quote or a hidden character would stand before the path
    have hblank := hframe.isBlank_getLast?
    rw [hclosed, List.getLast?_append_of_ne_nil _ (by simp), List.getLast?_cons] at hblank
    have hlast := hblank _ rfl
    cases hrow : (first.map fun _ => '_').getLast? with
    | none =>
      rw [hrow, Option.getD_none, isBlank_of_isQuote hq] at hlast
      cases hlast
    | some c =>
      obtain ⟨d, -, rfl⟩ := List.mem_map.1 (List.mem_of_getLast? hrow)
      rw [hrow, Option.getD_some] at hlast
      exact absurd hlast (by decide)

end Statement

/-- An import statement is accepted exactly if it has a stretch that is not empty in a frame. -/
theorem Directive.specifier_lexemes_eq_ok_iff {body : List Lexeme} {t path : Text}
    (hc : Lexeme.Cut body t) :
    specifier (body.flatMap Lexeme.text) (body.flatMap Lexeme.masked) = .ok path ↔
      path ≠ [] ∧ Statement.Reads body path := by
  rw [specifier_eq_ok_iff]
  refine and_congr_right fun _ => ?_
  -- the stretch stands at the same place in both texts
  have hplace : ∀ {fs core bs : List Lexeme} {q : Char} {v : Text}, Statement.Stretch q core v →
      (((fs ++ (core ++ bs)).flatMap Lexeme.text).drop
        ((fs.flatMap Lexeme.masked).length + 1)).take v.length = v := fun hv => by
    rw [Lexeme.length_flatMap_masked, List.flatMap_append, ← List.drop_drop, List.drop_left,
      List.flatMap_append, hv.flatMap_text, List.cons_append, List.drop_one, List.tail_cons,
      List.append_assoc, List.take_left]
  constructor
  · rintro ⟨start, length, hspan, rfl⟩
    obtain ⟨front, q, m, back, he, hq, hframe, rfl, rfl⟩ :=
      Statement.pathSpan_eq_some_iff.1 hspan
    obtain ⟨fs, core, bs, v, rfl, rfl, rfl, hv⟩ := Statement.exists_stretch hc hq he hframe
    have hlength : m.length = v.length := by
      obtain ⟨m', hm', hlen⟩ := hv.exists_flatMap_masked
      rw [List.flatMap_append, List.flatMap_append, hm', List.append_cancel_left_eq] at he
      have := congrArg List.length he
      simp only [List.length_append, List.length_cons, List.length_nil] at this
      omega
    rw [hlength, hplace hv]
    exact ⟨fs, core, bs, q, rfl, hframe, hv⟩
  · rintro ⟨fs, core, bs, q, rfl, hframe, hv⟩
    obtain ⟨m, hm, hlen⟩ := hv.exists_flatMap_masked
    have hq : isQuote q := by
      obtain ⟨first, rest, rfl⟩ := hv.exists_eq_cons
      obtain ⟨-, hw, -⟩ := Lexeme.cut_append.1 hc
      exact hw.1
    refine ⟨_, _, Statement.pathSpan_eq_some_iff.2 ⟨fs.flatMap Lexeme.masked, q, m,
      bs.flatMap Lexeme.masked, ?_, hq, hframe, rfl, rfl⟩, ?_⟩
    · simp only [List.flatMap_append, hm, List.cons_append, List.append_assoc, List.nil_append]
    · rw [hlen, hplace hv]

/-! ### Literals of a statement that is accepted -/

namespace Statement

variable {front rest : List Lexeme} {l : Lexeme}

theorem pastSymbols_faint_append (h : Text.blank (front.flatMap Lexeme.masked)) :
    pastSymbols (front ++ rest) = pastSymbols rest := by
  unfold pastSymbols
  rw [List.dropWhile_append_of_pos (Lexeme.all_faint_of_blank h)]

theorem pastSymbols_cons (h : l.faint = false) (hl : l ≠ .code '{') :
    pastSymbols (l :: rest) = l :: rest := by
  have hdrop : (l :: rest).dropWhile Lexeme.faint = l :: rest :=
    List.dropWhile_cons_of_neg (by simp [h])
  rw [pastSymbols, hdrop]
  exact if_neg (by simpa using hl)

theorem pastSymbols_symbols {p : List Lexeme} (h : .code '}' ∉ p) :
    pastSymbols (.code '{' :: (p ++ .code '}' :: rest)) = .code '}' :: rest := by
  have hdrop : (Lexeme.code '{' :: (p ++ .code '}' :: rest)).dropWhile Lexeme.faint =
      .code '{' :: (p ++ .code '}' :: rest) := List.dropWhile_cons_of_neg (by decide)
  rw [pastSymbols, hdrop]
  have hopen : ∀ l ∈ p, decide (l ≠ .code '}') = true := fun l hl =>
    decide_eq_true fun he => h (he ▸ hl)
  refine (if_pos rfl).trans ?_
  rw [List.dropWhile_cons_of_pos (by decide), List.dropWhile_append_of_pos hopen,
    List.dropWhile_cons_of_neg (by simp)]

/-- The literals of a statement that is accepted are those of its stretch. -/
theorem literals_eq {fs core bs : List Lexeme} {t path : Text} {q : Char}
    (hc : Lexeme.Cut (fs ++ (core ++ bs)) t)
    (hframe : Frame (fs.flatMap Lexeme.masked) (bs.flatMap Lexeme.masked))
    (hv : Stretch q core path) :
    literals (fs ++ (core ++ bs)) = core.filterMap Lexeme.literal? := by
  obtain ⟨hfs, hcut⟩ := Lexeme.cut_append.1 hc
  obtain ⟨hcore, hbs⟩ := Lexeme.cut_append.1 hcut
  have hback := Lexeme.filterMap_literal?_eq_nil hbs hframe.unquoted_back
  have hbegin : pastSymbols (core ++ bs) = core ++ bs := by
    obtain ⟨first, rest, rfl⟩ := hv.exists_eq_cons
    refine pastSymbols_cons ?_ (by simp)
    obtain ⟨hw, -⟩ := hcore
    simp [Lexeme.faint, Lexeme.masked, Text.blank, isBlank_of_isQuote hw.1]
  generalize hf : fs.flatMap Lexeme.masked = f at hframe
  generalize bs.flatMap Lexeme.masked = b at hframe
  unfold literals
  cases hframe with
  | bare hg hg' =>
    rw [pastSymbols_faint_append (hf ▸ hg), hbegin, List.filterMap_append, hback, List.append_nil]
  | renamed n hg hg₁ hs hg' =>
    rw [pastSymbols_faint_append (hf ▸ hg), hbegin, List.filterMap_append, hback, List.append_nil]
  | wildcard n hg hg₁ hs₁ hs₂ hs₃ hg' =>
    obtain ⟨ks, js, rfl, rfl, hjs⟩ := Lexeme.exists_eq_append_code hfs (by decide) hf
    obtain ⟨-, -, -, hcutj⟩ := Lexeme.cut_append.1 hfs
    have hnone : js.filterMap Lexeme.literal? = [] := by
      refine Lexeme.filterMap_literal?_eq_nil hcutj ?_
      simp only [hjs, List.forall_mem_append]
      exact ⟨unquoted_blank _ hg₁, isQuote_of_mem_word (by decide), unquoted_blank _ hs₁.blank,
        isQuote_of_mem_word n.all_text, unquoted_blank _ hs₂.blank,
        isQuote_of_mem_word (by decide), unquoted_blank _ hs₃.blank⟩
    rw [List.append_assoc, pastSymbols_faint_append hg, List.cons_append,
      pastSymbols_cons (by decide) (by simp)]
    rw [List.filterMap_cons_none rfl, List.filterMap_append, List.filterMap_append, hnone, hback,
      List.nil_append, List.append_nil]
  | selected hg hp hg₁ hs hg' =>
    obtain ⟨ks, js, rfl, rfl, hjs⟩ := Lexeme.exists_eq_append_code hfs (by decide) hf
    obtain ⟨-, -, -, hcutj⟩ := Lexeme.cut_append.1 hfs
    obtain ⟨ps, is, rfl, rfl, his⟩ := Lexeme.exists_eq_append_code hcutj (by decide) hjs
    obtain ⟨-, -, -, hcuti⟩ := Lexeme.cut_append.1 hcutj
    have hnone : is.filterMap Lexeme.literal? = [] := by
      refine Lexeme.filterMap_literal?_eq_nil hcuti ?_
      simp only [his, List.forall_mem_append]
      exact ⟨unquoted_blank _ hg₁, isQuote_of_mem_word (by decide), unquoted_blank _ hs.blank⟩
    have hfree : .code '}' ∉ ps := fun hm =>
      (hp '}' (List.mem_flatMap.2 ⟨_, hm, by simp [Lexeme.masked]⟩)).2 rfl
    rw [List.append_assoc, pastSymbols_faint_append hg, List.cons_append, List.append_assoc,
      List.cons_append, pastSymbols_symbols hfree]
    rw [List.filterMap_cons_none rfl, List.filterMap_append, List.filterMap_append, hnone, hback,
      List.nil_append, List.append_nil]

end Statement

/-! ### Directives -/

/-- The statement stands in no other one. -/
def Site.Outermost (s : Site) (ls : List Lexeme) : Prop :=
  ∀ s' : Site, s'.In ls → s'.start < s.start → s'.stop ≤ s.start

namespace Directive

/-- The search comes to every statement that stands in no other one. -/
theorem exists_said_of_outermost {source : Text} {ls : List Lexeme} {ds : List Directive}
    (hs : scan source = .ok ls) (hd : findAll source = .ok ds) {s : Site} (hin : s.In ls)
    (ho : s.Outermost ls) : ∃ v, s.said = .ok v := by
  obtain ⟨ls', ss, hs', hss, -, -, hcomplete⟩ := exists_sites_of_findAll hd
  obtain rfl : ls = ls' := Except.ok.inj (hs.symm.trans hs')
  obtain ⟨s', hm, hle, hlt⟩ := hcomplete s.keyword s.start (hin.wordAt (scan_eq_ok_iff.1 hs).2)
  obtain ⟨hin', hsaid⟩ := hss s' hm
  rcases Nat.lt_or_eq_of_le hle with h | h
  · have := ho s' hin' h
    have := List.length_pos_of_ne_nil s.keyword.text_ne_nil
    omega
  · rwa [← hin'.unique hin h]

/-- The value of an import is what is written in a stretch of its statement, which stands in a
frame. It is one literal of the statement exactly if that is the only one outside a list of symbols.
A statement that holds no such stretch makes the search fail, unless it stands in another one. -/
theorem paths_of_scan {source : Text} {ls : List Lexeme} (hs : scan source = .ok ls) :
    (∀ ds, findAll source = .ok ds → ∀ d ∈ ds, d.kind = .imports →
      d.value ≠ [] ∧ ∃ s : Site, s.In ls ∧ d.StandsAt s ∧ Statement.Reads s.body d.value ∧
        (Statement.literals s.body = [d.value] ↔ (Statement.literals s.body).length = 1)) ∧
    ∀ s : Site, s.In ls → s.Outermost ls → s.keyword = .imports →
      (∀ path, path ≠ [] → ¬ Statement.Reads s.body path) → ∃ e, findAll source = .error e := by
  have hcut := (scan_eq_ok_iff.1 hs).2
  constructor
  · intro ds hd d hm hk
    obtain ⟨s, hin, hstands, -, hsaid⟩ := exists_site_of_mem hs hd hm
    obtain ⟨t, hbody⟩ := hin.exists_cut_body hcut
    obtain ⟨hne, hreads⟩ :=
      (specifier_lexemes_eq_ok_iff hbody).1 ((eq_keyword_of_reading hsaid).2.2 hk)
    refine ⟨hne, s, hin, hstands, hreads, ?_⟩
    obtain ⟨fs, core, bs, q, he, hframe, hv⟩ := hreads
    rw [he] at hbody ⊢
    rw [Statement.literals_eq hbody hframe hv]
    exact hv.filterMap_literal?_iff
  · intro s hin ho hk hnone
    cases hd : findAll source with
    | error e => exact ⟨e, rfl⟩
    | ok ds =>
      obtain ⟨v, hv⟩ := exists_said_of_outermost hs hd hin ho
      obtain ⟨t, hbody⟩ := hin.exists_cut_body hcut
      rw [Site.said, hk] at hv
      obtain ⟨path, hpath, -⟩ := map_eq_ok_iff.1 hv
      obtain ⟨hne, hreads⟩ := (specifier_lexemes_eq_ok_iff hbody).1 hpath
      exact absurd hreads (hnone path hne)

/-- A statement with one literal in its list of symbols and one as its path. -/
def listedLiteral : Site where
  keyword := .imports
  body := " \x7bA, ".toList.map .code ++ .literal '"' ['b'] :: ("\x7d from ".toList.map .code ++
    [.literal '\'' ['c']])
  start := 0

/-- A statement with a word that fits no form. -/
def strayWord : Site where
  keyword := .imports
  body := .code ' ' :: .literal '\'' ['a'] :: " x".toList.map .code
  start := 0

theorem paths_of_scan_listedLiteral :
    (findAll (listedLiteral.lexemes.flatMap Lexeme.text) = .ok [⟨.imports, ['c'], 0, 25, 1⟩] ∧
      Statement.Reads listedLiteral.body ['c'] ∧ Statement.literals listedLiteral.body = [['c']]) ∧
      ∃ e, findAll (strayWord.lexemes.flatMap Lexeme.text) = .error e := by
  have hin : listedLiteral.In listedLiteral.lexemes :=
    ⟨[], [], by simp, rfl, by decide, by simp, by rintro c ⟨⟩; decide⟩
  have hin' : strayWord.In strayWord.lexemes :=
    ⟨[], [], by simp, rfl, by decide, by simp, by rintro c ⟨⟩; decide⟩
  have hs : scan (listedLiteral.lexemes.flatMap Lexeme.text) = .ok listedLiteral.lexemes := by
    decide +kernel
  have hs' : scan (strayWord.lexemes.flatMap Lexeme.text) = .ok strayWord.lexemes := by
    decide +kernel
  have hd : findAll (listedLiteral.lexemes.flatMap Lexeme.text) =
      .ok [⟨.imports, ['c'], 0, 25, 1⟩] := by decide +kernel
  have hfail : (specifier (strayWord.body.flatMap Lexeme.text)
      (strayWord.body.flatMap Lexeme.masked)).isOk = false := by decide +kernel
  obtain ⟨-, s, hs₀, hstands, hreads, hiff⟩ :=
    (paths_of_scan hs).1 _ hd _ List.mem_cons_self rfl
  obtain rfl := hs₀.unique hin hstands.start_eq
  refine ⟨⟨hd, hreads, hiff.2 (by decide)⟩, (paths_of_scan hs').2 _ hin' ?_ rfl ?_⟩
  · exact fun s' _ hlt => absurd hlt (Nat.not_lt_zero _)
  · intro path hne hreads'
    obtain ⟨t, hbody⟩ := hin'.exists_cut_body (scan_eq_ok_iff.1 hs').2
    rw [(specifier_lexemes_eq_ok_iff hbody).2 ⟨hne, hreads'⟩] at hfail
    cases hfail

/-- A statement with two literals is accepted, and what it imports is neither of them. -/
theorem paths_twoLiterals :
    findAll "import \"a\" \"b\";".toList = .ok [⟨.imports, "a\" \"b".toList, 0, 15, 1⟩] ∧
      (scan "import \"a\" \"b\";".toList).map (List.filterMap Lexeme.literal?) =
        .ok [['a'], ['b']] := by
  decide +kernel

end Directive

end Flattener
