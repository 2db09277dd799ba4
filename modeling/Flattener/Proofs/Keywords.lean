import Flattener.Proofs.Scan
import Flattener.Source.Directive

/-!
# Keywords and statements

What `Directive.findAll` finds in a masked text, said without offsets into loops: the relation
`Directive.Found` goes from statement to statement, and `Directive.findFrom_eq_ok_iff` says that
it is the same as the search.

A keyword is seen by looking at the word in which it stands. So the keywords of a text that is
written from two are those of the two, if no word lies over the joint (`Keyword.next?_append`).
A text is *quiet* when it holds no directive and every statement in it is complete; quiet texts
can be put together where no word lies over the joint (`Quiet.append`), and stay quiet when
blanks at their ends are taken away.
-/

namespace Flattener

/-! ### Characters -/

/-- No blank is part of a word. -/
theorem isWordChar_of_isBlank {c : Char} (h : isBlank c) : isWordChar c = false := by
  simpa using forall_isBlank (p := fun c => !isWordChar c) (by decide +kernel) h

namespace Text

theorem dropPrefix?_eq_some {p t r : Text} : dropPrefix? p t = some r ↔ t = p ++ r := by
  unfold dropPrefix?
  split
  · rename_i h
    obtain ⟨u, rfl⟩ := List.isPrefixOf_iff_prefix.1 h
    simp
  · rename_i h
    refine ⟨fun he => by simp at he, fun he => absurd ?_ h⟩
    rw [he]
    exact List.isPrefixOf_iff_prefix.2 (List.prefix_append p r)

/-- No word lies over the joint of two texts. -/
def Apart (a b : Text) : Prop :=
  ∀ x ∈ a.getLast?, ∀ y ∈ b.head?, isWordChar x = true → isWordChar y = false

theorem apart_nil (b : Text) : Apart [] b := fun _ hx => by simp at hx

theorem Apart.tail {a b : Text} {c : Char} (h : Apart (c :: a) b) : Apart a b := by
  cases a with
  | nil => exact apart_nil b
  | cons d a => exact h

theorem apart_of_blank_left {p b : Text} (h : blank p) : Apart p b := by
  intro x hx y _ hw
  rw [isWordChar_of_isBlank (List.all_eq_true.1 h x (List.mem_of_getLast? hx))] at hw
  cases hw

theorem apart_of_blank_right {a p : Text} (h : blank p) : Apart a p := fun _ _ y hy _ =>
  isWordChar_of_isBlank (List.all_eq_true.1 h y (List.mem_of_head? hy))

end Text

namespace Keyword

theorem isWordChar_of_mem_text {k : Keyword} {c : Char} (h : c ∈ k.text) : isWordChar c = true := by
  have hall : k.text.all isWordChar = true := by cases k <;> decide
  exact List.all_eq_true.1 hall c h

theorem text_imports : imports.text = ['i', 'm', 'p', 'o', 'r', 't'] := rfl

theorem text_pragma : pragma.text = ['p', 'r', 'a', 'g', 'm', 'a'] := rfl

theorem text_ne_nil (k : Keyword) : k.text ≠ [] := by cases k <;> decide

/-! ### The first keyword -/

theorem after?_eq_some {k : Keyword} {t r : Text} :
    k.after? t = some r ↔ t = k.text ++ r ∧ ∀ c ∈ r.head?, isWordChar c = false := by
  rw [after?, Option.filter_eq_some_iff, Text.dropPrefix?_eq_some]
  cases r <;> simp

theorem start?_eq_some {k : Keyword} {t r : Text} :
    start? t = some (k, r) ↔ t = k.text ++ r ∧ ∀ c ∈ r.head?, isWordChar c = false := by
  rw [← after?_eq_some]
  have hother : ∀ {r}, pragma.after? t = some r → imports.after? t = none := by
    intro r h
    rw [Option.eq_none_iff_forall_ne_some]
    intro r' h'
    have ht := (after?_eq_some.1 h).1
    rw [(after?_eq_some.1 h').1, text_imports, text_pragma] at ht
    simp at ht
  unfold start?
  cases k with
  | imports =>
    cases hi : imports.after? t <;> simp
  | pragma =>
    cases hp : pragma.after? t with
    | none => simp
    | some r' => simp [hother hp]

theorem start?_append {a b : Text} (ha : a ≠ []) (h : Text.Apart a b) :
    start? (a ++ b) = (start? a).map fun r => (r.1, r.2 ++ b) := by
  ext ⟨k, r⟩
  rw [start?_eq_some]
  constructor
  · rintro ⟨he, hr⟩
    rw [Option.map_eq_some_iff]
    rcases List.append_eq_append_iff.1 he with ⟨a', hk, hb⟩ | ⟨r', hr', rfl⟩
    · -- the keyword does not end within `a` unless it is all of `a`
      cases a' with
      | nil =>
        refine ⟨(k, []), start?_eq_some.2 ⟨by simpa using hk.symm, by simp⟩, ?_⟩
        simpa using hb
      | cons y a' =>
        have hx := List.getLast?_eq_some_getLast ha
        have := h _ hx y (by rw [hb]; rfl)
          (isWordChar_of_mem_text (k := k) (by rw [hk]; simp [List.getLast_mem ha]))
        rw [isWordChar_of_mem_text (k := k) (by rw [hk]; simp)] at this
        cases this
    · refine ⟨(k, r'), start?_eq_some.2 ⟨hr', fun c hc => hr c ?_⟩, rfl⟩
      cases r' with
      | nil => simp at hc
      | cons d r' => exact hc
  · intro he
    obtain ⟨⟨k', r'⟩, hs, he⟩ := Option.map_eq_some_iff.1 he
    cases he
    obtain ⟨rfl, hr⟩ := start?_eq_some.1 hs
    refine ⟨List.append_assoc .., fun c hc => ?_⟩
    cases r' with
    | nil =>
      rw [List.append_nil] at ha h
      exact h _ (List.getLast?_eq_some_getLast ha) c hc
        (isWordChar_of_mem_text (List.getLast_mem ha))
    | cons d r' => exact hr c hc

/-- No keyword starts where no word starts. -/
theorem start?_eq_none {t : Text} (h : ∀ c ∈ t.head?, isWordChar c = false) : start? t = none := by
  rw [Option.eq_none_iff_forall_ne_some]
  rintro ⟨k, r⟩ hs
  obtain ⟨rfl, -⟩ := start?_eq_some.1 hs
  cases ht : k.text with
  | nil => exact text_ne_nil k ht
  | cons c u =>
    have := h c (by rw [ht]; rfl)
    rw [isWordChar_of_mem_text (k := k) (by rw [ht]; simp)] at this
    cases this

theorem next?_cons_of_some {c : Char} {t r : Text} {k : Keyword}
    (h : start? (c :: t) = some (k, r)) : next? false (c :: t) = some ([], k, r) := by
  simp [next?, h]

theorem next?_cons_of_none {touched : Bool} {c : Char} {t : Text}
    (h : touched = true ∨ start? (c :: t) = none) :
    next? touched (c :: t) = (next? (isWordChar c) t).map fun r => (c :: r.1, r.2) := by
  rcases h with rfl | h <;> simp [next?, *]

theorem next?_false_cons (c : Char) (t : Text) :
    next? false (c :: t) = ((start? (c :: t)).map ([], ·)).or
      ((next? (isWordChar c) t).map fun r => (c :: r.1, r.2)) := by
  cases h : start? (c :: t) with
  | none => exact next?_cons_of_none (.inr h)
  | some r => exact next?_cons_of_some h

/-- What stands before a text matters only if it starts with a word. -/
theorem next?_touched {t : Text} (h : ∀ c ∈ t.head?, isWordChar c = false) (touched : Bool) :
    next? touched t = next? false t := by
  cases t with
  | nil => rfl
  | cons c t => rw [next?_cons_of_none (.inr (start?_eq_none h)),
      next?_cons_of_none (.inr (start?_eq_none h))]

/-- The first keyword of two texts is that of the first or else that of the second, if no word
lies over the joint. -/
theorem next?_append {touched : Bool} {a b : Text} (h : Text.Apart a b)
    (hb : a = [] → touched = true → ∀ c ∈ b.head?, isWordChar c = false) :
    next? touched (a ++ b) = ((next? touched a).map fun r => (r.1, r.2.1, r.2.2 ++ b)).or
      ((next? false b).map fun r => (a ++ r.1, r.2)) := by
  induction a generalizing touched with
  | nil =>
    cases touched with
    | false => cases hn : next? false b <;> simp [next?, hn]
    | true => cases hn : next? false b <;> simp [next?, next?_touched (hb rfl rfl), hn]
  | cons c a ih =>
    have hih := @ih (isWordChar c) h.tail fun ha hw y hy => by
      subst ha
      exact h c rfl y hy hw
    rw [List.cons_append]
    cases touched with
    | true =>
      rw [next?_cons_of_none (.inl rfl), next?_cons_of_none (.inl rfl), hih]
      cases next? (isWordChar c) a <;> cases next? false b <;> simp
    | false =>
      have hs := start?_append (List.cons_ne_nil c a) h
      rw [List.cons_append] at hs
      cases hc : start? (c :: a) with
      | none =>
        rw [hc] at hs
        rw [next?_cons_of_none (.inr hs), next?_cons_of_none (.inr hc), hih]
        cases next? (isWordChar c) a <;> cases next? false b <;> simp
      | some r =>
        rw [hc] at hs
        rw [next?_cons_of_some hs, next?_cons_of_some hc]
        rfl

theorem ne_nil_of_next? {t skipped rest : Text} {k : Keyword}
    (h : next? true t = some (skipped, k, rest)) : skipped ≠ [] := by
  cases t with
  | nil => simp [next?] at h
  | cons c t =>
    rw [next?_cons_of_none (.inl rfl)] at h
    obtain ⟨r, -, he⟩ := Option.map_eq_some_iff.1 h
    exact (Prod.mk.inj he).1 ▸ List.cons_ne_nil _ _

/-- A keyword stands between what it was found after and what is left, and no word character
touches it. -/
theorem eq_of_next? {touched : Bool} {t skipped rest : Text} {k : Keyword}
    (h : next? touched t = some (skipped, k, rest)) :
    t = skipped ++ (k.text ++ rest) ∧ (∀ c ∈ skipped.getLast?, isWordChar c = false) ∧
      ∀ c ∈ rest.head?, isWordChar c = false := by
  induction t generalizing touched skipped with
  | nil => simp [next?] at h
  | cons c t ih =>
    by_cases hs : touched = true ∨ start? (c :: t) = none
    · rw [next?_cons_of_none hs] at h
      obtain ⟨⟨s, k', r⟩, hr, he⟩ := Option.map_eq_some_iff.1 h
      cases he
      obtain ⟨ht, hl, hh⟩ := ih hr
      refine ⟨by rw [ht]; rfl, fun x hx => ?_, hh⟩
      cases s with
      | nil =>
        obtain rfl : c = x := by simpa using hx
        refine Bool.eq_false_iff.2 fun hw => ?_
        rw [hw] at hr
        exact ne_nil_of_next? hr rfl
      | cons d s => exact hl x hx
    · rw [not_or, Bool.not_eq_true] at hs
      obtain ⟨rfl, hs⟩ := hs
      obtain ⟨⟨k', r⟩, hr⟩ := Option.ne_none_iff_exists'.1 hs
      rw [next?_cons_of_some hr] at h
      cases h
      obtain ⟨ht, hh⟩ := start?_eq_some.1 hr
      exact ⟨ht, by simp, hh⟩

/-- No keyword stands before the first one. -/
theorem next?_skipped {t skipped rest : Text} {k : Keyword}
    (h : next? false t = some (skipped, k, rest)) : next? false skipped = none := by
  obtain ⟨ht, hl, -⟩ := eq_of_next? h
  rw [ht, next?_append (fun x hx y _ hw => by simp [hl x hx] at hw) (by simp)] at h
  -- a keyword among what was skipped would have been found first
  rw [Option.eq_none_iff_forall_ne_some]
  rintro ⟨s, k', r⟩ hs
  rw [hs] at h
  obtain rfl : s = skipped := congrArg Prod.fst (Option.some.inj h)
  simpa [text_ne_nil] using congrArg List.length (eq_of_next? hs).1

end Keyword

/-! ### Statements -/

namespace Directive

/-- What a statement says, if it is a directive. The texts are what stands between the keyword
and the semicolon: as written, and masked. -/
def reading (k : Keyword) (written masked : Text) : Except Text (Option (DirectiveKind × Text)) :=
  match k with
  | .imports => (specifier written masked).map fun path => some (.imports, path)
  | .pragma => .ok ((declaration? masked).map fun value => (.version, value))

/-- The directives `ds` are found from `offset` of `source` on, where `masked` is the masked text
from there. -/
inductive Found (source : Text) : Nat → Text → List Directive → Prop where
  | done {offset : Nat} {masked : Text} (hn : Keyword.next? false masked = none) :
    Found source offset masked []
  | statement {offset : Nat} {masked skipped body later : Text} {k : Keyword}
      {v : Option (DirectiveKind × Text)} {ds : List Directive}
      (hn : Keyword.next? false masked = some (skipped, k, body ++ ';' :: later))
      (hb : ';' ∉ body)
      (hv : reading k ((source.drop (offset + skipped.length + k.text.length)).take body.length)
        body = .ok v)
      (hl : Found source (offset + skipped.length + k.text.length + body.length + 1) later ds) :
    Found source offset masked
      ((v.map fun v => (⟨v.1, v.2, offset + skipped.length,
        offset + skipped.length + k.text.length + body.length + 1,
        lineAt source (offset + skipped.length)⟩ : Directive)).toList ++ ds)

/-- The search finds directives exactly where the relation does. -/
theorem findFrom_eq_ok_iff {source : Text} {offset : Nat} {masked : Text} {ds : List Directive} :
    findFrom source offset masked = .ok ds ↔ Found source offset masked ds := by
  constructor
  · intro h
    fun_induction findFrom source offset masked generalizing ds with
    | case1 offset masked hn =>
      cases h
      exact .done hn
    | case2 => cases h
    | case3 => cases h
    | case4 offset masked skipped rest start line body c later hd _ path hn bodyStart stop hp =>
      rename_i ih
      obtain ⟨ds', hf, rfl⟩ := map_eq_ok_iff.1 h
      obtain ⟨hr, hb⟩ := Text.eq_of_dropWhile_mark hd
      rw [hr] at hn
      have hv : reading .imports ((source.drop bodyStart).take body.length) body =
          .ok (some (.imports, path)) := by
        rw [reading, hp]
        rfl
      exact .statement hn hb hv (ih hf)
    | case5 offset masked skipped rest start line body c later hd _ value hp hn bodyStart stop =>
      rename_i ih
      obtain ⟨ds', hf, rfl⟩ := map_eq_ok_iff.1 h
      obtain ⟨hr, hb⟩ := Text.eq_of_dropWhile_mark hd
      rw [hr] at hn
      have hv : reading .pragma ((source.drop bodyStart).take body.length) body =
          .ok (some (.version, value)) := by
        rw [reading, hp]
        rfl
      exact .statement hn hb hv (ih hf)
    | case6 offset masked skipped rest start body c later hd _ hp hn bodyStart stop =>
      rename_i ih
      obtain ⟨hr, hb⟩ := Text.eq_of_dropWhile_mark hd
      rw [hr] at hn
      have hv : reading .pragma ((source.drop bodyStart).take body.length) body = .ok none := by
        rw [reading, hp]
        rfl
      exact .statement hn hb hv (ih h)
  · intro h
    induction h with
    | done hn =>
      rw [findFrom]
      split
      · rfl
      · rename_i heq
        simp [hn] at heq
    | @statement offset masked skipped body later k v ds hn hb hv hl ih =>
      obtain ⟨ht, hd⟩ := Text.takeWhile_mark hb later
      rw [findFrom]
      split
      · rename_i heq
        simp [hn] at heq
      · rename_i heq
        rw [hn] at heq
        cases heq
        simp only [ht]
        split
        · rename_i heq
          rw [hd] at heq
          cases heq
        · rename_i heq
          rw [hd] at heq
          cases heq
          cases k with
          | imports =>
            obtain ⟨path, hp, rfl⟩ := map_eq_ok_iff.1 hv
            simp only [hp, ih]
            rfl
          | pragma =>
            cases hv
            cases declaration? body <;> simp only [ih] <;> rfl

theorem findAll_eq_ok_iff {source : Text} {ds : List Directive} :
    findAll source = .ok ds ↔
      ∃ ls, scan source = .ok ls ∧ Found source 0 (ls.flatMap Lexeme.masked) ds := by
  rw [findAll, mask]
  cases scan source with
  | error e => simp [Except.map]
  | ok ls => simp [Except.map, findFrom_eq_ok_iff]

end Directive

/-! ### Quiet texts -/

namespace Keyword

theorem next?_blank {p : Text} (h : Text.blank p) (touched : Bool) : next? touched p = none := by
  induction p generalizing touched with
  | nil => rfl
  | cons c p ih =>
    rw [Text.blank, List.all_cons, Bool.and_eq_true] at h
    have hs : start? (c :: p) = none := start?_eq_none fun d hd => by
      obtain rfl : c = d := by simpa using hd
      exact isWordChar_of_isBlank h.1
    rw [next?_cons_of_none (.inr hs), ih h.2]
    rfl

theorem next?_blank_append {p : Text} (h : Text.blank p) (t : Text) :
    next? false (p ++ t) = (next? false t).map fun r => (p ++ r.1, r.2) := by
  rw [next?_append (Text.apart_of_blank_left h) (by simp), next?_blank h]
  rfl

theorem next?_append_blank {p : Text} (h : Text.blank p) (t : Text) :
    next? false (t ++ p) = (next? false t).map fun r => (r.1, r.2.1, r.2.2 ++ p) := by
  rw [next?_append (Text.apart_of_blank_right h) (by simp), next?_blank h]
  simp

end Keyword

/-- A masked text without directives, in which every statement is complete. -/
inductive Quiet : Text → Prop where
  | bare {m : Text} (hn : Keyword.next? false m = none) : Quiet m
  | pragma {m skipped body later : Text}
      (hn : Keyword.next? false m = some (skipped, .pragma, body ++ ';' :: later))
      (hb : ';' ∉ body) (hd : Directive.declaration? body = none) (hl : Quiet later) : Quiet m

namespace Quiet

theorem of_blank {p : Text} (h : Text.blank p) : Quiet p := .bare (Keyword.next?_blank h false)

theorem append {a b : Text} (h : Text.Apart a b) (ha : Quiet a) (hb : Quiet b) :
    Quiet (a ++ b) := by
  induction ha with
  | @bare a hn =>
    have hab := @Keyword.next?_append false a b h (by simp)
    rw [hn] at hab
    cases hb with
    | bare hn' => exact .bare (by rw [hab, hn']; rfl)
    | pragma hn' hb hd hl => exact .pragma (by rw [hab, hn']; rfl) hb hd hl
  | @pragma a skipped body later hn hb' hd hl ih =>
    have hab := @Keyword.next?_append false a b h (by simp)
    -- the joint is the end of what follows the statement, too
    have hlater : Text.Apart later b := by
      intro x hx
      refine h x ?_
      obtain ⟨rfl, -⟩ := Keyword.eq_of_next? hn
      obtain ⟨u, rfl⟩ := List.getLast?_eq_some_iff.1 hx
      refine List.getLast?_eq_some_iff.2
        ⟨skipped ++ (Keyword.pragma.text ++ (body ++ ';' :: u)), ?_⟩
      simp
    refine @Quiet.pragma _ skipped body (later ++ b) ?_ hb' hd (ih hlater)
    rw [hab, hn]
    simp

theorem of_blank_append {p m : Text} (h : Text.blank p) (hq : Quiet (p ++ m)) : Quiet m := by
  generalize ht : p ++ m = t at hq
  cases hq with
  | bare hn =>
    rw [← ht, Keyword.next?_blank_append h, Option.map_eq_none_iff] at hn
    exact .bare hn
  | pragma hn hb hd hl =>
    rw [← ht, Keyword.next?_blank_append h] at hn
    obtain ⟨⟨s, k, r⟩, hr, he⟩ := Option.map_eq_some_iff.1 hn
    cases he
    exact .pragma hr hb hd hl

theorem of_append_blank {p m : Text} (h : Text.blank p) (hq : Quiet (m ++ p)) : Quiet m := by
  generalize ht : m ++ p = t at hq
  induction hq generalizing m with
  | bare hn =>
    rw [← ht, Keyword.next?_append_blank h, Option.map_eq_none_iff] at hn
    exact .bare hn
  | @pragma t skipped body later hn hb hd hl ih =>
    rw [← ht, Keyword.next?_append_blank h] at hn
    obtain ⟨⟨s, k, r⟩, hr, he⟩ := Option.map_eq_some_iff.1 hn
    obtain ⟨rfl, hkr⟩ := Prod.mk.inj he
    obtain ⟨rfl, hkr⟩ := Prod.mk.inj hkr
    have hsemi : ';' ∉ p := fun hm => absurd (List.all_eq_true.1 h _ hm) (by decide)
    rcases List.append_eq_append_iff.1 hkr with ⟨u, -, hp⟩ | ⟨u, rfl, hp⟩
    · exact absurd (by rw [hp]; simp) hsemi
    · -- the semicolon is not one of the blanks, so it stands before them
      cases u with
      | nil => exact absurd (by rw [← List.nil_append p, ← hp]; simp) hsemi
      | cons c u =>
        obtain ⟨rfl, hu⟩ := List.cons.inj hp
        exact .pragma hr hb hd (ih hu.symm)

end Quiet

/-! ### Gaps between directives -/

/-- A keyword after a text without keywords is the first one, if no word lies over the joints. -/
theorem Keyword.next?_statement {skipped rest : Text} (k : Keyword)
    (hn : next? false skipped = none) (hl : ∀ c ∈ skipped.getLast?, isWordChar c = false)
    (hr : ∀ c ∈ rest.head?, isWordChar c = false) :
    next? false (skipped ++ (k.text ++ rest)) = some (skipped, k, rest) := by
  have hstart : start? (k.text ++ rest) = some (k, rest) := start?_eq_some.2 ⟨rfl, hr⟩
  have hnext : next? false (k.text ++ rest) = some ([], k, rest) := by
    cases ht : k.text with
    | nil => exact absurd ht (text_ne_nil k)
    | cons c u =>
      rw [ht] at hstart
      exact next?_cons_of_some hstart
  rw [next?_append (fun x hx y _ hw => by simp [hl x hx] at hw) (by simp), hn, hnext]
  simp

namespace Directive

/-- Blanks before the rest of a text make no difference to the directives in it. -/
theorem Found.of_blank_append {source p m : Text} {offset : Nat} {ds : List Directive}
    (h : Found source offset (p ++ m) ds) (hp : Text.blank p) :
    Found source (offset + p.length) m ds := by
  generalize ht : p ++ m = t at h
  cases h with
  | done hn =>
    rw [← ht, Keyword.next?_blank_append hp, Option.map_eq_none_iff] at hn
    exact .done hn
  | statement hn hb hv hl =>
    rw [← ht, Keyword.next?_blank_append hp] at hn
    obtain ⟨⟨s, k, r⟩, hr, he⟩ := Option.map_eq_some_iff.1 hn
    cases he
    simp only [List.length_append, ← Nat.add_assoc] at hv hl ⊢
    exact .statement hr hb hv hl

/-- Only pragmas say nothing. -/
theorem eq_pragma_of_reading {k : Keyword} {written masked : Text}
    (h : reading k written masked = .ok none) : k = .pragma ∧ declaration? masked = none := by
  cases k with
  | imports =>
    obtain ⟨path, -, he⟩ := map_eq_ok_iff.1 h
    cases he
  | pragma => exact ⟨rfl, by simpa [reading] using h⟩

/-- A text without directives is quiet. -/
theorem Found.quiet {source m : Text} {offset : Nat} (h : Found source offset m []) : Quiet m := by
  generalize hds : [] = ds at h
  induction h with
  | done hn => exact .bare hn
  | @statement offset m skipped body later k v ds hn hb hv hl ih =>
    cases v with
    | some v => cases hds
    | none =>
      obtain ⟨rfl, hd⟩ := eq_pragma_of_reading hv
      exact .pragma hn hb hd (ih hds)

theorem found_of_quiet {m : Text} (h : Quiet m) (source : Text) (offset : Nat) :
    Found source offset m [] := by
  induction h generalizing offset with
  | bare hn => exact .done hn
  | pragma hn hb hd hl ih =>
    have hv : ∀ written, reading .pragma written _ = .ok none := fun _ => by rw [reading, hd]; rfl
    exact .statement hn hb (hv _) (ih _)

/-- The first directive of a text stands after a quiet text. -/
theorem Found.gap {source m : Text} {offset : Nat} {d : Directive} {ds : List Directive}
    (h : Found source offset m (d :: ds)) :
    ∃ gap k body later, m = gap ++ (Keyword.text k ++ (body ++ ';' :: later)) ∧ Quiet gap ∧
      (∀ c ∈ gap.getLast?, isWordChar c = false) ∧ d.start = offset + gap.length ∧
      d.stop = d.start + k.text.length + body.length + 1 ∧ Found source d.stop later ds := by
  generalize hds : d :: ds = es at h
  induction h with
  | done => cases hds
  | @statement offset m skipped body later k v es hn hb hv hl ih =>
    obtain ⟨hm, hlast, hhead⟩ := Keyword.eq_of_next? hn
    cases v with
    | some v =>
      cases hds
      exact ⟨skipped, k, body, later, hm, .bare (Keyword.next?_skipped hn), hlast, rfl, rfl, hl⟩
    | none =>
      obtain ⟨rfl, hd⟩ := eq_pragma_of_reading hv
      obtain ⟨gap, k, body', later', rfl, hq, hlast', hstart, hstop, hf⟩ := ih hds
      -- the statement that says nothing belongs to the gap
      refine ⟨skipped ++ (Keyword.pragma.text ++ (body ++ ';' :: gap)), k, body', later',
        ?_, ?_, ?_, ?_, hstop, hf⟩
      · rw [hm]
        simp
      · refine .pragma (Keyword.next?_statement _ (Keyword.next?_skipped hn) hlast ?_) hb hd hq
        cases body with
        | nil => exact hhead
        | cons c body => exact hhead
      · intro c hc
        cases gap with
        | nil =>
          obtain rfl : ';' = c := by simpa [List.getLast?_append] using hc
          decide
        | cons e gap =>
          exact hlast' c (by simpa [List.getLast?_append, List.getLast?_cons] using hc)
      · rw [hstart]
        simp only [List.length_append, List.length_cons]
        omega

end Directive

end Flattener
