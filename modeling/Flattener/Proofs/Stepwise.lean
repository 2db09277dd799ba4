import Flattener.Proofs.Containment

/-!
# Declarations one after the other

A reconciler goes on after a declaration that is refused, and it remembers what it refused as well
as what it accepted. So what it remembers after any sequence of declarations is told by the
declarations alone (`Reconciler.after_eq_summary`): the first pin, and the earliest of the highest
caret versions. What it says about one more declaration is told by what it remembers before and
after it (`Reconciler.Verdict`).

Declarations are texts; which ones are understood is said by their spelling (`Constraint.Spelled`),
as long as their numbers are not too long to be read and the end of their range not too long to be
written (`Constraint.WithinLimits`).

* `Constraint.wellFormed_iff`: a declaration is understood just if it is well formed.
* `Reconciler.add_snd_eq_iff`: the verdict on one more declaration.
* `reconciles_iff`: when a run over files goes well.
* `steps_and_files`: the steps, and what follows from them for a run over files.
-/

namespace Flattener

open scoped Release

/-! ### Spelling -/

/-- The mark that a declaration of a kind starts with. -/
def ConstraintKind.sign : ConstraintKind → Text
  | pinned => []
  | caret => ['^']

namespace Constraint

/-- The spelling of a declaration, blanks around it apart: the mark of its kind, then two or three
runs of digits with points between them. -/
structure Spelled (t : Text) (kind : ConstraintKind) (numbers : List Text) : Prop where
  text : Text.trim t = kind.sign ++ ['.'].intercalate numbers
  count : numbers.length = 2 ∨ numbers.length = 3
  digits : ∀ n ∈ numbers, n ≠ [] ∧ ∀ c ∈ n, isDigit c

/-- The text is spelled as a declaration. -/
def WellFormed (t : Text) : Prop := ∃ kind numbers, Spelled t kind numbers

theorem isNumber_iff {n : Text} : isNumber n ↔ n ≠ [] ∧ ∀ c ∈ n, isDigit c := by
  simp [isNumber]

theorem splitKind_sign_append (kind : ConstraintKind) {t : Text} (h : t.head? ≠ some '^') :
    splitKind (kind.sign ++ t) = (kind, t) := by
  cases kind with
  | caret => rfl
  | pinned =>
    cases t with
    | nil => rfl
    | cons c t =>
      have hc : c ≠ '^' := fun hc => h (by rw [hc]; rfl)
      simp [ConstraintKind.sign, splitKind, hc]

theorem sign_append_splitKind (t : Text) : (splitKind t).1.sign ++ (splitKind t).2 = t := by
  unfold splitKind
  split <;> rfl

namespace Spelled

variable {t : Text} {kind : ConstraintKind} {numbers : List Text}

theorem point_notMem (h : Spelled t kind numbers) {n : Text} (hn : n ∈ numbers) : '.' ∉ n :=
  fun hp => absurd ((h.digits n hn).2 '.' hp) (by decide)

theorem head?_ne (h : Spelled t kind numbers) : (['.'].intercalate numbers).head? ≠ some '^' := by
  obtain ⟨n, rest, rfl⟩ : ∃ n rest, numbers = n :: rest :=
    List.exists_cons_of_ne_nil fun hnil => by simpa [hnil] using h.count
  obtain ⟨hne, hdigits⟩ := h.digits n List.mem_cons_self
  obtain ⟨c, n, rfl⟩ := List.exists_cons_of_ne_nil hne
  have hc : c ≠ '^' := by
    rintro rfl
    exact absurd (hdigits '^' List.mem_cons_self) (by decide)
  cases rest <;> simpa using hc

/-- The marks and the points of a declaration are found again. -/
theorem split_trim (h : Spelled t kind numbers) :
    splitKind (Text.trim t) = (kind, ['.'].intercalate numbers) ∧
      (['.'].intercalate numbers).splitOn '.' = numbers := by
  refine ⟨?_, List.splitOn_intercalate _ (fun n hn => h.point_notMem hn) ?_⟩
  · rw [h.text, splitKind_sign_append kind h.head?_ne]
  · rintro rfl
    simpa using h.count

end Spelled

theorem readNumber_eq_ok_iff {n : Text} {v : Nat} :
    readNumber n = .ok v ↔ n.length ≤ digitLimit ∧ digitsValue n = v := by
  unfold readNumber
  split <;> simp [*]

/-- A declaration is read just if it is spelled as one and its numbers are not too long; then its
kind and its numbers are those that are written. -/
theorem parse_eq_ok_iff {t : Text} {c : Constraint} : parse t = .ok c ↔
    ∃ numbers, Spelled t c.kind numbers ∧ (∀ n ∈ numbers, n.length ≤ digitLimit) ∧
      c.raw = Text.trim t ∧ c.parts = numbers.map digitsValue := by
  constructor
  · intro h
    rcases hk : splitKind (Text.trim t) with ⟨kind, text⟩
    have htext : Text.trim t = kind.sign ++ ['.'].intercalate (text.splitOn '.') := by
      rw [List.intercalate_splitOn, ← sign_append_splitKind (Text.trim t), hk]
    simp only [parse, hk] at h
    generalize text.splitOn '.' = pieces at h htext
    split at h
    · rename_i hall
      have hdigits : ∀ n ∈ pieces, n ≠ [] ∧ ∀ c ∈ n, isDigit c := fun n hn =>
        isNumber_iff.1 (List.all_eq_true.1 hall n hn)
      split at h
      · rename_i a b
        simp only [bind_eq_ok_iff, readNumber_eq_ok_iff] at h
        obtain ⟨_, ⟨ha, rfl⟩, _, ⟨hb, rfl⟩, h⟩ := h
        cases h
        exact ⟨[a, b], ⟨htext, by simp, hdigits⟩, by simp [ha, hb], rfl, rfl⟩
      · rename_i a b d
        simp only [bind_eq_ok_iff, readNumber_eq_ok_iff] at h
        obtain ⟨_, ⟨ha, rfl⟩, _, ⟨hb, rfl⟩, _, ⟨hd, rfl⟩, h⟩ := h
        cases h
        exact ⟨[a, b, d], ⟨htext, by simp, hdigits⟩, by simp [ha, hb, hd], rfl, rfl⟩
      · cases h
    · cases h
  · rintro ⟨numbers, hs, hlen, hraw, hparts⟩
    obtain ⟨hkind, hnumbers⟩ := hs.split_trim
    have hall : numbers.all isNumber :=
      List.all_eq_true.2 fun n hn => isNumber_iff.2 (hs.digits n hn)
    have hread : ∀ n ∈ numbers, readNumber n = .ok (digitsValue n) := fun n hn =>
      readNumber_eq_ok_iff.2 ⟨hlen n hn, rfl⟩
    obtain ⟨raw, kind, major, minor, patch⟩ := c
    obtain rfl : raw = Text.trim t := hraw
    simp only [parse, hkind, hnumbers, hall, if_true]
    match numbers, hs.count with
    | [a, b], _ =>
      obtain ⟨rfl, rfl, hpatch⟩ : major = digitsValue a ∧ minor = digitsValue b ∧
        patch.toList = [] := by simpa [parts] using hparts
      obtain rfl := Option.toList_eq_nil_iff.1 hpatch
      simp only [hread a (by simp), hread b (by simp)]
      rfl
    | [a, b, d], _ =>
      obtain ⟨rfl, rfl, hpatch⟩ : major = digitsValue a ∧ minor = digitsValue b ∧
        patch.toList = [digitsValue d] := by simpa [parts] using hparts
      obtain rfl : patch = some (digitsValue d) := by cases patch <;> simp_all
      simp only [hread a (by simp), hread b (by simp), hread d (by simp)]
      rfl

theorem exists_parse_of_spelled {t : Text} {kind : ConstraintKind} {numbers : List Text}
    (h : Spelled t kind numbers) (hlen : ∀ n ∈ numbers, n.length ≤ digitLimit) :
    ∃ c, parse t = .ok c := by
  match numbers, h.count with
  | [a, b], _ =>
    exact ⟨⟨Text.trim t, kind, digitsValue a, digitsValue b, none⟩,
      parse_eq_ok_iff.2 ⟨[a, b], h, hlen, rfl, rfl⟩⟩
  | [a, b, d], _ =>
    exact ⟨⟨Text.trim t, kind, digitsValue a, digitsValue b, some (digitsValue d)⟩,
      parse_eq_ok_iff.2 ⟨[a, b, d], h, hlen, rfl, rfl⟩⟩

/-- No limit on the length of numbers is met at a declaration: its numbers can be read, and if it is
for a caret range, the end of that range can be written. -/
structure WithinLimits (t : Text) : Prop where
  readable : ∀ kind numbers, Spelled t kind numbers → ∀ n ∈ numbers, n.length ≤ digitLimit
  writable : ∀ c, parse t = .ok c → c.kind = .caret → writable c.rangeEnd

/-- A declaration that is read is within the limits if the end of its range can be written. -/
theorem withinLimits_of_parse {t : Text} {c : Constraint} (h : parse t = .ok c)
    (hw : c.kind = .caret → Constraint.writable c.rangeEnd) : WithinLimits t where
  readable kind numbers hs := by
    obtain ⟨numbers', hs', hlen, -⟩ := parse_eq_ok_iff.1 h
    have hsame := hs.split_trim.1.symm.trans hs'.split_trim.1
    have hnumbers : numbers = numbers' := by
      rw [← hs.split_trim.2, ← hs'.split_trim.2, (Prod.mk.inj hsame).2]
    exact hnumbers ▸ hlen
  writable c' hc' := by
    obtain rfl := Except.ok.inj (h.symm.trans hc')
    exact hw

/-- Within the limits, the declarations that are understood are those that are well formed. -/
theorem wellFormed_iff {t : Text} (h : WithinLimits t) : WellFormed t ↔ ∃ c, parse t = .ok c := by
  constructor
  · rintro ⟨kind, numbers, hs⟩
    exact exists_parse_of_spelled hs (h.readable kind numbers hs)
  · rintro ⟨c, hc⟩
    obtain ⟨numbers, hs, -⟩ := parse_eq_ok_iff.1 hc
    exact ⟨c.kind, numbers, hs⟩

/-- A check that can be made tells whether the release is admitted. -/
theorem allows_eq_of_writable {c d : Constraint} (h : c.kind = .caret → writable c.rangeEnd) :
    c.allows d = .ok (decide (c.Admits d.release)) := by
  cases hk : c.kind with
  | pinned => simp [allows, hk, admits_of_pinned hk]
  | caret =>
    have hw : c.upperBound = .ok c.rangeEnd := if_pos (h hk)
    simp [allows, hk, hw, admits_of_caret hk, bind, Except.bind, pure, Except.pure]

end Constraint

/-! ### First and highest declarations -/

namespace Declared

/-- The declaration is the first that pins a version. -/
def IsFirstPin (ds : List Declared) (p : Declared) : Prop :=
  ∃ before after, ds = before ++ p :: after ∧ p.Pins ∧ ∀ d ∈ before, ¬ d.Pins

variable {ds : List Declared} {k p : Declared}

theorem firstPin_eq_some_iff : firstPin ds = some p ↔ IsFirstPin ds p := by
  unfold firstPin IsFirstPin
  rw [List.find?_eq_some_iff_append]
  simp only [decide_eq_true_eq, Bool.not_eq_true', decide_eq_false_iff_not]
  constructor
  · rintro ⟨hp, before, after, hsplit, hbefore⟩
    exact ⟨before, after, hsplit, hp, hbefore⟩
  · rintro ⟨before, after, hsplit, hp, hbefore⟩
    exact ⟨hp, before, after, hsplit, hbefore⟩

theorem IsLeadingCaret.unique {k' : Declared} (h : IsLeadingCaret ds k)
    (h' : IsLeadingCaret ds k') : k = k' := by
  obtain ⟨before, after, rfl, hk, hlt, hle⟩ := h
  obtain ⟨before', after', hsplit, hk', hlt', hle'⟩ := h'
  -- one of the two stands no later than the other
  rcases List.append_eq_append_iff.1 hsplit with ⟨mid, rfl, hmid⟩ | ⟨mid, rfl, hmid⟩
  · cases mid with
    | nil => exact (List.cons.inj hmid).1
    | cons x mid =>
      obtain ⟨rfl, rfl⟩ := List.cons.inj hmid
      exact absurd (hlt' k (by simp) hk) (not_lt_of_ge (hle k' (by simp) hk'))
  · cases mid with
    | nil => exact (List.cons.inj hmid).1.symm
    | cons x mid =>
      obtain ⟨rfl, rfl⟩ := List.cons.inj hmid
      exact absurd (hlt k' (by simp) hk') (not_lt_of_ge (hle' k (by simp) hk))

theorem leadingCaret_eq_some_iff : leadingCaret ds = some k ↔ IsLeadingCaret ds k := by
  refine ⟨isLeadingCaret_of_leadingCaret, fun h => ?_⟩
  cases hbest : leadingCaret ds with
  | none =>
    obtain ⟨before, after, rfl, hk, -⟩ := h
    exact absurd hk (leadingCaret_eq_none.1 hbest k (by simp))
  | some b => rw [(isLeadingCaret_of_leadingCaret hbest).unique h]

end Declared

/-! ### Steps -/

namespace Reconciler

open Declared

/-- What is remembered after files and their declarations have been added one after the other,
whether they were refused or not. -/
def after (steps : List (Text × Text)) : Reconciler :=
  steps.foldl (fun r s => (r.add s.1 s.2).1) {}

/-- The declarations that were understood, in order. -/
def seen (steps : List (Text × Text)) : List Declared :=
  steps.filterMap fun s => (Constraint.parse s.2).toOption.map (Declared.mk s.1)

theorem after_concat (steps : List (Text × Text)) (file t : Text) :
    after (steps ++ [(file, t)]) = ((after steps).add file t).1 := by
  rw [after, List.foldl_append]
  rfl

theorem seen_concat_of_ok (steps : List (Text × Text)) (file : Text) {t : Text} {c : Constraint}
    (h : Constraint.parse t = .ok c) : seen (steps ++ [(file, t)]) = seen steps ++ [⟨file, c⟩] := by
  simp [seen, h, Except.toOption]

theorem seen_concat_of_error (steps : List (Text × Text)) (file : Text) {t : Text}
    {e : VersionFault} (h : Constraint.parse t = .error e) :
    seen (steps ++ [(file, t)]) = seen steps := by
  simp [seen, h, Except.toOption]

/-- What is remembered is told by the declarations that were understood. -/
theorem after_eq_summary (steps : List (Text × Text)) : after steps = summary (seen steps) := by
  induction steps using List.reverseRecOn with
  | nil => rfl
  | append_singleton steps s ih =>
    obtain ⟨file, t⟩ := s
    rw [after_concat, ih, add]
    cases h : Constraint.parse t with
    | error e => rw [seen_concat_of_error steps file h]
    | ok c => rw [seen_concat_of_ok steps file h, record_fst]

/-- What is said about the declaration `t` of a file, where `r` is what was remembered before it and
`r'` what is remembered after it. -/
inductive Verdict (r r' : Reconciler) (file t : Text) : Option ReconcileFault → Prop where
  /-- The text is no declaration. -/
  | malformed (h : ¬ Constraint.WellFormed t) :
    Verdict r r' file t (some (.failure (.malformedVersion file t none)))
  /-- The declaration pins another version than the one that is pinned. -/
  | pins {c : Constraint} {p : Declared} (hc : Constraint.parse t = .ok c) (hk : c.kind = .pinned)
    (hp : r.pinned = some p) (hne : c.release ≠ p.constraint.release) :
    Verdict r r' file t (some (pinConflict p ⟨file, c⟩))
  /-- The pinned version lies outside the range of the caret version. -/
  | range {c : Constraint} {k p : Declared} (hc : Constraint.parse t = .ok c)
    (hagrees : r.Agrees ⟨file, c⟩) (hk : r'.caret = some k) (hp : r'.pinned = some p)
    (hout : ¬ k.constraint.Admits p.constraint.release) :
    Verdict r r' file t (some (rangeConflict k p))
  /-- Nothing is wrong. -/
  | accepted {c : Constraint} (hc : Constraint.parse t = .ok c) (hagrees : r.Agrees ⟨file, c⟩)
    (hin : ∀ k p, r'.caret = some k → r'.pinned = some p →
      k.constraint.Admits p.constraint.release) :
    Verdict r r' file t none

/-- The end of the range of the caret version can be written. -/
def Writable (r : Reconciler) : Prop :=
  ∀ k, r.caret = some k → Constraint.writable k.constraint.rangeEnd

theorem check_eq_of_some {r : Reconciler} (hw : r.Writable) {k p : Declared}
    (hk : r.caret = some k) (hp : r.pinned = some p) : r.check =
      if k.constraint.Admits p.constraint.release then none else some (rangeConflict k p) := by
  have hallows := Constraint.allows_eq_of_writable (d := p.constraint) fun _ => hw k hk
  simp only [check, hk, hp, hallows]
  split <;> simp_all

theorem check_eq_none {r : Reconciler} (hw : r.Writable)
    (h : ∀ k p, r.caret = some k → r.pinned = some p →
      k.constraint.Admits p.constraint.release) : r.check = none := by
  rw [check_eq_none_iff]
  intro k p hk hp
  rw [Constraint.allows_eq_of_writable fun _ => hw k hk, decide_eq_true (h k p hk hp)]

theorem add_of_ok (r : Reconciler) (file : Text) {t : Text} {c : Constraint}
    (h : Constraint.parse t = .ok c) : r.add file t = r.record ⟨file, c⟩ := by
  rw [add, h]

/-- The verdict on one more declaration. -/
theorem add_snd_eq_iff {r : Reconciler} {file t : Text} {e : Option ReconcileFault}
    (ht : Constraint.WithinLimits t) (hw : (r.add file t).1.Writable) :
    (r.add file t).2 = e ↔ Verdict r (r.add file t).1 file t e := by
  constructor
  · rintro rfl
    cases hparse : Constraint.parse t with
    | error v =>
      have hmal : ¬ Constraint.WellFormed t := by
        rw [Constraint.wellFormed_iff ht, hparse]
        simp
      have hsnd : (r.add file t).2 = some (.failure (.malformedVersion file t none)) := by
        rw [add, hparse]
      exact hsnd ▸ .malformed hmal
    | ok c =>
      rw [add_of_ok r file hparse] at hw ⊢
      by_cases hagrees : r.Agrees ⟨file, c⟩
      · rw [record_snd_of_agrees hagrees]
        generalize (r.record ⟨file, c⟩).1 = r' at hw
        by_cases hin : ∀ k p, r'.caret = some k → r'.pinned = some p →
            k.constraint.Admits p.constraint.release
        · rw [check_eq_none hw hin]
          exact .accepted hparse hagrees hin
        · push Not at hin
          obtain ⟨k, p, hk, hp, hout⟩ := hin
          rw [check_eq_of_some hw hk hp, if_neg hout]
          exact .range hparse hagrees hk hp hout
      · obtain ⟨hd, p, hp, hne⟩ := not_agrees_iff.1 hagrees
        rw [record_snd_of_ne hd hp hne]
        exact .pins hparse hd hp hne
  · intro h
    cases h with
    | malformed h =>
      cases hparse : Constraint.parse t with
      | error v => rw [add, hparse]
      | ok c => exact absurd ((Constraint.wellFormed_iff ht).2 ⟨c, hparse⟩) h
    | pins hc hk hp hne =>
      rw [add_of_ok r file hc]
      exact record_snd_of_ne hk hp hne
    | range hc hagrees hk hp hout =>
      rw [add_of_ok r file hc] at hw hk hp ⊢
      rw [record_snd_of_agrees hagrees, check_eq_of_some hw hk hp, if_neg hout]
    | accepted hc hagrees hin =>
      rw [add_of_ok r file hc] at hw hin ⊢
      rw [record_snd_of_agrees hagrees, check_eq_none hw hin]

/-- Declarations within the limits leave a caret version whose range can be written. -/
theorem writable_after {steps : List (Text × Text)}
    (h : ∀ s ∈ steps, Constraint.WithinLimits s.2) : (after steps).Writable := by
  intro k hk
  rw [after_eq_summary] at hk
  obtain ⟨hmem, hf, -⟩ := leadingCaret_eq_some hk
  obtain ⟨s, hs, hread⟩ := List.mem_filterMap.1 hmem
  obtain ⟨c, hc, rfl⟩ := Option.map_eq_some_iff.1 hread
  exact (h s hs).writable c (toOption_eq_some_iff.1 hc) hf

end Reconciler

/-! ### Files -/

section

variable {declarations : Text → Option (List Text)} {files : List Text}

/-- The files can be reconciled: each is known and has one well-formed declaration at most, all pins
are equal, and as soon as a version is pinned, it lies in the range of the highest caret version
until then. -/
structure Reconcilable (declarations : Text → Option (List Text)) (files : List Text) : Prop where
  wellFormed : ∀ file ∈ files, ∃ ts, declarations file = some ts ∧ ts.length ≤ 1 ∧
    ∀ t ∈ ts, Constraint.WellFormed t
  pins_eq : ∀ p ∈ declaredIn declarations files, ∀ q ∈ declaredIn declarations files,
    p.Pins → q.Pins → p.constraint.release = q.constraint.release
  admitted : ∀ done, done <+: declaredIn declarations files → ∀ k, Declared.IsLeadingCaret done k →
    ∀ p ∈ done, p.Pins → k.constraint.Admits p.constraint.release

/-- All declarations of the files are within the limits. -/
def DeclaredWithinLimits (declarations : Text → Option (List Text)) (files : List Text) : Prop :=
  ∀ file ∈ files, ∀ ts, declarations file = some ts → ∀ t ∈ ts, Constraint.WithinLimits t

theorem isSome_understood_iff {file : Text}
    (h : ∀ ts, declarations file = some ts → ∀ t ∈ ts, Constraint.WithinLimits t) :
    (understood declarations file).isSome ↔ ∃ ts, declarations file = some ts ∧ ts.length ≤ 1 ∧
      ∀ t ∈ ts, Constraint.WellFormed t := by
  cases hts : declarations file with
  | none => simp [understood, hts]
  | some ts =>
    simp only [understood, hts, Option.bind_some, Option.some.injEq, exists_eq_left']
    cases ts with
    | nil => simp [Declared.read]
    | cons t later =>
      cases later with
      | nil =>
        have hwf := Constraint.wellFormed_iff (h [t] hts t List.mem_cons_self)
        cases hparse : Constraint.parse t with
        | error e => simp [Declared.read, hparse, Except.toOption, hwf]
        | ok c => simp [Declared.read, hparse, Except.toOption, hwf]
      | cons t' later => simp [Declared.read]

theorem DeclaredWithinLimits.writable (h : DeclaredWithinLimits declarations files) {d : Declared}
    (hd : d ∈ declaredIn declarations files) (hf : d.Floats) :
    Constraint.writable d.constraint.rangeEnd := by
  obtain ⟨hfile, t, hts, hparse⟩ := mem_declaredIn.1 hd
  exact (h d.file hfile [t] hts t List.mem_cons_self).writable _ hparse hf

/-- A run over files goes well just if they can be reconciled. -/
theorem reconciles_iff (h : DeclaredWithinLimits declarations files) :
    (∃ v, reconcile declarations files = .ok v) ↔ Reconcilable declarations files := by
  have hallows : ∀ done, done <+: declaredIn declarations files → ∀ k,
      Declared.leadingCaret done = some k → ∀ p : Declared,
        (k.constraint.allows p.constraint = .ok true ↔
          k.constraint.Admits p.constraint.release) := by
    intro done hdone k hk p
    obtain ⟨hmem, hf, -⟩ := Declared.leadingCaret_eq_some hk
    rw [Constraint.allows_eq_of_writable fun _ => h.writable (hdone.subset hmem) hf]
    simp
  constructor
  · rintro ⟨v, hv⟩
    obtain ⟨hall, hc, -⟩ := reconcile_eq_ok_iff.1 hv
    refine ⟨fun file hfile => (isSome_understood_iff (h file hfile)).1 (hall file hfile),
      hc.pins_eq, fun done hdone k hk p hp hpp => ?_⟩
    have hlead := Declared.leadingCaret_eq_some_iff.2 hk
    exact (hallows done hdone k hlead p).1 (hc.allowed done hdone k hlead p hp hpp)
  · rintro ⟨hwf, hpins, hadmitted⟩
    refine ⟨_, reconcile_eq_ok_iff.2 ⟨fun file hfile =>
      (isSome_understood_iff (h file hfile)).2 (hwf file hfile), ⟨hpins, ?_⟩, rfl⟩⟩
    intro done hdone k hk p hp hpp
    exact (hallows done hdone k hk p).2
      (hadmitted done hdone k (Declared.leadingCaret_eq_some_iff.1 hk) p hp hpp)

/-- The version of a run is the first pin, or else the earliest of the highest caret versions. -/
theorem reconcile_eq_some_iff {v : Option Constraint} (h : reconcile declarations files = .ok v)
    {c : Constraint} : v = some c ↔
      (∃ p, Declared.IsFirstPin (declaredIn declarations files) p ∧ p.constraint = c) ∨
      ((∀ d ∈ declaredIn declarations files, ¬ d.Pins) ∧
        ∃ k, Declared.IsLeadingCaret (declaredIn declarations files) k ∧ k.constraint = c) := by
  obtain ⟨-, -, rfl⟩ := reconcile_eq_ok_iff.1 h
  simp only [Reconciler.result, Reconciler.summary, Option.map_eq_some_iff, Option.or_eq_some_iff,
    Declared.firstPin_eq_some_iff, Declared.leadingCaret_eq_some_iff, Declared.firstPin_eq_none]
  constructor
  · rintro ⟨d, hd | ⟨hnone, hd⟩, rfl⟩
    · exact .inl ⟨d, hd, rfl⟩
    · exact .inr ⟨hnone, d, hd, rfl⟩
  · rintro (⟨d, hd, rfl⟩ | ⟨hnone, d, hd, rfl⟩)
    · exact ⟨d, .inl hd, rfl⟩
    · exact ⟨d, .inr ⟨hnone, hd⟩, rfl⟩

end

/-- Within the limits on the length of numbers: after any sequence of declarations, refused or not,
the first well-formed pin and the earliest of the highest well-formed caret versions are remembered,
with their files, and one more declaration gets the verdict that these call for. So a run over files
goes well just if the files can be reconciled, and it comes to the first pin, or else to the
earliest of the highest caret versions. -/
theorem steps_and_files :
    (∀ t, Constraint.WithinLimits t →
      (Constraint.WellFormed t ↔ ∃ c, Constraint.parse t = .ok c)) ∧
    (∀ steps : List (Text × Text), (∀ s ∈ steps, Constraint.WithinLimits s.2) →
      (∀ p, (Reconciler.after steps).pinned = some p ↔
        Declared.IsFirstPin (Reconciler.seen steps) p) ∧
      (∀ k, (Reconciler.after steps).caret = some k ↔
        Declared.IsLeadingCaret (Reconciler.seen steps) k) ∧
      ∀ file t, Constraint.WithinLimits t → ∀ e, ((Reconciler.after steps).add file t).2 = e ↔
        Reconciler.Verdict (Reconciler.after steps) (Reconciler.after (steps ++ [(file, t)]))
          file t e) ∧
    ∀ declarations files, DeclaredWithinLimits declarations files →
      ((∃ v, reconcile declarations files = .ok v) ↔ Reconcilable declarations files) ∧
      ∀ v, reconcile declarations files = .ok v → ∀ c, v = some c ↔
        (∃ p, Declared.IsFirstPin (declaredIn declarations files) p ∧ p.constraint = c) ∨
        ((∀ d ∈ declaredIn declarations files, ¬ d.Pins) ∧
          ∃ k, Declared.IsLeadingCaret (declaredIn declarations files) k ∧ k.constraint = c) := by
  refine ⟨fun t => Constraint.wellFormed_iff, fun steps hsteps => ⟨fun p => ?_, fun k => ?_,
    fun file t ht e => ?_⟩, fun declarations files h => ⟨reconciles_iff h, fun v hv c =>
      reconcile_eq_some_iff hv⟩⟩
  · rw [Reconciler.after_eq_summary]
    exact Declared.firstPin_eq_some_iff
  · rw [Reconciler.after_eq_summary]
    exact Declared.leadingCaret_eq_some_iff
  · have hw : (Reconciler.after (steps ++ [(file, t)])).Writable :=
      Reconciler.writable_after fun s hs => by
        rcases List.mem_append.1 hs with hs | hs
        · exact hsteps s hs
        · obtain rfl := List.mem_singleton.1 hs
          exact ht
    rw [Reconciler.after_concat] at hw ⊢
    exact Reconciler.add_snd_eq_iff ht hw

/-- A pin that is refused, since it lies below the caret version before it, is remembered; the next
pin is compared with it. -/
theorem steps_and_files_refusedPin :
    (∀ s ∈ [(['a'], "^0.5.2".toList), (['b'], "0.5".toList)], Constraint.WithinLimits s.2) ∧
      (Reconciler.after [(['a'], "^0.5.2".toList), (['b'], "0.5".toList)]).pinned =
        some ⟨['b'], ⟨"0.5".toList, .pinned, 0, 5, none⟩⟩ ∧
      ((Reconciler.after [(['a'], "^0.5.2".toList), (['b'], "0.5".toList)]).add ['c']
        "0.5.2".toList).2 = some (.failure (.versionConflict
          "Different pinned compiler versions".toList
          ['b'] "0.5".toList ['c'] "0.5.2".toList)) := by
  have ha : Constraint.parse "^0.5.2".toList = .ok ⟨"^0.5.2".toList, .caret, 0, 5, some 2⟩ := by
    decide +kernel
  have hb : Constraint.parse "0.5".toList = .ok ⟨"0.5".toList, .pinned, 0, 5, none⟩ := by
    decide +kernel
  have hc : Constraint.parse "0.5.2".toList = .ok ⟨"0.5.2".toList, .pinned, 0, 5, some 2⟩ := by
    decide +kernel
  have hsteps : ∀ s ∈ [(['a'], "^0.5.2".toList), (['b'], "0.5".toList)],
      Constraint.WithinLimits s.2 := by
    simp only [List.mem_cons, List.not_mem_nil, or_false, forall_eq_or_imp, forall_eq]
    exact ⟨Constraint.withinLimits_of_parse ha fun _ => by decide +kernel,
      Constraint.withinLimits_of_parse hb nofun⟩
  obtain ⟨hpinned, -, hverdict⟩ := steps_and_files.2.1 _ hsteps
  have hpin := (hpinned ⟨['b'], ⟨"0.5".toList, .pinned, 0, 5, none⟩⟩).2
    ⟨[⟨['a'], ⟨"^0.5.2".toList, .caret, 0, 5, some 2⟩⟩], [], by decide +kernel, by decide,
      by decide⟩
  exact ⟨hsteps, hpin, (hverdict ['c'] _ (Constraint.withinLimits_of_parse hc nofun) _).2
    (.pins hc rfl hpin (by decide))⟩

end Flattener
