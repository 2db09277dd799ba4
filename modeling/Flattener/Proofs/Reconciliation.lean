import Flattener.Proofs.Scan
import Flattener.Version.Reconcile
import Mathlib.Data.List.Induction
import Mathlib.Data.List.Perm.Basic
import Mathlib.Order.Defs.LinearOrder

/-!
# What reconciling versions comes to

Declarations are taken one after the other, and the pinned and the caret version seen so far are
checked against each other each time. What is remembered after some declarations does not depend on
how they were checked (`Reconciler.summary`): the first pinned one and the first of the highest
caret ones. So a run over files succeeds exactly when its declarations are `Consistent`: all pins
are equal, and the pin lies in the range of the highest caret version at every moment, not only in
the end (`reconcile_eq_ok_iff`).

* `reconcile_of_perm`: two orders of the files that are both accepted give the same version. An
  order that is accepted vouches for all others just if every caret version allows every pin; a
  low caret version that does not is passed over only where a higher one comes before the later of
  the two.
* `reconcile_admitted`: the version of all files is admitted by each of their declarations, up to
  caret versions whose range has ended, and which a higher one that admits it has replaced.
-/

namespace Flattener

/-! ### Releases and ranges -/

namespace Release

theorem lt_iff {a b : Release} : a < b ↔ a.major < b.major ∨ a.major = b.major ∧
    (a.minor < b.minor ∨ a.minor = b.minor ∧ a.patch < b.patch) := Iff.rfl

theorem le_iff {a b : Release} : a ≤ b ↔ ¬ b < a := Iff.rfl

/-- Releases are ordered by their numbers, the weightiest first. -/
scoped instance linearOrder : LinearOrder Release where
  le_refl a := by rw [le_iff, lt_iff]; omega
  le_trans a b c hab hbc := by rw [le_iff, lt_iff] at *; omega
  le_antisymm a b hab hba := by
    obtain ⟨x, y, z⟩ := a
    obtain ⟨x', y', z'⟩ := b
    simp only [le_iff, lt_iff] at hab hba
    simp only [mk.injEq]
    omega
  le_total a b := by simp only [le_iff, lt_iff]; omega
  lt_iff_le_not_ge a b := by simp only [le_iff, lt_iff]; omega
  toDecidableLE := inferInstance

end Release

open scoped Release

namespace Constraint

/-- A release meets a constraint: it is the one that is pinned, or lies in the caret range. -/
def Admits (c : Constraint) (r : Release) : Prop :=
  match c.kind with
  | .pinned => r = c.release
  | .caret => c.release ≤ r ∧ r < c.rangeEnd

theorem admits_of_pinned {c : Constraint} (h : c.kind = .pinned) {r : Release} :
    c.Admits r ↔ r = c.release := by
  simp [Admits, h]

theorem admits_of_caret {c : Constraint} (h : c.kind = .caret) {r : Release} :
    c.Admits r ↔ c.release ≤ r ∧ r < c.rangeEnd := by
  simp [Admits, h]

instance (c : Constraint) (r : Release) : Decidable (c.Admits r) :=
  match h : c.kind with
  | .pinned => decidable_of_iff _ (admits_of_pinned h).symm
  | .caret => decidable_of_iff _ (admits_of_caret h).symm

/-- A range is never empty. -/
theorem release_lt_rangeEnd (c : Constraint) : c.release < c.rangeEnd := by
  rw [Release.lt_iff]
  unfold rangeEnd release
  split
  · simp
  · split
    · simp
    · cases c.patch <;> simp

/-- What passes the check of a constraint is admitted by it. -/
theorem admits_of_allows {c d : Constraint} (h : c.allows d = .ok true) : c.Admits d.release := by
  cases hk : c.kind with
  | pinned =>
    rw [admits_of_pinned hk]
    simpa [allows, hk] using h
  | caret =>
    rw [admits_of_caret hk]
    simp only [allows, hk] at h
    obtain ⟨bound, hbound, h⟩ := bind_eq_ok_iff.1 h
    obtain rfl : c.rangeEnd = bound := by
      unfold upperBound at hbound
      split at hbound
      · exact Except.ok.inj hbound
      · cases hbound
    simpa using Except.ok.inj h

/-- The check looks at nothing but the release. -/
theorem allows_congr {c d e : Constraint} (h : d.release = e.release) :
    c.allows d = c.allows e := by
  simp only [allows, h]

end Constraint

/-! ### What is remembered -/

namespace Declared

/-- The declaration pins a version. -/
def Pins (d : Declared) : Prop := d.constraint.kind = .pinned

/-- The declaration is for a caret range. -/
def Floats (d : Declared) : Prop := d.constraint.kind = .caret

instance (d : Declared) : Decidable d.Pins := inferInstanceAs (Decidable (_ = _))

instance (d : Declared) : Decidable d.Floats := inferInstanceAs (Decidable (_ = _))

theorem floats_iff_not_pins {d : Declared} : d.Floats ↔ ¬ d.Pins := by
  unfold Floats Pins
  cases d.constraint.kind <;> simp

/-- The first pinned version. -/
def firstPin (ds : List Declared) : Option Declared := ds.find? (·.Pins)

/-- One step of looking for the highest caret version: a later one has to be higher. -/
def leader (best : Option Declared) (d : Declared) : Option Declared :=
  if d.Floats ∧ best.all (·.constraint.release < d.constraint.release) then some d else best

/-- The first of the highest caret versions. -/
def leadingCaret (ds : List Declared) : Option Declared := ds.foldl leader none

theorem leadingCaret_concat (ds : List Declared) (d : Declared) :
    leadingCaret (ds ++ [d]) = leader (leadingCaret ds) d := by
  rw [leadingCaret, leadingCaret, List.foldl_append, List.foldl_cons, List.foldl_nil]

theorem firstPin_concat (ds : List Declared) (d : Declared) :
    firstPin (ds ++ [d]) = (firstPin ds).or (if d.Pins then some d else none) := by
  unfold firstPin
  rw [List.find?_append]
  by_cases h : d.Pins <;> simp [h]

theorem firstPin_eq_some {ds : List Declared} {p : Declared} (h : firstPin ds = some p) :
    p ∈ ds ∧ p.Pins :=
  ⟨List.mem_of_find?_eq_some h, by simpa using List.find?_some h⟩

theorem firstPin_eq_none {ds : List Declared} : firstPin ds = none ↔ ∀ d ∈ ds, ¬ d.Pins := by
  simp [firstPin, List.find?_eq_none]

theorem exists_firstPin {ds : List Declared} {p : Declared} (hp : p ∈ ds) (hpp : p.Pins) :
    ∃ f, firstPin ds = some f :=
  Option.ne_none_iff_exists'.1 fun h => firstPin_eq_none.1 h p hp hpp

/-- There is a leading caret version where there is any. -/
theorem leadingCaret_eq_none {ds : List Declared} :
    leadingCaret ds = none ↔ ∀ d ∈ ds, ¬ d.Floats := by
  induction ds using List.reverseRecOn with
  | nil => simp [leadingCaret]
  | append_singleton ds d ih =>
    rw [leadingCaret_concat, leader]
    constructor
    · intro h x hx
      split at h
      · cases h
      · rename_i hd
        rcases List.mem_append.1 hx with hx | hx
        · exact ih.1 h x hx
        · obtain rfl := List.mem_singleton.1 hx
          exact fun hf => hd ⟨hf, by rw [h]; rfl⟩
    · intro h
      rw [if_neg fun hd => h d (by simp) hd.1]
      exact ih.2 fun x hx => h x (List.mem_append_left _ hx)

/-- The declaration is the earliest of those for a caret range that have the highest version. -/
def IsLeadingCaret (ds : List Declared) (k : Declared) : Prop :=
  ∃ before after, ds = before ++ k :: after ∧ k.Floats ∧
    (∀ d ∈ before, d.Floats → d.constraint.release < k.constraint.release) ∧
    ∀ d ∈ after, d.Floats → d.constraint.release ≤ k.constraint.release

theorem IsLeadingCaret.le {ds : List Declared} {k : Declared} (h : IsLeadingCaret ds k) :
    k ∈ ds ∧ k.Floats ∧ ∀ d ∈ ds, d.Floats → d.constraint.release ≤ k.constraint.release := by
  obtain ⟨before, after, rfl, hk, hlt, hle⟩ := h
  refine ⟨by simp, hk, fun d hd hf => ?_⟩
  rcases List.mem_append.1 hd with hd | hd
  · exact le_of_lt (hlt d hd hf)
  · rcases List.mem_cons.1 hd with rfl | hd
    · exact le_refl _
    · exact hle d hd hf

theorem isLeadingCaret_of_leadingCaret {ds : List Declared} {k : Declared}
    (h : leadingCaret ds = some k) : IsLeadingCaret ds k := by
  induction ds using List.reverseRecOn generalizing k with
  | nil => cases h
  | append_singleton ds d ih =>
    rw [leadingCaret_concat, leader] at h
    split at h
    · rename_i hd
      obtain rfl := Option.some.inj h
      refine ⟨ds, [], rfl, hd.1, fun x hx hf => ?_, by simp⟩
      -- what was highest so far is lower, and no caret version was higher than that
      cases hbest : leadingCaret ds with
      | none => exact absurd hf (leadingCaret_eq_none.1 hbest x hx)
      | some b =>
        have hb : b.constraint.release < d.constraint.release := by simpa [hbest] using hd.2
        exact lt_of_le_of_lt ((ih hbest).le.2.2 x hx hf) hb
    · rename_i hd
      obtain ⟨before, after, rfl, hk, hlt, hle⟩ := ih h
      refine ⟨before, after ++ [d], by simp, hk, hlt, fun x hx hf => ?_⟩
      rcases List.mem_append.1 hx with hx | hx
      · exact hle x hx hf
      · obtain rfl := List.mem_singleton.1 hx
        refine le_of_not_gt fun hgt => hd ⟨hf, ?_⟩
        rw [h]
        simpa using hgt

/-- The leading caret version is the highest. -/
theorem leadingCaret_eq_some {ds : List Declared} {k : Declared} (h : leadingCaret ds = some k) :
    k ∈ ds ∧ k.Floats ∧ ∀ d ∈ ds, d.Floats → d.constraint.release ≤ k.constraint.release :=
  (isLeadingCaret_of_leadingCaret h).le

end Declared

namespace Reconciler

open Declared

/-- What is remembered of some declarations. -/
def summary (ds : List Declared) : Reconciler := ⟨firstPin ds, leadingCaret ds⟩

/-- One more declaration changes what is remembered, also when it is refused. -/
theorem record_fst (ds : List Declared) (d : Declared) :
    ((summary ds).record d).1 = summary (ds ++ [d]) := by
  rw [summary, summary, firstPin_concat, leadingCaret_concat]
  unfold record
  cases hk : d.constraint.kind with
  | caret =>
    have hf : d.Floats := hk
    have hp : ¬ d.Pins := floats_iff_not_pins.1 hf
    simp only [hp, if_false, Option.or_none, leader, hf, true_and]
    split
    · rfl
    · rfl
  | pinned =>
    have hp : d.Pins := hk
    have hf : ¬ d.Floats := fun hf => floats_iff_not_pins.1 hf hp
    simp only [hp, if_true, leader, hf, false_and, if_false]
    cases hfirst : firstPin ds with
    | none => rfl
    | some p =>
      simp only [Option.or_some]
      split <;> rfl

theorem check_eq_none_iff {r : Reconciler} : r.check = none ↔
    ∀ k p, r.caret = some k → r.pinned = some p →
      k.constraint.allows p.constraint = .ok true := by
  unfold check
  split
  · rename_i k p hk hp
    rw [hk, hp]
    constructor
    · intro h k' p' hk' hp'
      obtain rfl := Option.some.inj hk'
      obtain rfl := Option.some.inj hp'
      split at h
      · assumption
      · cases h
      · cases h
    · intro h
      rw [h k p rfl rfl]
  · rename_i hno
    simp only [true_iff]
    intro k p hk hp
    exact absurd hp (hno k p hk)

/-- A declaration is accepted when it pins no other version than before and the check goes well
after it. -/
theorem record_snd_eq_none_iff {r : Reconciler} {d : Declared} : (r.record d).2 = none ↔
    (d.Pins → ∀ p, r.pinned = some p → d.constraint.release = p.constraint.release) ∧
      (r.record d).1.check = none := by
  unfold record
  cases hk : d.constraint.kind with
  | caret =>
    have hp : ¬ d.Pins := floats_iff_not_pins.1 hk
    simp [hp]
  | pinned =>
    have hp : d.Pins := hk
    cases hpin : r.pinned with
    | none => simp
    | some p =>
      simp only [hp, true_implies, Option.some.injEq, forall_eq']
      split
      · simp [*]
      · simp [*]

end Reconciler

/-! ### Runs -/

/-- The declarations pass every check on the way: all pins are equal, and whenever a version is
pinned, the caret version that is the highest until then allows it. -/
structure Consistent (ds : List Declared) : Prop where
  pins_eq : ∀ p ∈ ds, ∀ q ∈ ds, p.Pins → q.Pins → p.constraint.release = q.constraint.release
  allowed : ∀ done, done <+: ds → ∀ k, Declared.leadingCaret done = some k → ∀ p ∈ done, p.Pins →
    k.constraint.allows p.constraint = .ok true

theorem Consistent.nil : Consistent [] where
  pins_eq p hp := absurd hp List.not_mem_nil
  allowed done hdone k hk := by
    obtain rfl := List.prefix_nil.1 hdone
    cases hk

theorem Consistent.of_prefix {done ds : List Declared} (h : Consistent ds) (hd : done <+: ds) :
    Consistent done where
  pins_eq p hp q hq := h.pins_eq p (hd.subset hp) q (hd.subset hq)
  allowed done' hdone' := h.allowed done' (hdone'.trans hd)

namespace Reconciler

open Declared

/-- The step: after consistent declarations, one more is accepted just if they stay consistent. -/
theorem record_summary_iff {ds : List Declared} (h : Consistent ds) {d : Declared} :
    ((summary ds).record d).2 = none ↔ Consistent (ds ++ [d]) := by
  rw [record_snd_eq_none_iff, record_fst, check_eq_none_iff]
  constructor
  · rintro ⟨hpin, hcheck⟩
    have hnew : d.Pins → ∀ p ∈ ds, p.Pins → d.constraint.release = p.constraint.release := by
      intro hd p hp hpp
      obtain ⟨f, hf⟩ := exists_firstPin hp hpp
      obtain ⟨hfmem, hfp⟩ := firstPin_eq_some hf
      rw [hpin hd f hf, h.pins_eq f hfmem p hp hfp hpp]
    have hpins : ∀ p ∈ ds ++ [d], ∀ q ∈ ds ++ [d], p.Pins → q.Pins →
        p.constraint.release = q.constraint.release := by
      intro p hp q hq hpp hqp
      rcases List.mem_append.1 hp with hpd | hpd <;> rcases List.mem_append.1 hq with hqd | hqd
      · exact h.pins_eq p hpd q hqd hpp hqp
      · obtain rfl := List.mem_singleton.1 hqd
        exact (hnew hqp p hpd hpp).symm
      · obtain rfl := List.mem_singleton.1 hpd
        exact hnew hpp q hqd hqp
      · rw [List.mem_singleton.1 hpd, List.mem_singleton.1 hqd]
    refine ⟨hpins, fun done hdone k hk p hp hpp => ?_⟩
    rcases List.prefix_concat_iff.1 hdone with rfl | hdone
    · obtain ⟨f, hf⟩ := exists_firstPin hp hpp
      obtain ⟨hfmem, hfp⟩ := firstPin_eq_some hf
      rw [Constraint.allows_congr (hpins p hp f hfmem hpp hfp)]
      exact hcheck k f hk hf
    · exact h.allowed done hdone k hk p hp hpp
  · intro hc
    refine ⟨fun hd p hp => ?_, fun k p hk hp => ?_⟩
    · obtain ⟨hmem, hpp⟩ := firstPin_eq_some hp
      exact hc.pins_eq d (by simp) p (List.mem_append_left _ hmem) hd hpp
    · obtain ⟨hmem, hpp⟩ := firstPin_eq_some hp
      exact hc.allowed _ (List.prefix_refl _) k hk p hmem hpp

end Reconciler

/-- The declarations of a file that gives none or one, if that one is understood. -/
def Declared.read (file : Text) : List Text → Option (List Declared)
  | [] => some []
  | [declaration] => (Constraint.parse declaration).toOption.map fun c => [⟨file, c⟩]
  | _ => none

/-- The declarations of a known file, if they are understood. -/
def understood (declarations : Text → Option (List Text)) (file : Text) : Option (List Declared) :=
  (declarations file).bind (Declared.read file)

/-- The understood declarations of the files, in order. -/
def declaredIn (declarations : Text → Option (List Text)) (files : List Text) : List Declared :=
  files.flatMap fun file => (understood declarations file).getD []

section

variable {declarations : Text → Option (List Text)} {files files' : List Text}

/-- A file is accepted after consistent declarations if its own are understood and keep them
consistent. -/
theorem addFile_summary_eq_ok_iff {ds : List Declared} (h : Consistent ds) {file : Text}
    {ts : List Text} {r : Reconciler} : (Reconciler.summary ds).addFile file ts = .ok r ↔
      ∃ new, Declared.read file ts = some new ∧ Consistent (ds ++ new) ∧
        r = Reconciler.summary (ds ++ new) := by
  match ts with
  | [] => simp [Reconciler.addFile, Declared.read, h, eq_comm]
  | [t] =>
    cases hparse : Constraint.parse t with
    | error e =>
      simp [Reconciler.addFile, Reconciler.add, Declared.read, hparse, Except.toOption]
    | ok c =>
      have hread : Declared.read file [t] = some [⟨file, c⟩] := by
        simp [Declared.read, hparse, Except.toOption]
      simp only [hread, Option.some.injEq, exists_eq_left']
      rw [← Reconciler.record_summary_iff h, ← Reconciler.record_fst, Reconciler.addFile,
        Reconciler.add, hparse]
      dsimp only
      split <;> simp [*, eq_comm]
  | _ :: _ :: _ => simp [Reconciler.addFile, Declared.read]

theorem declaredIn_cons {file : Text} {new : List Declared}
    (h : understood declarations file = some new) :
    declaredIn declarations (file :: files) = new ++ declaredIn declarations files := by
  simp [declaredIn, h]

/-- The run: files are accepted after consistent declarations if all of them are understood and
keep these consistent. -/
theorem reconcileFrom_summary_eq_ok_iff {ds : List Declared} (h : Consistent ds) {r : Reconciler} :
    reconcileFrom declarations (Reconciler.summary ds) files = .ok r ↔
      (∀ file ∈ files, (understood declarations file).isSome) ∧
        Consistent (ds ++ declaredIn declarations files) ∧
        r = Reconciler.summary (ds ++ declaredIn declarations files) := by
  induction files generalizing ds with
  | nil =>
    have hnil : declaredIn declarations [] = [] := rfl
    rw [hnil, List.append_nil, reconcileFrom, Except.ok.injEq]
    exact ⟨fun hr => ⟨by simp, h, hr.symm⟩, fun hr => hr.2.2.symm⟩
  | cons file files ih =>
    unfold reconcileFrom
    cases hts : declarations file with
    | none => simp [understood, hts]
    | some ts =>
      have hund : understood declarations file = Declared.read file ts := by
        simp [understood, hts]
      dsimp only
      rw [bind_eq_ok_iff]
      constructor
      · rintro ⟨r₁, hadd, hrest⟩
        obtain ⟨new, hread, hnew, rfl⟩ := (addFile_summary_eq_ok_iff h).1 hadd
        obtain ⟨hall, hcons, rfl⟩ := (ih hnew).1 hrest
        rw [declaredIn_cons (hund.trans hread), ← List.append_assoc]
        exact ⟨List.forall_mem_cons.2 ⟨by rw [hund, hread]; rfl, hall⟩, hcons, rfl⟩
      · rintro ⟨hall, hcons, hr⟩
        obtain ⟨hfile, hall⟩ := List.forall_mem_cons.1 hall
        obtain ⟨new, hnew⟩ := Option.isSome_iff_exists.1 hfile
        rw [declaredIn_cons hnew, ← List.append_assoc] at hcons hr
        have hpart : Consistent (ds ++ new) := hcons.of_prefix (List.prefix_append _ _)
        exact ⟨_, (addFile_summary_eq_ok_iff h).2 ⟨new, hund.symm.trans hnew, hpart, rfl⟩,
          (ih hpart).2 ⟨hall, hcons, hr⟩⟩

/-- Versions are reconciled if all declarations are understood and consistent; the result is the
first pinned version, or else the first of the highest caret versions. -/
theorem reconcile_eq_ok_iff {v : Option Constraint} : reconcile declarations files = .ok v ↔
    (∀ file ∈ files, (understood declarations file).isSome) ∧
      Consistent (declaredIn declarations files) ∧
      v = (Reconciler.summary (declaredIn declarations files)).result := by
  have hrun : ∀ r, reconcileFrom declarations (Reconciler.summary []) files = .ok r ↔ _ :=
    fun r => reconcileFrom_summary_eq_ok_iff Consistent.nil
  simp only [List.nil_append] at hrun
  unfold reconcile
  rw [map_eq_ok_iff]
  constructor
  · rintro ⟨r, hr, rfl⟩
    obtain ⟨hall, hcons, rfl⟩ := (hrun r).1 hr
    exact ⟨hall, hcons, rfl⟩
  · rintro ⟨hall, hcons, rfl⟩
    exact ⟨_, (hrun _).2 ⟨hall, hcons, rfl⟩, rfl⟩

/-- A declaration of the files is the only one of its own file. -/
theorem mem_declaredIn {d : Declared} : d ∈ declaredIn declarations files ↔
    d.file ∈ files ∧ ∃ t, declarations d.file = some [t] ∧
      Constraint.parse t = .ok d.constraint := by
  unfold declaredIn
  rw [List.mem_flatMap]
  constructor
  · rintro ⟨file, hfile, hd⟩
    cases hts : declarations file with
    | none => simp [understood, hts] at hd
    | some ts =>
      simp only [understood, hts, Option.bind_some] at hd
      match ts, hts with
      | [], _ => simp [Declared.read] at hd
      | [t], hts =>
        cases hparse : Constraint.parse t with
        | error e => simp [Declared.read, hparse, Except.toOption] at hd
        | ok c =>
          obtain rfl : d = ⟨file, c⟩ := by
            simpa [Declared.read, hparse, Except.toOption] using hd
          exact ⟨hfile, t, hts, hparse⟩
      | _ :: _ :: _, _ => simp [Declared.read] at hd
  · rintro ⟨hfile, t, hts, hparse⟩
    refine ⟨d.file, hfile, ?_⟩
    simp [understood, hts, Declared.read, hparse, Except.toOption]

theorem understood_of_mem_declaredIn {d : Declared} (h : d ∈ declaredIn declarations files) :
    understood declarations d.file = some [d] := by
  obtain ⟨-, t, hts, hparse⟩ := mem_declaredIn.1 h
  simp [understood, hts, Declared.read, hparse, Except.toOption]

theorem declaredIn_perm (h : files.Perm files') :
    (declaredIn declarations files).Perm (declaredIn declarations files') :=
  h.flatMap_right _

/-! ### The order of the files -/

/-- Every caret version allows every pinned one. -/
def Harmonious (ds : List Declared) : Prop :=
  ∀ k ∈ ds, ∀ p ∈ ds, k.Floats → p.Pins → k.constraint.allows p.constraint = .ok true

/-- Consistent declarations come to the same version in any order. -/
theorem Consistent.result_perm {ds ds' : List Declared} (hc : Consistent ds) (h : ds.Perm ds') :
    (Reconciler.summary ds).result.map (fun c => (c.kind, c.release)) =
      (Reconciler.summary ds').result.map (fun c => (c.kind, c.release)) := by
  have hmem : ∀ d, d ∈ ds ↔ d ∈ ds' := fun d => h.mem_iff
  simp only [Reconciler.result, Reconciler.summary, Option.map_map]
  cases hp : Declared.firstPin ds with
  | some p =>
    obtain ⟨hpmem, hpp⟩ := Declared.firstPin_eq_some hp
    obtain ⟨q, hq⟩ := Declared.exists_firstPin ((hmem p).1 hpmem) hpp
    obtain ⟨hqmem, hqp⟩ := Declared.firstPin_eq_some hq
    have hrel := hc.pins_eq p hpmem q ((hmem q).2 hqmem) hpp hqp
    have hkind : p.constraint.kind = q.constraint.kind := hpp.trans hqp.symm
    simp [hq, hrel, hkind]
  | none =>
    have hp' : Declared.firstPin ds' = none := Declared.firstPin_eq_none.2 fun d hd =>
      Declared.firstPin_eq_none.1 hp d ((hmem d).2 hd)
    rw [hp', Option.none_or, Option.none_or]
    cases hk : Declared.leadingCaret ds with
    | none =>
      have hk' : Declared.leadingCaret ds' = none := Declared.leadingCaret_eq_none.2 fun d hd =>
        Declared.leadingCaret_eq_none.1 hk d ((hmem d).2 hd)
      rw [hk']
    | some k =>
      obtain ⟨hkmem, hkf, hkmax⟩ := Declared.leadingCaret_eq_some hk
      cases hk' : Declared.leadingCaret ds' with
      | none => exact absurd hkf (Declared.leadingCaret_eq_none.1 hk' k ((hmem k).1 hkmem))
      | some k' =>
        obtain ⟨hkmem', hkf', hkmax'⟩ := Declared.leadingCaret_eq_some hk'
        have hrel : k.constraint.release = k'.constraint.release :=
          le_antisymm (hkmax' k ((hmem k).1 hkmem) hkf) (hkmax k' ((hmem k').2 hkmem') hkf')
        have hkind : k.constraint.kind = k'.constraint.kind := hkf.trans hkf'.symm
        simp [hrel, hkind]

/-- Where every caret version allows every pinned one, consistency does not depend on the order. -/
theorem Consistent.of_perm {ds ds' : List Declared} (hc : Consistent ds) (hh : Harmonious ds)
    (h : ds.Perm ds') : Consistent ds' where
  pins_eq p hp q hq := hc.pins_eq p (h.mem_iff.2 hp) q (h.mem_iff.2 hq)
  allowed done hdone k hk p hp hpp := by
    obtain ⟨hkmem, hkf, -⟩ := Declared.leadingCaret_eq_some hk
    exact hh k (h.mem_iff.2 (hdone.subset hkmem)) p (h.mem_iff.2 (hdone.subset hp)) hkf hpp

theorem Harmonious.of_perm {ds ds' : List Declared} (hh : Harmonious ds) (h : ds.Perm ds') :
    Harmonious ds' := fun k hk p hp =>
  hh k (h.mem_iff.2 hk) p (h.mem_iff.2 hp)

/-- A pin right before a caret version that does not allow it is refused. -/
theorem not_consistent_of_not_allows {p k : Declared} (hp : p.Pins) (hk : k.Floats)
    (h : k.constraint.allows p.constraint ≠ .ok true) (ds : List Declared) :
    ¬ Consistent (p :: k :: ds) := by
  intro hc
  have hpf : ¬ p.Floats := fun hf => Declared.floats_iff_not_pins.1 hf hp
  have hlead : Declared.leadingCaret [p, k] = some k := by
    simp [Declared.leadingCaret, Declared.leader, hpf, hk]
  exact h (hc.allowed [p, k] (List.prefix_append [p, k] ds) k hlead p List.mem_cons_self hp)

/-- Whether files are accepted does not depend on their order while every caret version that they
declare allows every version that they pin; else some order of them is refused. The version that
they come to depends on their order in its text only. -/
theorem reconcile_of_perm (h : files.Perm files') :
    (∀ v v', reconcile declarations files = .ok v → reconcile declarations files' = .ok v' →
      v.map (fun c => (c.kind, c.release)) = v'.map (fun c => (c.kind, c.release))) ∧
    (Harmonious (declaredIn declarations files) →
      ((∃ v, reconcile declarations files = .ok v) ↔
        ∃ v, reconcile declarations files' = .ok v)) ∧
    (¬ Harmonious (declaredIn declarations files) →
      ∃ files'', files.Perm files'' ∧ ∀ v, reconcile declarations files'' ≠ .ok v) := by
  have hds : (declaredIn declarations files).Perm (declaredIn declarations files') :=
    declaredIn_perm h
  refine ⟨fun v v' hv hv' => ?_, fun hh => ?_, fun hh => ?_⟩
  · obtain ⟨-, hc, rfl⟩ := reconcile_eq_ok_iff.1 hv
    obtain ⟨-, -, rfl⟩ := reconcile_eq_ok_iff.1 hv'
    exact hc.result_perm hds
  · constructor
    · rintro ⟨v, hv⟩
      obtain ⟨hall, hc, -⟩ := reconcile_eq_ok_iff.1 hv
      exact ⟨_, reconcile_eq_ok_iff.2
        ⟨fun file hf => hall file (h.mem_iff.2 hf), hc.of_perm hh hds, rfl⟩⟩
    · rintro ⟨v, hv⟩
      obtain ⟨hall, hc, -⟩ := reconcile_eq_ok_iff.1 hv
      exact ⟨_, reconcile_eq_ok_iff.2
        ⟨fun file hf => hall file (h.mem_iff.1 hf), hc.of_perm (hh.of_perm hds) hds.symm, rfl⟩⟩
  · simp only [Harmonious, not_forall] at hh
    obtain ⟨k, hk, p, hp, hkf, hpp, hnot⟩ := hh
    -- the file with the pin comes first, and right after it the one with the caret version
    have hne : k.file ≠ p.file := by
      intro hfile
      have hsame := (understood_of_mem_declaredIn hk).symm.trans
        (hfile ▸ understood_of_mem_declaredIn hp)
      obtain rfl : k = p := by simpa using hsame
      exact Declared.floats_iff_not_pins.1 hkf hpp
    have hpfile := (mem_declaredIn.1 hp).1
    have hkfile : k.file ∈ files.erase p.file :=
      (List.mem_erase_of_ne hne).2 (mem_declaredIn.1 hk).1
    refine ⟨p.file :: k.file :: (files.erase p.file).erase k.file, ?_, fun v hv => ?_⟩
    · exact (List.perm_cons_erase hpfile).trans ((List.perm_cons_erase hkfile).cons _)
    · obtain ⟨-, hc, -⟩ := reconcile_eq_ok_iff.1 hv
      rw [declaredIn_cons (understood_of_mem_declaredIn hp),
        declaredIn_cons (understood_of_mem_declaredIn hk)] at hc
      exact not_consistent_of_not_allows hpp hkf hnot _ hc

/-- Three files: `a` and `b` float from `0.4` and `0.5` on, and `c` pins `0.5.2`. -/
def layered : Text → Option (List Text) := fun file =>
  if file = ['a'] then some ["^0.4.0".toList]
  else if file = ['b'] then some ["^0.5.0".toList]
  else if file = ['c'] then some ["0.5.2".toList]
  else none

/-- The declarations of the three files, and what they come to. -/
theorem reconcile_layered :
    Constraint.parse "^0.4.0".toList = .ok ⟨"^0.4.0".toList, .caret, 0, 4, some 0⟩ ∧
      Harmonious (declaredIn layered [['b'], ['c']]) ∧
      ¬ Harmonious (declaredIn layered [['a'], ['c']]) ∧
      reconcile layered [['b'], ['c']] = .ok (some ⟨"0.5.2".toList, .pinned, 0, 5, some 2⟩) ∧
      reconcile layered [['a'], ['b']] = .ok (some ⟨"^0.5.0".toList, .caret, 0, 5, some 0⟩) ∧
      reconcile layered [['a'], ['b'], ['c']] =
        .ok (some ⟨"0.5.2".toList, .pinned, 0, 5, some 2⟩) ∧
      reconcile layered [['c'], ['a'], ['b']] =
        .error (.failure (.versionConflict "Incompatible compiler version declarations".toList
          ['a'] "^0.4.0".toList ['c'] "0.5.2".toList)) := by
  unfold Harmonious
  refine ⟨?_, ?_, ?_, ?_, ?_, ?_, ?_⟩ <;> decide +kernel

/-- The files `b` and `c` are accepted in both orders, and `a` and `c` are refused in one. -/
theorem reconcile_of_perm_layered :
    (∃ v, reconcile layered [['b'], ['c']] = .ok v) ∧
      (∃ v, reconcile layered [['c'], ['b']] = .ok v) ∧
      ∃ files, [['a'], ['c']].Perm files ∧ ∀ v, reconcile layered files ≠ .ok v := by
  obtain ⟨-, hbc, hac, hok, -⟩ := reconcile_layered
  have hswap := @reconcile_of_perm layered [['b'], ['c']] [['c'], ['b']] (by decide)
  have hsome := @reconcile_of_perm layered [['a'], ['c']] [['a'], ['c']] (List.Perm.refl _)
  exact ⟨⟨_, hok⟩, (hswap.2.1 hbc).1 ⟨_, hok⟩, hsome.2.2 hac⟩

/-- The order of the files can decide: the caret version of `a` is passed over where the one of `b`
comes before the pin, and refused where the pin comes first. -/
theorem reconcile_layered_order :
    [['a'], ['b'], ['c']].Nodup ∧ [['a'], ['b'], ['c']].Perm [['c'], ['a'], ['b']] ∧
      reconcile layered [['a'], ['b'], ['c']] =
        .ok (some ⟨"0.5.2".toList, .pinned, 0, 5, some 2⟩) ∧
      reconcile layered [['c'], ['a'], ['b']] =
        .error (.failure (.versionConflict "Incompatible compiler version declarations".toList
          ['a'] "^0.4.0".toList ['c'] "0.5.2".toList)) := by
  obtain ⟨-, -, -, -, -, habc, hcab⟩ := reconcile_layered
  exact ⟨by decide, by decide, habc, hcab⟩

/-! ### The result -/

/-- The version that consistent declarations come to is admitted by each of them, up to caret
versions whose range has ended before it and which do not lead. -/
theorem Consistent.admits {ds : List Declared} (hc : Consistent ds) {v : Constraint}
    (hv : (Reconciler.summary ds).result = some v) {d : Declared} (hd : d ∈ ds) :
    d.constraint.Admits v.release ∨ d.constraint.kind = .caret ∧
      d.constraint.rangeEnd ≤ v.release ∧ ∃ k ∈ ds, k.Floats ∧
        d.constraint.release ≤ k.constraint.release ∧ k.constraint.Admits v.release := by
  have hv' : ((Declared.firstPin ds).or (Declared.leadingCaret ds)).map Declared.constraint =
    some v := hv
  by_cases hpins : d.Pins
  · obtain ⟨f, hf⟩ := Declared.exists_firstPin hd hpins
    obtain ⟨hfmem, hfp⟩ := Declared.firstPin_eq_some hf
    obtain rfl : f.constraint = v := by simpa [hf] using hv'
    exact .inl ((Constraint.admits_of_pinned hpins).2 (hc.pins_eq f hfmem d hd hfp hpins))
  · have hfloats : d.Floats := Declared.floats_iff_not_pins.2 hpins
    obtain ⟨k, hk⟩ : ∃ k, Declared.leadingCaret ds = some k :=
      Option.ne_none_iff_exists'.1 fun h => Declared.leadingCaret_eq_none.1 h d hd hfloats
    obtain ⟨hkmem, hkf, hkmax⟩ := Declared.leadingCaret_eq_some hk
    have hadmits : k.constraint.Admits v.release := by
      cases hf : Declared.firstPin ds with
      | some f =>
        obtain ⟨hfmem, hfp⟩ := Declared.firstPin_eq_some hf
        obtain rfl : f.constraint = v := by simpa [hf] using hv'
        exact Constraint.admits_of_allows (hc.allowed ds (List.prefix_refl _) k hk f hfmem hfp)
      | none =>
        obtain rfl : k.constraint = v := by simpa [hf, hk] using hv'
        exact (Constraint.admits_of_caret hkf).2 ⟨le_refl _, k.constraint.release_lt_rangeEnd⟩
    have hle : d.constraint.release ≤ v.release :=
      le_trans (hkmax d hd hfloats) ((Constraint.admits_of_caret hkf).1 hadmits).1
    rcases lt_or_ge v.release d.constraint.rangeEnd with hlt | hge
    · exact .inl ((Constraint.admits_of_caret hfloats).2 ⟨hle, hlt⟩)
    · exact .inr ⟨hfloats, hge, k, hkmem, hkf, hkmax d hd hfloats, hadmits⟩

/-- Each declaration of each file admits the version that the files come to, except a caret version
whose range ends at or before it; such a one is not higher than another one that does admit it. -/
theorem reconcile_admitted {v : Constraint} (h : reconcile declarations files = .ok (some v)) :
    ∀ file ∈ files, ∃ ts, declarations file = some ts ∧ ∀ t ∈ ts, ∃ c,
      Constraint.parse t = .ok c ∧ (c.Admits v.release ∨ c.kind = .caret ∧
        c.rangeEnd ≤ v.release ∧ ∃ k ∈ declaredIn declarations files, k.Floats ∧
          c.release ≤ k.constraint.release ∧ k.constraint.Admits v.release) := by
  obtain ⟨hall, hc, hv⟩ := reconcile_eq_ok_iff.1 h
  intro file hfile
  obtain ⟨new, hnew⟩ := Option.isSome_iff_exists.1 (hall file hfile)
  obtain ⟨ts, hts, hread⟩ := Option.bind_eq_some_iff.1 hnew
  refine ⟨ts, hts, fun t ht => ?_⟩
  match ts, hts with
  | [u], hts =>
    obtain rfl := List.mem_singleton.1 ht
    obtain ⟨c, hparse, -⟩ := Option.map_eq_some_iff.1 hread
    have hok : Constraint.parse t = .ok c := by
      cases hp : Constraint.parse t <;> simp_all [Except.toOption]
    have hd : ⟨file, c⟩ ∈ declaredIn declarations files := mem_declaredIn.2 ⟨hfile, t, hts, hok⟩
    exact ⟨c, hok, hc.admits hv.symm hd⟩
  | _ :: _ :: _, _ => cases hread

/-- In `a` and `b` before `c` there is one caret version of either kind. -/
theorem reconcile_admitted_layered :
    reconcile layered [['a'], ['b'], ['c']] =
        .ok (some ⟨"0.5.2".toList, .pinned, 0, 5, some 2⟩) ∧
      ∀ file ∈ [['a'], ['b'], ['c']], ∃ ts, layered file = some ts ∧ ∀ t ∈ ts, ∃ c,
        Constraint.parse t = .ok c ∧ (c.Admits ⟨0, 5, 2⟩ ∨ c.kind = .caret ∧
          c.rangeEnd ≤ ⟨0, 5, 2⟩ ∧ ∃ k ∈ declaredIn layered [['a'], ['b'], ['c']], k.Floats ∧
            c.release ≤ k.constraint.release ∧ k.constraint.Admits ⟨0, 5, 2⟩) := by
  obtain ⟨-, -, -, -, -, h, -⟩ := reconcile_layered
  exact ⟨h, reconcile_admitted h⟩

/-- The highest caret version is kept, also where a lower one has ended before it. -/
theorem reconcile_layered_not_admitted :
    ∃ v, reconcile layered [['a'], ['b']] = .ok (some v) ∧
      ∃ t c, layered ['a'] = some [t] ∧ Constraint.parse t = .ok c ∧ ¬ c.Admits v.release := by
  obtain ⟨hparse, -, -, -, hab, -⟩ := reconcile_layered
  exact ⟨_, hab, _, _, rfl, hparse, by decide⟩

end

end Flattener
