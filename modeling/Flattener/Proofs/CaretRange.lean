import Flattener.Proofs.Stepwise
import Mathlib.Algebra.Group.Nat.Defs
import Mathlib.Data.List.Lex

/-!
# Caret ranges, number by number

The range of a caret constraint is bounded by two releases: the one that it names, and the one in
which one number has gone up by one and all after it are zero. Which releases lie between the two
can be said without that second release (`Constraint.lt_rangeEnd_iff`): those from the named one on
that have the same numbers up to the decisive one, which is the left-most number that is not zero,
or the last one written if all are zero (`Constraint.decisive`).

The second release has to be written down for a comparison, and a number of it may have one digit
more than the declared one. So a declared number of as many nines as can be read leads to a range
whose end cannot be written, and no other number does (`Constraint.not_writable_iff`). A reconciler
comes to it when a pin is compared with such a range, and it has no failure to tell for that.

* `Constraint.allows_eq_agrees`: what a constraint allows, as a law on numbers.
* `Reconciler.add_faults`: with what one more declaration is refused, and exactly when it is for
  the end of a range.
-/

namespace Flattener

open scoped Release

/-! ### Numbers of a release -/

namespace Release

/-- The three numbers of a release, the weightiest first. -/
def numbers (r : Release) : List Nat := [r.major, r.minor, r.patch]

theorem numbers_inj {a b : Release} : a.numbers = b.numbers ↔ a = b := by
  obtain ⟨x, y, z⟩ := a
  obtain ⟨x', y', z'⟩ := b
  simp [numbers]

/-- The order of releases is the lexicographic one of their numbers. -/
theorem numbers_le_iff {a b : Release} : a.numbers ≤ b.numbers ↔ a ≤ b := by
  rw [le_iff, lt_iff, ← not_lt]
  simp [numbers, List.cons_lt_cons_iff]

end Release

namespace Constraint

/-! ### The decisive number -/

/-- The numbers as written, and zeros for the missing ones. -/
def padded (c : Constraint) : List Nat := c.parts ++ List.replicate (3 - c.parts.length) 0

/-- The index of the number that decides how far a caret range reaches: the left-most one that is
not zero, or the last one written if all are zero. -/
def decisive (c : Constraint) : Nat := (c.parts.findIdx? (· ≠ 0)).getD (c.parts.length - 1)

/-- The decisive number itself. -/
def decisiveNumber (c : Constraint) : Nat := c.padded.getD c.decisive 0

theorem padded_eq (c : Constraint) : c.padded = c.release.numbers := by
  cases hp : c.patch <;> simp [padded, parts, release, Release.numbers, hp]

/-- Where the decisive number stands, and where the range ends. -/
theorem rangeEnd_cases (c : Constraint) :
    (c.decisive = 0 ∧ c.rangeEnd = ⟨c.major + 1, 0, 0⟩) ∨
    (c.major = 0 ∧ c.decisive = 1 ∧ c.rangeEnd = ⟨0, c.minor + 1, 0⟩) ∨
    (c.major = 0 ∧ c.minor = 0 ∧ c.patch.isSome ∧ c.decisive = 2 ∧
      c.rangeEnd = ⟨0, 0, c.release.patch + 1⟩) := by
  unfold decisive parts rangeEnd release
  by_cases hmajor : c.major = 0
  · by_cases hminor : c.minor = 0
    · cases hp : c.patch with
      | none => simp [List.findIdx?_cons, hmajor, hminor]
      | some n => by_cases hn : n = 0 <;> simp [List.findIdx?_cons, hmajor, hminor, hn]
    · simp [List.findIdx?_cons, hmajor, hminor]
  · simp [List.findIdx?_cons, hmajor]

/-- From the named release on, the range holds those releases that have the same numbers up to the
decisive one. -/
theorem lt_rangeEnd_iff {c : Constraint} {r : Release} (h : c.release ≤ r) :
    r < c.rangeEnd ↔ r.numbers.take (c.decisive + 1) = c.padded.take (c.decisive + 1) := by
  have hmajor : c.release.major = c.major := rfl
  have hminor : c.release.minor = c.minor := rfl
  rw [Release.le_iff, Release.lt_iff] at h
  rw [padded_eq, Release.lt_iff]
  obtain ⟨hk, he⟩ | ⟨h0, hk, he⟩ | ⟨h0, h1, -, hk, he⟩ := rangeEnd_cases c <;>
    simp only [hk, he, Release.numbers, List.take_succ_cons, List.take_zero, List.cons.injEq,
      and_true] <;>
    omega

theorem numberLimit_eq : numberLimit = 10 ^ digitLimit := by
  delta numberLimit
  generalize digitLimit = n
  rfl

/-- The decisive number is a written one. -/
theorem decisiveNumber_mem (c : Constraint) : c.decisiveNumber ∈ c.parts := by
  unfold decisiveNumber
  rw [padded_eq]
  obtain ⟨hk, -⟩ | ⟨-, hk, -⟩ | ⟨-, -, hp, hk, -⟩ := rangeEnd_cases c
  · simp [hk, Release.numbers, release, parts]
  · simp [hk, Release.numbers, release, parts]
  · obtain ⟨n, hn⟩ := Option.isSome_iff_exists.1 hp
    simp [hk, Release.numbers, release, parts, hn]

theorem decisiveNumber_of_major {c : Constraint} (h : c.major ≠ 0) :
    c.decisiveNumber = c.major := by
  simp [decisiveNumber, decisive, padded, parts, List.findIdx?_cons, h]

/-- The end of a range can be written if the number next to the decisive one can. -/
theorem writable_rangeEnd_iff (c : Constraint) :
    writable c.rangeEnd ↔ c.decisiveNumber + 1 < numberLimit := by
  have hpos : 0 < numberLimit := by
    rw [numberLimit_eq]
    exact Nat.pow_pos (by decide)
  unfold decisiveNumber
  rw [padded_eq]
  obtain ⟨hk, he⟩ | ⟨h0, hk, he⟩ | ⟨h0, h1, -, hk, he⟩ := rangeEnd_cases c <;>
    simp [hk, he, writable, Release.numbers, release, hpos]

/-- What a constraint allows, as a law on numbers. A pinned one allows the constraints with the same
three numbers. A caret one allows those whose numbers are not lower in lexicographic order and are
the same up to the decisive one; if the number next to the decisive one cannot be written, that
cannot be told. -/
theorem allows_eq_agrees (c p : Constraint) : c.allows p =
    match c.kind with
    | .pinned => .ok (decide (p.padded = c.padded))
    | .caret =>
      if c.decisiveNumber + 1 < numberLimit then
        .ok (decide (c.padded ≤ p.padded ∧
          p.padded.take (c.decisive + 1) = c.padded.take (c.decisive + 1)))
      else .error .longOutput := by
  cases hk : c.kind with
  | pinned => simp only [allows, hk, padded_eq, Release.numbers_inj]
  | caret =>
    dsimp only
    split
    · rename_i hlimit
      have hw := (writable_rangeEnd_iff c).2 hlimit
      rw [allows_eq_of_writable fun _ => hw]
      refine congrArg Except.ok (decide_eq_decide.2 ?_)
      rw [admits_of_caret hk, padded_eq p, padded_eq c, Release.numbers_le_iff, ← padded_eq c]
      exact and_congr_right fun h => lt_rangeEnd_iff h
    · rename_i hlimit
      exact allows_eq_error_iff.2
        ⟨hk, by simpa using mt (writable_rangeEnd_iff c).1 hlimit, rfl⟩

end Constraint

/-! ### Numbers at the limit -/

theorem digitsValue_concat (t : Text) (c : Char) :
    digitsValue (t ++ [c]) = 10 * digitsValue t + (digitValue? c).getD 0 := by
  rw [digitsValue, List.foldl_append]
  rfl

/-- A run of digits denotes a number that needs no more digits. -/
theorem digitsValue_lt (t : Text) : digitsValue t < 10 ^ t.length := by
  induction t using List.reverseRecOn with
  | nil => decide
  | append_singleton t c ih =>
    have hdigit : (digitValue? c).getD 0 < 10 := by
      cases h : digitValue? c with
      | none => decide
      | some v => exact digitValue?_lt h
    rw [digitsValue_concat, List.length_append, List.length_singleton, Nat.pow_succ]
    omega

/-- A run of nines denotes the last number before one more digit is needed. -/
theorem digitsValue_nines (n : Nat) : digitsValue (List.replicate n '9') + 1 = 10 ^ n := by
  induction n with
  | zero => decide
  | succ n ih =>
    have hnine : digitValue? '9' = some 9 := by decide
    rw [List.replicate_succ', digitsValue_concat, hnine, Option.getD_some, Nat.pow_succ]
    omega

namespace Constraint

theorem decisiveNumber_lt {t : Text} {c : Constraint} (h : parse t = .ok c) :
    c.decisiveNumber < numberLimit := by
  obtain ⟨numbers, -, hlen, -, hparts⟩ := parse_eq_ok_iff.1 h
  have hmem := c.decisiveNumber_mem
  rw [hparts] at hmem
  obtain ⟨n, hn, hvalue⟩ := List.mem_map.1 hmem
  calc c.decisiveNumber = digitsValue n := hvalue.symm
    _ < 10 ^ n.length := digitsValue_lt n
    _ ≤ 10 ^ digitLimit := Nat.pow_le_pow_right (by decide) (hlen n hn)
    _ = numberLimit := numberLimit_eq.symm

/-- The end of the range of a declaration that was read cannot be written just if the decisive
number is the last one that can. -/
theorem not_writable_iff {t : Text} {c : Constraint} (h : parse t = .ok c) :
    writable c.rangeEnd = false ↔ c.decisiveNumber + 1 = numberLimit := by
  have hlt := decisiveNumber_lt h
  rw [← Bool.not_eq_true, writable_rangeEnd_iff]
  omega

end Constraint

/-! ### Declarations one after the other -/

/-- The failures that a reconciler has to tell. -/
inductive Failure.Unreconciled : Failure → Prop where
  | malformed (file declaration : Text) (reason : Option Text) :
    Unreconciled (.malformedVersion file declaration reason)
  | conflict (summary firstFile firstVersion secondFile secondVersion : Text) :
    Unreconciled (.versionConflict summary firstFile firstVersion secondFile secondVersion)

namespace Reconciler

open Declared

/-- A declaration is refused with a failure, or because a range cannot be written. -/
theorem add_snd_eq_some {r : Reconciler} {file t : Text} {e : ReconcileFault}
    (h : (r.add file t).2 = some e) :
    (∃ f, e = .failure f ∧ f.Unreconciled) ∨ ∃ c v, Constraint.parse t = .ok c ∧
      r.Agrees ⟨file, c⟩ ∧ (r.record ⟨file, c⟩).1.check = some (.range v) ∧ e = .range v := by
  cases hparse : Constraint.parse t with
  | error v =>
    simp only [add, hparse, Option.some.injEq] at h
    exact .inl ⟨_, h.symm, .malformed ..⟩
  | ok c =>
    rw [add_of_ok r file hparse] at h
    by_cases hagrees : r.Agrees ⟨file, c⟩
    · rw [record_snd_of_agrees hagrees] at h
      obtain ⟨k, p, -, -, rfl | ⟨v, -, rfl⟩⟩ := check_eq_some h
      · exact .inl ⟨_, rfl, .conflict ..⟩
      · exact .inr ⟨c, v, rfl, hagrees, h, rfl⟩
    · obtain ⟨hd, p, hp, hne⟩ := not_agrees_iff.1 hagrees
      rw [record_snd_of_ne hd hp hne] at h
      exact .inl ⟨_, (Option.some.inj h).symm, .conflict ..⟩

theorem exists_parse_of_mem_seen {steps : List (Text × Text)} {d : Declared}
    (h : d ∈ seen steps) : ∃ s ∈ steps, Constraint.parse s.2 = .ok d.constraint := by
  obtain ⟨s, hs, hread⟩ := List.mem_filterMap.1 h
  obtain ⟨c, hc, rfl⟩ := Option.map_eq_some_iff.1 hread
  exact ⟨s, hs, toOption_eq_some_iff.1 hc⟩

/-- After `steps`, the declaration `t` is understood and pins no other version; and then there are a
pin and a caret version that leads, whose decisive number is the last one that can be written. -/
def ReachesLimit (steps : List (Text × Text)) (file t : Text) : Prop :=
  ∃ c k p, Constraint.parse t = .ok c ∧ (after steps).Agrees ⟨file, c⟩ ∧
    IsFirstPin (seen (steps ++ [(file, t)])) p ∧ IsLeadingCaret (seen (steps ++ [(file, t)])) k ∧
    k.constraint.decisiveNumber + 1 = Constraint.numberLimit

theorem check_after_eq_range_iff {steps : List (Text × Text)} {v : VersionFault} :
    (after steps).check = some (.range v) ↔ v = .longOutput ∧ ∃ k p,
      IsFirstPin (seen steps) p ∧ IsLeadingCaret (seen steps) k ∧
        k.constraint.decisiveNumber + 1 = Constraint.numberLimit := by
  have hlimit : ∀ k, IsLeadingCaret (seen steps) k → (Constraint.writable k.constraint.rangeEnd =
      false ↔ k.constraint.decisiveNumber + 1 = Constraint.numberLimit) := by
    intro k hk
    obtain ⟨s, -, hparse⟩ := exists_parse_of_mem_seen hk.le.1
    exact Constraint.not_writable_iff hparse
  rw [check_eq_range_iff, after_eq_summary]
  simp only [summary, leadingCaret_eq_some_iff, firstPin_eq_some_iff,
    Constraint.allows_eq_error_iff]
  constructor
  · rintro ⟨k, p, hk, hp, -, hw, rfl⟩
    exact ⟨rfl, k, p, hp, hk, (hlimit k hk).1 hw⟩
  · rintro ⟨rfl, k, p, hp, hk, hnine⟩
    exact ⟨k, p, hk, hp, hk.le.2.1, (hlimit k hk).2 hnine, rfl⟩

/-- A declaration is refused for the end of a range just if it brings the limit about. -/
theorem add_snd_eq_range_iff {steps : List (Text × Text)} {file t : Text} {v : VersionFault} :
    ((after steps).add file t).2 = some (.range v) ↔
      v = .longOutput ∧ ReachesLimit steps file t := by
  constructor
  · intro h
    rcases add_snd_eq_some h with ⟨f, hf, -⟩ | ⟨c, v', hparse, hagrees, hcheck, hv⟩
    · cases hf
    · cases hv
      rw [← add_of_ok _ file hparse, ← after_concat, check_after_eq_range_iff] at hcheck
      obtain ⟨rfl, k, p, hp, hk, hnine⟩ := hcheck
      exact ⟨rfl, c, k, p, hparse, hagrees, hp, hk, hnine⟩
  · rintro ⟨rfl, c, k, p, hparse, hagrees, hp, hk, hnine⟩
    rw [add_of_ok _ file hparse, record_snd_of_agrees hagrees, ← add_of_ok _ file hparse,
      ← after_concat, check_after_eq_range_iff]
    exact ⟨rfl, k, p, hp, hk, hnine⟩

/-- After any sequence of declarations, refused or not, one more is accepted, or refused as
malformed or for a conflict of versions, or else refused for the end of a range that cannot be
written. The last is no failure that is told, and it happens just if the declaration brings
together a pin and a leading caret version whose decisive number is the last one that can be
written. -/
theorem add_faults (steps : List (Text × Text)) (file t : Text) :
    (∀ e, ((after steps).add file t).2 = some e →
      (∃ f, e = .failure f ∧ f.Unreconciled) ∨ e = .range .longOutput) ∧
    (((after steps).add file t).2 = some (.range .longOutput) ↔ ReachesLimit steps file t) := by
  refine ⟨fun e he => ?_, add_snd_eq_range_iff.trans (and_iff_right rfl)⟩
  rcases add_snd_eq_some he with hf | ⟨c, v, -, -, -, rfl⟩
  · exact .inl hf
  · obtain ⟨rfl, -⟩ := add_snd_eq_range_iff.1 he
    exact .inr rfl

/-- A caret version whose first number is written with nines only. -/
def nines (n : Nat) : Text := '^' :: (List.replicate n '9' ++ ['.', '0'])

/-- The constraint that it declares. -/
def ninesConstraint (n : Nat) : Constraint :=
  ⟨nines n, .caret, digitsValue (List.replicate n '9'), 0, none⟩

theorem trim_nines (n : Nat) : Text.trim (nines n) = nines n := by
  have hleft : Text.trimLeft (nines n) = nines n := rfl
  have hreverse : (nines n).reverse = '0' :: '.' :: (List.replicate n '9' ++ ['^']) := by
    simp [nines]
  have hright : (nines n).reverse.dropWhile isBlank = (nines n).reverse := by
    rw [hreverse]
    rfl
  rw [Text.trim, hleft, Text.trimRight, hright, List.reverse_reverse]

theorem parse_nines {n : Nat} (hpos : n ≠ 0) (hn : n ≤ digitLimit) :
    Constraint.parse (nines n) = .ok (ninesConstraint n) := by
  have htrim := trim_nines n
  refine Constraint.parse_eq_ok_iff.2 ⟨[List.replicate n '9', ['0']], ⟨htrim, .inl rfl, ?_⟩, ?_,
    htrim.symm, rfl⟩
  · have hnine : isDigit '9' := by decide
    have hzero : isDigit '0' := by decide
    simp [hpos, hnine, hzero]
  · simpa using ⟨hn, by decide⟩

theorem decisiveNumber_nines {n : Nat} (hpos : n ≠ 0) :
    (ninesConstraint n).decisiveNumber + 1 = 10 ^ n := by
  have hvalue : (ninesConstraint n).major + 1 = 10 ^ n := digitsValue_nines n
  have hone : 1 < 10 ^ n := Nat.one_lt_pow hpos (by decide)
  have hmajor : (ninesConstraint n).major ≠ 0 := by omega
  rw [Constraint.decisiveNumber_of_major hmajor, hvalue]

/-- A pin and then a caret version at the limit. -/
theorem reachesLimit_of_caret {a b t u : Text} {p c : Constraint}
    (hp : Constraint.parse t = .ok p) (hpk : p.kind = .pinned) (hc : Constraint.parse u = .ok c)
    (hck : c.kind = .caret) (hlimit : c.decisiveNumber + 1 = Constraint.numberLimit) :
    ReachesLimit [(a, t)] b u := by
  have hpins : Pins ⟨a, p⟩ := hpk
  have hfloats : Floats ⟨b, c⟩ := hck
  have hseen : seen ([(a, t)] ++ [(b, u)]) = [⟨a, p⟩, ⟨b, c⟩] := by
    rw [seen_concat_of_ok _ _ hc]
    simp [seen, hp, Except.toOption]
  refine ⟨c, ⟨b, c⟩, ⟨a, p⟩, hc, fun h => absurd h (floats_iff_not_pins.1 hfloats), ?_, ?_, hlimit⟩
  · exact ⟨[], [⟨b, c⟩], hseen, hpins, by simp⟩
  · refine ⟨[⟨a, p⟩], [], hseen, hfloats, ?_, by simp⟩
    simpa using fun h => absurd hpins (floats_iff_not_pins.1 h)

/-- After the pin `1.0`, a caret version with as many nines as can be read is refused with a fault
that is no failure. -/
theorem add_nines :
    ∃ e, ((after [(['a'], "1.0".toList)]).add ['b'] (nines digitLimit)).2 = some e ∧
      e = .range .longOutput ∧ ∀ f, e ≠ .failure f := by
  have hpin : Constraint.parse "1.0".toList = .ok ⟨"1.0".toList, .pinned, 1, 0, none⟩ := by
    decide +kernel
  have hpos : digitLimit ≠ 0 := by decide
  have hnines := decisiveNumber_nines hpos
  rw [← Constraint.numberLimit_eq] at hnines
  exact ⟨_, add_snd_eq_range_iff.2
    ⟨rfl, reachesLimit_of_caret hpin rfl (parse_nines hpos (Nat.le_refl _)) rfl hnines⟩, rfl, nofun⟩

end Reconciler

end Flattener
