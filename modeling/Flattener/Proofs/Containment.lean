import Flattener.Proofs.Entries
import Flattener.Proofs.Newlines
import Flattener.Proofs.Reconciliation

/-!
# Faults that a run does not tell

A run should end with a bundle or with a failure that says what is wrong with the project: a file
that is not found or cannot be read, a cycle, versions that do not fit or are not understood
(`Fault.Told`). This module says with which other faults a run ends, and when.

The sources are read twice. A file whose directives cannot be found is reported when it is
discovered, but not when its body is taken, from the text with unified line breaks; and a text in
which the directives are found may be one in which they are not, once its line breaks are unified
(`SourceFile.Rereadable`). Numbers are written when a pin is compared with a caret range, since the
range ends at a number that is one higher than a declared one, and that number may have one digit
too many (`Overlong`). These are the only two ways: all labels are known where they are looked up,
and the default marker can always be written.

* `reconcile_eq_error` and `Overlong.reconcile_eq`: why versions are refused, and when it is for the
  end of a range.
* `Bundle.fault_of_run`: the faults of a run, and what they come from.
* `Bundle.run_faults`: which faults there are, and exactly when those arise that are not told.
-/

namespace Flattener

/-! ### Faults that are told -/

/-- The failures that a run tells about a project. -/
inductive Fault.Told : Fault → Prop where
  | unparsable (file : Text) (reason : Option Text) : Told (.failure (.unparsable file reason))
  | unresolved (specifier : Text) (searched : List Text) :
    Told (.failure (.unresolved specifier searched))
  | cyclic (visited : List Text) : Told (.failure (.cyclic visited))
  | versionConflict (summary firstFile firstVersion secondFile secondVersion : Text) :
    Told (.failure (.versionConflict summary firstFile firstVersion secondFile secondVersion))
  | malformedVersion (file declaration : Text) (reason : Option Text) :
    Told (.failure (.malformedVersion file declaration reason))

/-! ### Ranges whose end cannot be written -/

/-- A check cannot be made if the constraint is a caret range whose end cannot be written. -/
theorem Constraint.allows_eq_error_iff {c d : Constraint} {v : VersionFault} :
    c.allows d = .error v ↔ c.kind = .caret ∧ writable c.rangeEnd = false ∧ v = .longOutput := by
  unfold allows
  cases hk : c.kind with
  | pinned => simp
  | caret =>
    cases hw : writable c.rangeEnd with
    | true => simp [upperBound, hw, bind, Except.bind, pure, Except.pure]
    | false => simp [upperBound, hw, bind, Except.bind, eq_comm]

namespace Reconciler

variable {r : Reconciler} {d : Declared} {e : ReconcileFault} {v : VersionFault}

/-- The declaration pins no other version than before. -/
def Agrees (r : Reconciler) (d : Declared) : Prop :=
  d.Pins → ∀ p, r.pinned = some p → d.constraint.release = p.constraint.release

theorem check_eq_some (h : r.check = some e) : ∃ k p, r.caret = some k ∧ r.pinned = some p ∧
    (e = rangeConflict k p ∨ ∃ v, k.constraint.allows p.constraint = .error v ∧ e = .range v) := by
  unfold check at h
  split at h
  · rename_i k p hk hp
    refine ⟨k, p, hk, hp, ?_⟩
    split at h
    · cases h
    · exact .inl (Option.some.inj h).symm
    · rename_i v hv
      exact .inr ⟨v, hv, (Option.some.inj h).symm⟩
  · cases h

theorem check_eq_range_iff : r.check = some (.range v) ↔
    ∃ k p, r.caret = some k ∧ r.pinned = some p ∧
      k.constraint.allows p.constraint = .error v := by
  constructor
  · intro h
    obtain ⟨k, p, hk, hp, he | ⟨v', hv, he⟩⟩ := check_eq_some h
    · cases he
    · cases he
      exact ⟨k, p, hk, hp, hv⟩
  · rintro ⟨k, p, hk, hp, hv⟩
    simp only [check, hk, hp, hv]

/-- A declaration that agrees with the pin is checked. -/
theorem record_snd_of_agrees (h : r.Agrees d) : (r.record d).2 = (r.record d).1.check := by
  unfold record
  cases hk : d.constraint.kind with
  | caret => rfl
  | pinned =>
    cases hp : r.pinned with
    | none => rfl
    | some p => simp only [h hk p hp, if_true]

/-- A declaration that pins another version is refused. -/
theorem record_snd_of_ne {p : Declared} (hd : d.Pins) (hp : r.pinned = some p)
    (hne : d.constraint.release ≠ p.constraint.release) :
    (r.record d).2 = some (pinConflict p d) := by
  have hk : d.constraint.kind = .pinned := hd
  unfold record
  simp only [hk, hp, hne, if_false]

theorem not_agrees_iff : ¬ r.Agrees d ↔ d.Pins ∧ ∃ p, r.pinned = some p ∧
    d.constraint.release ≠ p.constraint.release := by
  simp only [Agrees, not_forall, exists_prop]

/-- A file is refused with a failure that is told, or because a range cannot be written. -/
theorem addFile_eq_error {file : Text} {ts : List Text} (h : r.addFile file ts = .error e) :
    e.toFault.Told ∨ ∃ t c v, ts = [t] ∧ Constraint.parse t = .ok c ∧ r.Agrees ⟨file, c⟩ ∧
      (r.record ⟨file, c⟩).1.check = some (.range v) ∧ e = .range v := by
  match ts with
  | [] => cases h
  | [t] =>
    cases hparse : Constraint.parse t with
    | error v =>
      simp only [addFile, add, hparse, Except.error.injEq] at h
      subst h
      exact .inl (.malformedVersion ..)
    | ok c =>
      have hrecord : (r.record ⟨file, c⟩).2 = some e := by
        simp only [addFile, add, hparse] at h
        split at h
        · cases h
        · rename_i heq
          cases h
          rw [heq]
      by_cases hagrees : r.Agrees ⟨file, c⟩
      · rw [record_snd_of_agrees hagrees] at hrecord
        obtain ⟨k, p, -, -, rfl | ⟨v, -, rfl⟩⟩ := check_eq_some hrecord
        · exact .inl (.versionConflict ..)
        · exact .inr ⟨t, c, v, rfl, hparse, hagrees, hrecord, rfl⟩
      · obtain ⟨hd, p, hp, hne⟩ := not_agrees_iff.1 hagrees
        obtain rfl := Option.some.inj ((record_snd_of_ne hd hp hne).symm.trans hrecord)
        exact .inl (.versionConflict ..)
  | _ :: _ :: _ =>
    cases h
    exact .inl (.malformedVersion ..)

theorem addFile_eq_range {file t : Text} {c : Constraint} (hparse : Constraint.parse t = .ok c)
    (hagrees : r.Agrees ⟨file, c⟩) (hcheck : (r.record ⟨file, c⟩).1.check = some (.range v)) :
    r.addFile file [t] = .error (.range v) := by
  have hrecord := (record_snd_of_agrees hagrees).trans hcheck
  simp only [addFile, add, hparse]
  split
  · rename_i heq
    rw [heq] at hrecord
    cases hrecord
  · rename_i heq
    rw [heq] at hrecord
    cases hrecord
    rfl

end Reconciler

section

variable {declarations : Text → Option (List Text)} {files : List Text}

theorem reconcileFrom_append (r : Reconciler) (before after : List Text) :
    reconcileFrom declarations r (before ++ after) =
      reconcileFrom declarations r before >>= fun r' => reconcileFrom declarations r' after := by
  induction before generalizing r with
  | nil => rfl
  | cons file before ih =>
    cases hts : declarations file with
    | none =>
      simp only [List.cons_append, reconcileFrom, hts]
      rfl
    | some ts => simp only [List.cons_append, reconcileFrom, hts, ih, bind_assoc]

/-- Files are refused at the first one that cannot be added to those before it. -/
theorem reconcileFrom_eq_error_iff {r : Reconciler} {e : ReconcileFault} :
    reconcileFrom declarations r files = .error e ↔ ∃ before file after r',
      files = before ++ file :: after ∧ reconcileFrom declarations r before = .ok r' ∧
        ((declarations file = none ∧ e = .unknownFile file) ∨
          ∃ ts, declarations file = some ts ∧ r'.addFile file ts = .error e) := by
  constructor
  · intro h
    induction files generalizing r with
    | nil => cases h
    | cons first files ih =>
      cases hts : declarations first with
      | none =>
        simp only [reconcileFrom, hts, Except.error.injEq] at h
        exact ⟨[], first, files, r, rfl, rfl, .inl ⟨hts, h.symm⟩⟩
      | some ts =>
        simp only [reconcileFrom, hts] at h
        rcases bind_eq_error_iff.1 h with h | ⟨r₁, hr₁, h⟩
        · exact ⟨[], first, files, r, rfl, rfl, .inr ⟨ts, hts, h⟩⟩
        · obtain ⟨before, file, after, r', rfl, hbefore, hfile⟩ := ih h
          refine ⟨first :: before, file, after, r', rfl, ?_, hfile⟩
          simp only [reconcileFrom, hts]
          exact bind_eq_ok_iff.2 ⟨r₁, hr₁, hbefore⟩
  · rintro ⟨before, file, after, r', rfl, hbefore, hfile⟩
    rw [reconcileFrom_append, bind_eq_error_iff]
    refine .inr ⟨r', hbefore, ?_⟩
    rcases hfile with ⟨hts, rfl⟩ | ⟨ts, hts, he⟩
    · simp only [reconcileFrom, hts]
    · simp only [reconcileFrom, hts]
      exact bind_eq_error_iff.2 (.inl he)

/-- After the files `before`, which are accepted, the one declaration of `file` is understood and
pins no other version; and then there are a pin and a caret version that leads, whose range has an
end that cannot be written. -/
structure Overlong (declarations : Text → Option (List Text)) (before : List Text) (file : Text) :
    Prop where
  accepted : ∃ v, reconcile declarations before = .ok v
  agrees : ∃ d, understood declarations file = some [d] ∧
    (Reconciler.summary (declaredIn declarations before)).Agrees d
  unwritable : ∃ k p, Declared.leadingCaret (declaredIn declarations (before ++ [file])) = some k ∧
    Declared.firstPin (declaredIn declarations (before ++ [file])) = some p ∧
    Constraint.writable k.constraint.rangeEnd = false

theorem declaredIn_concat {before : List Text} {file : Text} {d : Declared}
    (h : understood declarations file = some [d]) :
    declaredIn declarations (before ++ [file]) = declaredIn declarations before ++ [d] := by
  simp [declaredIn, h]

theorem understood_of_parse {file t : Text} {c : Constraint} (hts : declarations file = some [t])
    (hparse : Constraint.parse t = .ok c) : understood declarations file = some [⟨file, c⟩] := by
  simp [understood, hts, Declared.read, hparse, Except.toOption]

/-- What is remembered of accepted files. -/
theorem reconcileFrom_eq_ok_iff {r : Reconciler} :
    reconcileFrom declarations {} files = .ok r ↔ (∃ v, reconcile declarations files = .ok v) ∧
      r = Reconciler.summary (declaredIn declarations files) := by
  have hrun : reconcileFrom declarations {} files = .ok r ↔ _ :=
    reconcileFrom_summary_eq_ok_iff Consistent.nil
  rw [hrun, List.nil_append]
  constructor
  · rintro ⟨hall, hc, hr⟩
    exact ⟨⟨_, reconcile_eq_ok_iff.2 ⟨hall, hc, rfl⟩⟩, hr⟩
  · rintro ⟨⟨v, hv⟩, hr⟩
    obtain ⟨hall, hc, -⟩ := reconcile_eq_ok_iff.1 hv
    exact ⟨hall, hc, hr⟩

theorem Declared.read_eq_singleton {file : Text} {ts : List Text} {d : Declared}
    (h : Declared.read file ts = some [d]) :
    ∃ t c, ts = [t] ∧ Constraint.parse t = .ok c ∧ d = ⟨file, c⟩ := by
  match ts with
  | [] => cases h
  | [t] =>
    obtain ⟨c, hc, hd⟩ := Option.map_eq_some_iff.1 h
    exact ⟨t, c, rfl, toOption_eq_some_iff.1 hc, (List.cons.inj hd).1.symm⟩
  | _ :: _ :: _ => cases h

theorem reconcile_eq_error_iff {e : ReconcileFault} : reconcile declarations files = .error e ↔
    reconcileFrom declarations {} files = .error e := by
  rw [reconcile]
  cases reconcileFrom declarations {} files <;> simp [Except.map]

/-- Versions are refused with a failure that is told, because a file is not known, or because a
range cannot be written. -/
theorem reconcile_eq_error {e : ReconcileFault} (h : reconcile declarations files = .error e) :
    e.toFault.Told ∨ (∃ file ∈ files, declarations file = none) ∨
      e = .range .longOutput ∧ ∃ before file after, files = before ++ file :: after ∧
        Overlong declarations before file := by
  obtain ⟨before, file, after, r, rfl, hr, hfile⟩ :=
    reconcileFrom_eq_error_iff.1 (reconcile_eq_error_iff.1 h)
  obtain ⟨haccepted, rfl⟩ := reconcileFrom_eq_ok_iff.1 hr
  rcases hfile with ⟨hnone, -⟩ | ⟨ts, hts, he⟩
  · exact .inr (.inl ⟨file, by simp, hnone⟩)
  · rcases Reconciler.addFile_eq_error he with htold | ⟨t, c, v, rfl, hparse, hagrees, hcheck, rfl⟩
    · exact .inl htold
    · have hund := understood_of_parse hts hparse
      rw [Reconciler.record_fst, ← declaredIn_concat hund] at hcheck
      obtain ⟨k, p, hk, hp, hv⟩ := Reconciler.check_eq_range_iff.1 hcheck
      obtain ⟨-, hwritable, rfl⟩ := Constraint.allows_eq_error_iff.1 hv
      exact .inr (.inr ⟨rfl, before, file, after, rfl, haccepted, ⟨_, hund, hagrees⟩,
        k, p, hk, hp, hwritable⟩)

/-- A range that cannot be written ends the reconciliation. -/
theorem Overlong.reconcile_eq {before after : List Text} {file : Text}
    (h : Overlong declarations before file) :
    reconcile declarations (before ++ file :: after) = .error (.range .longOutput) := by
  obtain ⟨d, hund, hagrees⟩ := h.agrees
  obtain ⟨k, p, hk, hp, hwritable⟩ := h.unwritable
  obtain ⟨ts, hts, hread⟩ := Option.bind_eq_some_iff.1 hund
  obtain ⟨t, c, rfl, hparse, rfl⟩ := Declared.read_eq_singleton hread
  have hcaret : k.constraint.kind = .caret := (Declared.leadingCaret_eq_some hk).2.1
  have hcheck : ((Reconciler.summary (declaredIn declarations before)).record ⟨file, c⟩).1.check =
      some (.range .longOutput) := by
    rw [Reconciler.record_fst, ← declaredIn_concat hund, Reconciler.check_eq_range_iff]
    exact ⟨k, p, hk, hp, Constraint.allows_eq_error_iff.2 ⟨hcaret, hwritable, rfl⟩⟩
  refine reconcile_eq_error_iff.2 (reconcileFrom_eq_error_iff.2
    ⟨before, file, after, _, rfl, reconcileFrom_eq_ok_iff.2 ⟨h.accepted, rfl⟩, .inr ⟨[t], hts, ?_⟩⟩)
  exact Reconciler.addFile_eq_range hparse hagrees hcheck

end

/-! ### Sources that are read again -/

/-- The directives of the file are found also when its line breaks are unified. -/
def SourceFile.Rereadable (f : SourceFile) : Prop :=
  ∃ ds, Directive.findAll (Text.unifyNewlines f.content) = .ok ds

theorem SourceFile.rereadable_iff {f : SourceFile} :
    f.Rereadable ↔ ∃ body, Body.clean f.content = .ok body := by
  unfold Rereadable Body.clean
  simp only [map_eq_ok_iff]
  constructor
  · rintro ⟨ds, hds⟩
    exact ⟨_, ds, hds, rfl⟩
  · rintro ⟨-, ds, hds, -⟩
    exact ⟨ds, hds⟩

/-- A file with line comments that hold only blanks after a carriage return, with literals that hold
no bare one, and with caret versions whose range has an end that can be written. -/
structure SourceFile.Plain (f : SourceFile) : Prop where
  comments : ∀ ls, scan f.content = .ok ls → ∀ l ∈ ls, l.settled
  literals : ∀ ls, scan f.content = .ok ls → ∀ l ∈ ls, l.unbroken
  versions : ∀ t ∈ f.versions, ∀ c, Constraint.parse t = .ok c → Constraint.writable c.rangeEnd

theorem SourceFile.Plain.rereadable {f : SourceFile} (h : f.Plain) {a : Resolved}
    (hread : SourceFile.read a = .ok f) : f.Rereadable := by
  rw [eq_of_read hread] at hread
  obtain ⟨ds, hds, -⟩ := bind_eq_ok_iff.1 hread
  obtain ⟨ls, hls, -⟩ := Directive.findAll_eq_ok_iff.1 hds
  obtain ⟨ds', hds', -⟩ := findAll_unifyNewlines hls hds (h.comments ls hls) (h.literals ls hls)
  exact ⟨ds', hds'⟩

namespace Graph

variable {g : Graph} {f : SourceFile}

/-- The file with a label is the only one. -/
theorem file?_eq_some_iff {path : Text} : g.file? path = some f ↔ f ∈ g.files ∧ f.path = path := by
  constructor
  · intro h
    exact ⟨List.mem_of_find?_eq_some h, by simpa using List.find?_some h⟩
  · rintro ⟨hf, rfl⟩
    obtain ⟨f', hf'⟩ : ∃ f', g.file? f.path = some f' := by
      rw [← Option.isSome_iff_exists, file?, List.find?_isSome]
      exact ⟨f, hf, by simp⟩
    have hpath : f'.path = f.path := by simpa using List.find?_some hf'
    rw [hf', List.inj_on_of_nodup_map g.files_nodup (List.mem_of_find?_eq_some hf') hf hpath]

end Graph

/-! ### Steps of a run -/

namespace Bundle

variable {content : Text → Option Text} {started : Bool} {index : Nat} {files : List Text}

theorem fileSection_standard_eq_error {path source : Text} {e : Fault}
    (h : fileSection Marker.standard path source index = .error e) :
    ∃ x, Body.clean source = .error x ∧ e = .source x := by
  unfold fileSection at h
  rw [Marker.render_standard] at h
  rcases bind_eq_error_iff.1 h with h | ⟨marker, -, h⟩
  · cases h
  · rcases bind_eq_error_iff.1 h with h | ⟨body, -, h⟩
    · cases hclean : Body.clean source with
      | ok body =>
        rw [hclean] at h
        cases h
      | error x =>
        rw [hclean] at h
        cases h
        exact ⟨x, rfl, rfl⟩
    · split at h <;> cases h

theorem clean_of_fileSection {template : Marker.Template} {path source this : Text}
    (h : fileSection template path source index = .ok this) :
    ∃ body, Body.clean source = .ok body := by
  obtain ⟨marker, -, h⟩ := bind_eq_ok_iff.1 h
  obtain ⟨body, hbody, -⟩ := bind_eq_ok_iff.1 h
  exact ⟨body, mapError_eq_ok_iff.1 hbody⟩

/-- With the default marker, the sections of known files are written unless the body of one cannot
be taken. -/
theorem sections_standard_eq_error {e : Fault}
    (h : sections Marker.standard content started index files = .error e) :
    (∃ path ∈ files, content path = none) ∨ ∃ path ∈ files, ∃ source x,
      content path = some source ∧ Body.clean source = .error x ∧ e = .source x := by
  induction files generalizing started index with
  | nil => cases h
  | cons path files ih =>
    unfold sections at h
    split at h
    · exact .inl ⟨path, List.mem_cons_self, ‹_›⟩
    · rename_i source hsource
      rcases bind_eq_error_iff.1 h with h | ⟨this, -, h⟩
      · obtain ⟨x, hx, rfl⟩ := fileSection_standard_eq_error h
        exact .inr ⟨path, List.mem_cons_self, source, x, hsource, hx, rfl⟩
      · rcases bind_eq_error_iff.1 h with h | ⟨later, -, h⟩
        · rcases ih h with ⟨other, hmem, hnone⟩ | ⟨other, hmem, hrest⟩
          · exact .inl ⟨other, List.mem_cons_of_mem _ hmem, hnone⟩
          · exact .inr ⟨other, List.mem_cons_of_mem _ hmem, hrest⟩
        · cases h

theorem clean_of_sections {template : Marker.Template} {pieces : List Text}
    (h : sections template content started index files = .ok pieces) :
    ∀ path ∈ files, ∃ source body, content path = some source ∧ Body.clean source = .ok body := by
  induction files generalizing started index pieces with
  | nil => simp
  | cons path files ih =>
    unfold sections at h
    split at h
    · cases h
    · rename_i source hsource
      obtain ⟨this, hthis, h⟩ := bind_eq_ok_iff.1 h
      obtain ⟨later, hlater, -⟩ := bind_eq_ok_iff.1 h
      obtain ⟨body, hbody⟩ := clean_of_fileSection hthis
      exact List.forall_mem_cons.2 ⟨⟨source, body, hsource, hbody⟩, ih hlater⟩

section

variable {finder : Finder} {template : Marker.Template} {entries : List Text} {g : Graph}
  {e : Fault}

theorem contentOf_eq_some_iff {path source : Text} : contentOf g path = some source ↔
    ∃ f ∈ g.files, f.path = path ∧ f.content = source := by
  simp only [contentOf, Option.map_eq_some_iff, Graph.file?_eq_some_iff, and_assoc]

theorem versionsOf_eq_some_iff {path : Text} {ts : List Text} : versionsOf g path = some ts ↔
    ∃ f ∈ g.files, f.path = path ∧ f.versions = ts := by
  simp only [versionsOf, Option.map_eq_some_iff, Graph.file?_eq_some_iff, and_assoc]

/-- A run fails in one of its steps. -/
theorem result_run_eq_error_iff : (run finder template entries).result = .error e ↔
    (discover finder entries).result = .error e ∨
    ∃ g, (discover finder entries).result = .ok g ∧ ((arrange g).result = .error e ∨
      ∃ files, (arrange g).result = .ok files ∧ ((unify g files).result = .error e ∨
        ∃ v, reconcile (versionsOf g) files = .ok v ∧
          layout template (contentOf g) v files = .error e)) := by
  rw [result_run, bind_eq_error_iff]
  refine or_congr_right (exists_congr fun g => and_congr_right fun _ => ?_)
  rw [bind_eq_error_iff]
  refine or_congr_right (exists_congr fun files => and_congr_right fun _ => ?_)
  rw [bind_eq_error_iff]
  refine or_congr_right (exists_congr fun v => and_congr result_unify_eq_ok_iff ?_)
  rw [bind_eq_error_iff, or_iff_left]
  rintro ⟨chunks, -, h⟩
  cases h

/-- The resolver fails only where it does not find a file. -/
def Finder.OnlyMisses (finder : Finder) : Prop :=
  ∀ name e, finder.resolver name = .error e →
    ∃ specifier searched, e = .failure (.unresolved specifier searched)

/-- Discovery fails with a failure that is told, or since there are too many labels. -/
theorem told_of_discover (hr : finder.OnlyMisses)
    (h : (discover finder entries).result = .error e) :
    e.Told ∨ e = .tooManyFiles ∧
      ∀ labels, finder.resolver.Within labels → finder.limit < labels.length := by
  have hends := ends_build finder.limit entries (@Session.sound_fresh _ finder.resolver)
  rw [result_discover] at h
  rcases hb : build finder.resolver finder.limit {} entries with ⟨s, w | g⟩
  · rw [hb] at h hends
    obtain rfl : w.toFault = e := Except.error.inj h
    cases w with
    | lookup e =>
      obtain ⟨name, he⟩ := hends.2
      obtain ⟨specifier, searched, rfl⟩ := hr name e he
      exact .inl (.unresolved specifier searched)
    | unparsable file x => exact .inl (.unparsable file _)
    | tooManyFiles => exact .inr ⟨rfl, hends.2⟩
  · rw [hb] at h
    cases h

theorem told_of_arrange (hg : (discover finder entries).result = .ok g)
    (h : (arrange g).result = .error e) : e.Told := by
  obtain ⟨s, hb⟩ := exists_build_of_discover hg
  rcases arrange_cases hb with ⟨-, hrefused⟩ | ⟨-, harranged, -⟩
  · obtain rfl := Except.error.inj (hrefused.symm.trans h)
    exact .cyclic g.labels
  · rw [harranged] at h
    cases h

theorem mem_files_iff (hg : (discover finder entries).result = .ok g)
    (hfiles : (arrange g).result = .ok files) {path : Text} :
    path ∈ files ↔ ∃ f ∈ g.files, f.path = path := by
  obtain ⟨s, hb⟩ := exists_build_of_discover hg
  obtain ⟨-, -, hperm⟩ := exhausted_of_arrange hb hfiles
  rw [hperm.mem_iff, Graph.labels, List.mem_map]

theorem told_of_unify (hg : (discover finder entries).result = .ok g)
    (hfiles : (arrange g).result = .ok files) (h : (unify g files).result = .error e) :
    e.Told ∨ e = .version .longOutput ∧ ∃ before file after, files = before ++ file :: after ∧
      Overlong (versionsOf g) before file := by
  rw [result_unify] at h
  cases hrec : reconcile (versionsOf g) files with
  | ok v =>
    rw [hrec] at h
    cases h
  | error x =>
    rw [hrec] at h
    obtain rfl : x.toFault = e := Except.error.inj h
    rcases reconcile_eq_error hrec with htold | ⟨file, hmem, hnone⟩ | ⟨rfl, hlong⟩
    · exact .inl htold
    · -- the files that are put in order are those of the graph, and their declarations are known
      obtain ⟨f, hf, hpath⟩ := (mem_files_iff hg hfiles).1 hmem
      rw [versionsOf_eq_some_iff.2 ⟨f, hf, hpath, rfl⟩] at hnone
      cases hnone
    · exact .inr ⟨rfl, hlong⟩

theorem unreadable_of_layout {v : Option Constraint}
    (hg : (discover finder entries).result = .ok g) (hfiles : (arrange g).result = .ok files)
    (h : layout Marker.standard (contentOf g) v files = .error e) :
    ∃ f ∈ g.files, ¬ f.Rereadable ∧ ∃ x, e = .source x := by
  rcases bind_eq_error_iff.1 h with h | ⟨body, -, h⟩
  · rcases sections_standard_eq_error h with ⟨path, hmem, hnone⟩ | ⟨path, hmem, source, x, hsource,
      hx, rfl⟩
    · obtain ⟨f, hf, hpath⟩ := (mem_files_iff hg hfiles).1 hmem
      rw [contentOf_eq_some_iff.2 ⟨f, hf, hpath, rfl⟩] at hnone
      cases hnone
    · obtain ⟨f, hf, -, rfl⟩ := contentOf_eq_some_iff.1 hsource
      refine ⟨f, hf, fun hre => ?_, x, rfl⟩
      obtain ⟨body, hbody⟩ := SourceFile.rereadable_iff.1 hre
      rw [hx] at hbody
      cases hbody
  · cases h

theorem rereadable_of_layout {v : Option Constraint} {chunks : List Text}
    (hg : (discover finder entries).result = .ok g) (hfiles : (arrange g).result = .ok files)
    (h : layout template (contentOf g) v files = .ok chunks) {f : SourceFile} (hf : f ∈ g.files) :
    f.Rereadable := by
  obtain ⟨body, hbody, -⟩ := bind_eq_ok_iff.1 h
  obtain ⟨source, text, hsource, htext⟩ :=
    clean_of_sections hbody f.path ((mem_files_iff hg hfiles).2 ⟨f, hf, rfl⟩)
  rw [contentOf_eq_some_iff.2 ⟨f, hf, rfl, rfl⟩] at hsource
  cases hsource
  exact SourceFile.rereadable_iff.2 ⟨text, htext⟩

/-! ### The faults of a run -/

/-- The files are put in order, and at one of them the end of a range cannot be written. -/
def MeetsOverlong (finder : Finder) (entries : List Text) : Prop :=
  ∃ g files, (discover finder entries).result = .ok g ∧ (arrange g).result = .ok files ∧
    ∃ before file after, files = before ++ file :: after ∧ Overlong (versionsOf g) before file

/-- The versions of the files are reconciled, and one of the files cannot be read again. -/
def MeetsUnreadable (finder : Finder) (entries : List Text) : Prop :=
  ∃ g files v, (discover finder entries).result = .ok g ∧ (arrange g).result = .ok files ∧
    reconcile (versionsOf g) files = .ok v ∧ ∃ f ∈ g.files, ¬ f.Rereadable

/-- The faults of a run with the default marker, and what they come from. -/
theorem fault_of_run (hr : finder.OnlyMisses)
    (h : (run finder Marker.standard entries).result = .error e) :
    e.Told ∨
    (e = .tooManyFiles ∧
      ∀ labels, finder.resolver.Within labels → finder.limit < labels.length) ∨
    (e = .version .longOutput ∧ MeetsOverlong finder entries) ∨
    ∃ x, e = .source x ∧ MeetsUnreadable finder entries := by
  rcases result_run_eq_error_iff.1 h with h | ⟨g, hg, h | ⟨files, hfiles, h | ⟨v, hv, h⟩⟩⟩
  · rcases told_of_discover hr h with h | h
    · exact .inl h
    · exact .inr (.inl h)
  · exact .inl (told_of_arrange hg h)
  · rcases told_of_unify hg hfiles h with h | ⟨rfl, hlong⟩
    · exact .inl h
    · exact .inr (.inr (.inl ⟨rfl, g, files, hg, hfiles, hlong⟩))
  · obtain ⟨f, hf, hre, x, rfl⟩ := unreadable_of_layout hg hfiles h
    exact .inr (.inr (.inr ⟨x, rfl, g, files, v, hg, hfiles, hv, f, hf, hre⟩))

/-- A range whose end cannot be written ends a run. -/
theorem run_of_meetsOverlong (h : MeetsOverlong finder entries) :
    (run finder template entries).result = .error (.version .longOutput) := by
  obtain ⟨g, files, hg, hfiles, before, file, after, rfl, hlong⟩ := h
  refine result_run_eq_error_iff.2 (.inr ⟨g, hg, .inr ⟨_, hfiles, .inl ?_⟩⟩)
  rw [result_unify, hlong.reconcile_eq]
  rfl

/-- A file that cannot be read again ends a run. -/
theorem run_of_meetsUnreadable (h : MeetsUnreadable finder entries) :
    ∃ x, (run finder Marker.standard entries).result = .error (.source x) := by
  obtain ⟨g, files, v, hg, hfiles, hv, f, hf, hre⟩ := h
  cases hlayout : layout Marker.standard (contentOf g) v files with
  | ok chunks => exact absurd (rereadable_of_layout hg hfiles hlayout hf) hre
  | error e =>
    obtain ⟨-, -, -, x, rfl⟩ := unreadable_of_layout hg hfiles hlayout
    exact ⟨x, result_run_eq_error_iff.2 (.inr ⟨g, hg, .inr ⟨files, hfiles, .inr ⟨v, hv, hlayout⟩⟩⟩)⟩

/-- The files of a graph that was discovered are fetched. -/
theorem exists_read_of_discover (hg : (discover finder entries).result = .ok g) {f : SourceFile}
    (hf : f ∈ g.files) :
    ∃ name a, finder.resolver name = .ok a ∧ SourceFile.read a = .ok f := by
  obtain ⟨s, hb⟩ := exists_build_of_discover hg
  obtain ⟨name, hfetch⟩ := (recorded_of_build Session.sound_fresh hb).linked.fetched f hf
  exact ⟨name, fetch_eq_ok_iff.1 hfetch⟩

theorem not_meetsOverlong_of_plain
    (hp : ∀ name a f, finder.resolver name = .ok a → SourceFile.read a = .ok f → f.Plain) :
    ¬ MeetsOverlong finder entries := by
  rintro ⟨g, files, hg, -, before, file, after, -, hlong⟩
  obtain ⟨k, p, hk, -, hwritable⟩ := hlong.unwritable
  -- the caret version that leads was declared in a file, and files are fetched
  obtain ⟨-, t, hts, hparse⟩ := mem_declaredIn.1 (Declared.leadingCaret_eq_some hk).1
  obtain ⟨f, hf, -, hversions⟩ := versionsOf_eq_some_iff.1 hts
  obtain ⟨name, a, ha, hread⟩ := exists_read_of_discover hg hf
  have hplain := (hp name a f ha hread).versions t (by simp [hversions]) k.constraint hparse
  rw [hwritable] at hplain
  cases hplain

theorem not_meetsUnreadable_of_plain
    (hp : ∀ name a f, finder.resolver name = .ok a → SourceFile.read a = .ok f → f.Plain) :
    ¬ MeetsUnreadable finder entries := by
  rintro ⟨g, files, v, hg, -, -, f, hf, hre⟩
  obtain ⟨name, a, ha, hread⟩ := exists_read_of_discover hg hf
  exact hre ((hp name a f ha hread).rereadable hread)

/-- With a resolver that fails only where it does not find a file, and with the default marker, a
run ends with a bundle, with a failure that is told, since there are more labels than the limit
allows, or with one of two faults that are not told: the end of a range that cannot be written, and
a source that cannot be read again. Each of the two arises just if the run comes to such a range or
source, and neither does if all files are plain. -/
theorem run_faults (hr : finder.OnlyMisses) (entries : List Text) :
    (∀ e, (run finder Marker.standard entries).result = .error e →
      e.Told ∨ e = .tooManyFiles ∨ e = .version .longOutput ∨ ∃ x, e = .source x) ∧
    ((run finder Marker.standard entries).result = .error .tooManyFiles →
      ∀ labels, finder.resolver.Within labels → finder.limit < labels.length) ∧
    ((run finder Marker.standard entries).result = .error (.version .longOutput) ↔
      MeetsOverlong finder entries) ∧
    ((∃ x, (run finder Marker.standard entries).result = .error (.source x)) ↔
      MeetsUnreadable finder entries) ∧
    ((∀ name a f, finder.resolver name = .ok a → SourceFile.read a = .ok f → f.Plain) →
      ∀ e, (run finder Marker.standard entries).result = .error e →
        e.Told ∨ e = .tooManyFiles) := by
  refine ⟨fun e h => ?_, fun h => ?_, ⟨fun h => ?_, run_of_meetsOverlong⟩,
    ⟨fun ⟨x, h⟩ => ?_, run_of_meetsUnreadable⟩, fun hp e h => ?_⟩
  · rcases fault_of_run hr h with h | ⟨rfl, -⟩ | ⟨rfl, -⟩ | ⟨x, rfl, -⟩
    · exact .inl h
    · exact .inr (.inl rfl)
    · exact .inr (.inr (.inl rfl))
    · exact .inr (.inr (.inr ⟨x, rfl⟩))
  · rcases fault_of_run hr h with h | ⟨-, hlabels⟩ | ⟨h, -⟩ | ⟨x, h, -⟩
    · cases h
    · exact hlabels
    · cases h
    · cases h
  · rcases fault_of_run hr h with h | ⟨h, -⟩ | ⟨-, hlong⟩ | ⟨x, h, -⟩
    · cases h
    · cases h
    · exact hlong
    · cases h
  · rcases fault_of_run hr h with h | ⟨h, -⟩ | ⟨h, -⟩ | ⟨-, -, hmeets⟩
    · cases h
    · cases h
    · cases h
    · exact hmeets
  · rcases fault_of_run hr h with h | ⟨rfl, -⟩ | ⟨-, hlong⟩ | ⟨x, -, hmeets⟩
    · exact .inl h
    · exact .inr rfl
    · exact absurd hlong (not_meetsOverlong_of_plain hp)
    · exact absurd hmeets (not_meetsUnreadable_of_plain hp)

end

/-! ### A literal that is broken later -/

/-- A file `a` with a carriage return in a literal, and no other file. -/
def brokenLiteral : Finder where
  resolver name :=
    if name = ['a'] then .ok ⟨"x = \"a\rb\";\n".toList, ['a']⟩
    else .error (.failure (.unresolved name []))
  limit := 1

/-- The graph of the file. -/
def brokenGraph : Graph := Graph.empty.addFile ⟨['a'], "x = \"a\rb\";\n".toList, [], []⟩

theorem discover_brokenLiteral : (discover brokenLiteral [['a']]).result = .ok brokenGraph := by
  have ha : load brokenLiteral.resolver {} ['a'] = ((load brokenLiteral.resolver {} ['a']).1,
      .ok ⟨['a'], "x = \"a\rb\";\n".toList, [], []⟩) := Prod.ext rfl (by decide +kernel)
  have hbuild : ∃ s, build brokenLiteral.resolver 1 {} [['a']] = (s, .ok brokenGraph) :=
    ⟨_, (buildFrom_of_new ha (by decide) (by decide) (by
      rw [walk_exhausted, walk_nil]
      rfl)).trans rfl⟩
  obtain ⟨s, hs⟩ := hbuild
  have hlimit : brokenLiteral.limit = 1 := rfl
  rw [result_discover, hlimit, hs]
  rfl

theorem onlyMisses_brokenLiteral : brokenLiteral.OnlyMisses := by
  intro name e he
  by_cases hname : name = ['a']
  · subst hname
    cases he
  · have hmissing : brokenLiteral.resolver name = .error (.failure (.unresolved name [])) :=
      if_neg hname
    obtain rfl := Except.error.inj (hmissing.symm.trans he)
    exact ⟨name, [], rfl⟩

/-- The run comes to the file with the literal. -/
theorem run_faults_brokenLiteral :
    brokenLiteral.OnlyMisses ∧ MeetsUnreadable brokenLiteral [['a']] ∧
      ∃ x, (run brokenLiteral Marker.standard [['a']]).result = .error (.source x) := by
  have hmeets : MeetsUnreadable brokenLiteral [['a']] := by
    refine ⟨brokenGraph, [['a']], none, discover_brokenLiteral, by decide +kernel,
      by decide +kernel, ⟨['a'], "x = \"a\rb\";\n".toList, [], []⟩, by decide, ?_⟩
    rintro ⟨ds, hds⟩
    have hopen : (Directive.findAll (Text.unifyNewlines "x = \"a\rb\";\n".toList)).isOk =
        false := by
      decide +kernel
    rw [hds] at hopen
    cases hopen
  exact ⟨onlyMisses_brokenLiteral, hmeets,
    (run_faults onlyMisses_brokenLiteral [['a']]).2.2.2.1.2 hmeets⟩

/-- The file is found and put in order, and the run ends with a fault that is not told: the literal
is open when the line breaks have been unified. -/
theorem run_brokenLiteral :
    brokenLiteral.OnlyMisses ∧ (sortedFiles brokenLiteral [['a']]).result = .ok [['a']] ∧
      ∃ e, (run brokenLiteral Marker.standard [['a']]).result = .error e ∧
        e = .source ⟨"Unterminated string literal".toList, some 1⟩ ∧ ¬ e.Told := by
  have harrange : (arrange brokenGraph).result = .ok [['a']] := by decide +kernel
  have hlayout : layout Marker.standard (contentOf brokenGraph) none [['a']] =
      .error (.source ⟨"Unterminated string literal".toList, some 1⟩) := by decide +kernel
  refine ⟨onlyMisses_brokenLiteral,
    Logged.result_bind_eq_ok_iff.2 ⟨_, discover_brokenLiteral, harrange⟩, _,
    result_run_eq_error_iff.2 (.inr ⟨_, discover_brokenLiteral, .inr ⟨_, harrange,
      .inr ⟨none, by decide +kernel, hlayout⟩⟩⟩), rfl, ?_⟩
  rintro ⟨⟩

end Bundle

end Flattener
