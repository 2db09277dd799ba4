import Flattener.Proofs.Neighbours
import Mathlib.Data.List.DropRight

/-!
# Joined paths and the targets of relative imports

Paths are joined as texts (`Path.joinText`), and the directory part of a path is again a text
(`Path.directoryText`). Reading turns the one into joining the paths (`Path.ofText_joinText`) and
the other into the directory part (`Path.ofText_directoryText`), so nothing that is said here hangs
on how many slashes a path is written with.

The text of a path in normal form is known by its shape (`Path.IsNormal`): climbing comes first and
only in a relative path, and then come names. Normalising a text changes nothing just if it has
that shape (`Path.isNormal_iff`).

Segments that cancel each other do so wherever the path is continued from
(`Path.collapse_join_collapse`). So the target of a relative import, which is normalised before
anybody knows the directory that it will be looked up in, leads from every directory to the place
that the import describes.

* `Specifier.target_eq_normalize`: a target is the normal form of the directory of the importing
  file, joined with the specifier.
* `Specifier.normalize_join_target`: where a target leads.
-/

namespace Flattener

/-! ### Joining texts -/

/-- The anchor of a text is settled by its first part, if that has more than slashes or what follows
starts with none. -/
theorem Anchor.ofText_append {a b : Text} (hne : a ≠ [])
    (h : (∃ c ∈ a, c ≠ '/') ∨ b.head? ≠ some '/') : Anchor.ofText (a ++ b) = Anchor.ofText a := by
  obtain ⟨c, a, rfl⟩ := List.exists_cons_of_ne_nil hne
  by_cases hc : c = '/'
  · subst hc
    cases a with
    | nil =>
      cases b with
      | nil => rfl
      | cons x b =>
        have hx : x ≠ '/' := by simpa using h
        simp [Anchor.ofText, hx]
    | cons d a =>
      by_cases hd : d = '/'
      · subst hd
        cases a with
        | nil =>
          cases b with
          | nil => rfl
          | cons x b =>
            have hx : x ≠ '/' := by simpa using h
            simp [Anchor.ofText, hx]
        | cons e a =>
          by_cases he : e = '/'
          · subst he
            rfl
          · simp [Anchor.ofText, he]
      · simp [Anchor.ofText, hd]
  · simp [Anchor.ofText, hc]

namespace Path

/-- The text `b` taken from the directory `a`: a text that starts with a slash stands for itself,
and a slash is put between the two unless nothing or a slash stands before it. -/
def joinText (a b : Text) : Text :=
  if b.head? = some '/' then b
  else if a = [] ∨ a.getLast? = some '/' then a ++ b
  else a ++ '/' :: b

/-- The text of the directory part of a path: all up to the last slash, without slashes at its end
unless there is nothing else in it. -/
def directoryText (t : Text) : Text :=
  if (t.rdropWhile (· ≠ '/')).rdropWhile (· = '/') = [] then t.rdropWhile (· ≠ '/')
  else (t.rdropWhile (· ≠ '/')).rdropWhile (· = '/')

/-- A path is absolute just if its text starts with a slash. -/
theorem isAbsolute_ofText (t : Text) : (ofText t).isAbsolute = true ↔ t.head? = some '/' := by
  simp only [isAbsolute, ofText, List.head?_eq_some_iff]
  unfold Anchor.ofText
  split <;> simp_all

theorem ext {p q : Path} (ha : p.anchor = q.anchor) (hs : p.segments = q.segments) : p = q := by
  cases p
  cases q
  simp_all

theorem join_eq_of_isAbsolute (p : Path) {q : Path} (h : q.isAbsolute = true) : p.join q = q :=
  if_pos h

theorem join_eq_of_relative (p : Path) {q : Path} (h : q.isAbsolute = false) :
    p.join q = ⟨p.anchor, p.segments ++ q.segments⟩ :=
  if_neg (by simp [h])

/-- Joining texts joins the paths that they are read as. -/
theorem ofText_joinText (a b : Text) : ofText (joinText a b) = (ofText a).join (ofText b) := by
  unfold joinText
  split
  · rename_i hb
    rw [join_eq_of_isAbsolute _ ((isAbsolute_ofText b).2 hb)]
  · rename_i hb
    have hrel : (ofText b).isAbsolute = false := by
      simpa using mt (isAbsolute_ofText b).1 hb
    rw [join_eq_of_relative _ hrel]
    split
    · rename_i ha
      rcases List.eq_nil_or_concat' a with rfl | ⟨init, last, rfl⟩
      · exact ext (anchor_of_isAbsolute hrel) rfl
      · obtain rfl : last = '/' := by simpa using ha
        refine ext (Anchor.ofText_append (by simp) (.inr hb)) ?_
        rw [List.append_assoc, List.singleton_append, segments_append_slash, segments_append_slash]
        exact congrArg (· ++ _) (List.append_nil _).symm
    · rename_i ha
      obtain ⟨hne, hlast⟩ := not_or.1 ha
      refine ext (Anchor.ofText_append hne (.inl ⟨a.getLast hne, List.getLast_mem hne, ?_⟩)) ?_
      · exact fun heq => hlast (by rw [List.getLast?_eq_getLast_of_ne_nil hne, heq])
      · exact segments_append_slash a b

/-- Slashes at the end of a text that has more than slashes are not read. -/
theorem ofText_rdropWhile_slash {t : Text} (h : t.rdropWhile (· = '/') ≠ []) :
    ofText (t.rdropWhile (· = '/')) = ofText t := by
  induction t using List.reverseRecOn with
  | nil => rfl
  | append_singleton t c ih =>
    by_cases hc : c = '/'
    · subst hc
      rw [List.rdropWhile_concat_pos _ _ _ (by simp)] at h ⊢
      have hmore : ∃ c ∈ t, c ≠ '/' := by
        by_contra hno
        push Not at hno
        exact h (List.rdropWhile_eq_nil_iff.2 fun x hx => by simpa using hno x hx)
      have hne : t ≠ [] := fun hnil => by simp [hnil] at hmore
      rw [ih h]
      refine ext (Anchor.ofText_append hne (.inl hmore)).symm ?_
      exact ((segments_append_slash t []).trans (List.append_nil _)).symm
    · rw [List.rdropWhile_concat_neg _ _ _ (by simpa using hc)]

/-- The directory part as a text is read as the directory part. -/
theorem ofText_directoryText (t : Text) : ofText (directoryText t) = directory t := by
  unfold directoryText
  split
  · rfl
  · rename_i h
    exact ofText_rdropWhile_slash h

theorem mem_joinText {a b : Text} {c : Char} (h : c ∈ joinText a b) : c ∈ a ∨ c ∈ b ∨ c = '/' := by
  unfold joinText at h
  split at h
  · exact .inr (.inl h)
  · split at h
    · exact (List.mem_append.1 h).imp_right .inl
    · simpa [or_comm, or_left_comm] using h

theorem directoryText_subset (t : Text) : directoryText t ⊆ t := by
  have hupTo := (List.rdropWhile_prefix (fun c => decide (c ≠ '/')) t).subset
  unfold directoryText
  split
  · exact hupTo
  · exact fun c hc => hupTo ((List.rdropWhile_prefix _ _).subset hc)

/-! ### Collapsing joined paths -/

theorem join_assoc (p q r : Path) : (p.join q).join r = p.join (q.join r) := by
  cases hr : r.isAbsolute with
  | true => rw [join_eq_of_isAbsolute _ hr, join_eq_of_isAbsolute _ hr,
      join_eq_of_isAbsolute _ hr]
  | false =>
    cases hq : q.isAbsolute with
    | true =>
      have hqr : (q.join r).isAbsolute = true := by
        rw [join_eq_of_relative _ hr]
        exact hq
      rw [join_eq_of_isAbsolute p hq, join_eq_of_isAbsolute p hqr]
    | false =>
      have hqr : (q.join r).isAbsolute = false := by
        rw [join_eq_of_relative _ hr]
        exact hq
      rw [join_eq_of_relative _ hr, join_eq_of_relative _ hq, join_eq_of_relative p hqr,
        join_eq_of_relative q hr, List.append_assoc]

/-- What is collapsed already cancels the same segments before it. -/
theorem collapseSegments_append_collapse (absolute : Bool) (a b : List Text) :
    collapseSegments absolute (a ++ collapseSegments false b) =
      collapseSegments absolute (a ++ b) := by
  induction b using List.reverseRecOn with
  | nil => rfl
  | append_singleton b s ih =>
    rw [← List.append_assoc]
    by_cases hs : s = up
    · subst hs
      obtain ⟨k, names, hc, hup, -⟩ := collapse_relative b
      rcases List.eq_nil_or_concat' names with rfl | ⟨names, n, rfl⟩
      · -- nothing is left to cancel, so the step stays
        rw [List.append_nil] at hc
        rw [collapseSegments_concat_climb hc, List.replicate_succ', ← List.append_assoc, ← hc,
          collapseSegments_concat, ih, ← collapseSegments_concat]
      · have hn : n ≠ up := fun hn => hup (by simp [hn])
        rw [← List.append_assoc] at hc
        rw [collapseSegments_concat_up false hn hc]
        rw [hc, ← List.append_assoc, collapseSegments_concat_name absolute _ hn] at ih
        exact (collapseSegments_concat_up absolute hn ih.symm).symm
    · rw [collapseSegments_concat_name false b hs, ← List.append_assoc,
        collapseSegments_concat_name absolute _ hs, collapseSegments_concat_name absolute _ hs, ih]

theorem up_notMem_collapse (segments : List Text) : up ∉ collapseSegments true segments := by
  rw [collapseSegments_true]
  exact up_notMem_land List.not_mem_nil segments

theorem collapse_idem (p : Path) : p.collapse.collapse = p.collapse := by
  refine ext rfl ?_
  change collapseSegments p.isAbsolute (collapseSegments p.isAbsolute p.segments) = _
  cases h : p.isAbsolute with
  | false => rw [collapse_collapse, collapse, h]
  | true =>
    rw [collapseSegments_true, land_names [] (up_notMem_collapse _), List.nil_append, collapse, h]

/-- A path may be collapsed before it is taken from a directory. -/
theorem collapse_join_collapse (p q : Path) :
    (p.join q.collapse).collapse = (p.join q).collapse := by
  cases h : q.isAbsolute with
  | true =>
    rw [join_eq_of_isAbsolute p h, join_eq_of_isAbsolute p (q := q.collapse) h, collapse_idem]
  | false =>
    rw [join_eq_of_relative p h, join_eq_of_relative p (q := q.collapse) h]
    refine ext rfl ?_
    change collapseSegments p.isAbsolute (p.segments ++ collapseSegments q.isAbsolute q.segments) =
      collapseSegments p.isAbsolute (p.segments ++ q.segments)
    rw [h, collapseSegments_append_collapse]

/-! ### Normal forms -/

/-- A text in normal form: after the slashes of its anchor come climbing steps, none if the path is
absolute, and then names, with one slash between neighbours. The path that stays where it is is
written as a point. -/
def IsNormal (t : Text) : Prop :=
  ∃ (a : Anchor) (k : Nat) (names : List Text), (a ≠ .relative → k = 0) ∧
    (∀ s ∈ names, IsSegment s ∧ s ≠ up) ∧ t = (Path.mk a (List.replicate k up ++ names)).toText

theorem isSegment_up : IsSegment up := by
  unfold IsSegment
  decide

theorem isSegment_of_climb {k : Nat} {names : List Text} (h : ∀ s ∈ names, IsSegment s) :
    ∀ s ∈ List.replicate k up ++ names, IsSegment s := by
  intro s hs
  rcases List.mem_append.1 hs with hs | hs
  · exact List.eq_of_mem_replicate hs ▸ isSegment_up
  · exact h s hs

/-- The normal form of a text is read as the collapsed path. -/
theorem ofText_normalize_eq (t : Text) : ofText (normalize t) = (ofText t).collapse :=
  ofText_toText fun _ hs => isSegment_of_mem_collapse hs

theorem normalize_idem (t : Text) : normalize (normalize t) = normalize t := by
  rw [normalize, ofText_normalize_eq, collapse_idem, ← normalize]

/-- Normalising changes nothing just if the text has the shape of a normal form. -/
theorem isNormal_iff {t : Text} : IsNormal t ↔ normalize t = t := by
  constructor
  · rintro ⟨a, k, names, hk, hnames, rfl⟩
    have hup : up ∉ names := fun h => (hnames up h).2 rfl
    have hcollapse : collapseSegments (Path.mk a (List.replicate k up ++ names)).isAbsolute
        (List.replicate k up ++ names) = List.replicate k up ++ names := by
      cases ha : (Path.mk a (List.replicate k up ++ names)).isAbsolute with
      | false => exact collapse_eq_self_iff.2 ⟨k, names, rfl, hup⟩
      | true =>
        obtain rfl : k = 0 := hk (by simpa [isAbsolute] using ha)
        rw [List.replicate_zero, List.nil_append, collapseSegments_true, land_names [] hup,
          List.nil_append]
    rw [normalize, ofText_toText (isSegment_of_climb fun s hs => (hnames s hs).1), collapse,
      hcollapse]
  · intro h
    have hsegments : ∀ s ∈ (ofText t).collapse.segments, IsSegment s :=
      fun s hs => isSegment_of_mem_collapse hs
    cases ha : (ofText t).isAbsolute with
    | false =>
      obtain ⟨k, names, hc, hup, -⟩ := collapse_relative (ofText t).segments
      have hcollapse : (ofText t).collapse = ⟨.relative, List.replicate k up ++ names⟩ :=
        ext (anchor_of_isAbsolute ha) (by rw [collapse, ha, hc])
      refine ⟨.relative, k, names, fun hne => absurd rfl hne, fun s hs => ⟨?_, ?_⟩, ?_⟩
      · exact hsegments s (by rw [hcollapse]; exact List.mem_append_right _ hs)
      · exact fun heq => hup (heq ▸ hs)
      · rw [← hcollapse, ← normalize, h]
    | true =>
      refine ⟨(ofText t).anchor, 0, (ofText t).collapse.segments, fun _ => rfl,
        fun s hs => ⟨hsegments s hs, ?_⟩, ?_⟩
      · rintro rfl
        rw [collapse, ha] at hs
        exact up_notMem_collapse _ hs
      · rw [List.replicate_zero, List.nil_append]
        exact h.symm

theorem mem_of_mem_normalize {t : Text} {c : Char} (h : c ∈ normalize t) :
    c = '/' ∨ c = '.' ∨ c ∈ t := by
  rcases mem_toText h with h | h | ⟨s, hs, h⟩
  · exact .inl h
  · exact .inr (.inl h)
  · exact .inr (.inr (mem_of_mem_segments (collapseSegments_subset _ _ hs) h))

end Path

/-! ### Targets of relative imports -/

namespace Specifier

/-- The target of a relative import is the normal form of the directory of the importing file,
joined with the specifier. -/
theorem target_eq_normalize (dependent : Text) {specifier : Text} (h : isRelative specifier) :
    target dependent specifier = Path.normalize (Path.joinText
      (Path.directoryText (Path.slashed dependent)) (Path.slashed specifier)) := by
  unfold target
  rw [if_pos h, Path.normalize, Path.ofText_joinText, Path.ofText_directoryText]

/-- The target of a relative import is in normal form. From every directory it leads to the place
that the specifier leads to from the directory of the importing file. -/
theorem normalize_join_target (dependent : Text) {specifier : Text} (h : isRelative specifier) :
    '\\' ∉ target dependent specifier ∧
      Path.normalize (target dependent specifier) = target dependent specifier ∧
      Path.IsNormal (target dependent specifier) ∧
      ∀ dir, Path.normalize (Path.joinText dir (target dependent specifier)) =
        Path.normalize (Path.joinText
          (Path.joinText dir (Path.directoryText (Path.slashed dependent)))
          (Path.slashed specifier)) := by
  rw [target_eq_normalize dependent h]
  refine ⟨fun hb => ?_, Path.normalize_idem _, Path.isNormal_iff.2 (Path.normalize_idem _),
    fun dir => ?_⟩
  · rcases Path.mem_of_mem_normalize hb with hb | hb | hb
    · cases hb
    · cases hb
    · rcases Path.mem_joinText hb with hb | hb | hb
      · exact Path.backslash_notMem_slashed _ (Path.directoryText_subset _ hb)
      · exact Path.backslash_notMem_slashed _ hb
      · cases hb
  · rw [Path.normalize, Path.ofText_joinText, Path.ofText_normalize_eq,
      Path.collapse_join_collapse, Path.ofText_joinText, ← Path.join_assoc,
      ← Path.ofText_joinText dir, ← Path.ofText_joinText, ← Path.normalize]

/-- An import in `a/b.sol` that climbs above the directory that it will be looked up in. -/
theorem normalize_join_target_climbing :
    isRelative "..\\.\\../../c.sol".toList ∧
      target "a\\b.sol".toList "..\\.\\../../c.sol".toList = "../../c.sol".toList ∧
      Path.IsNormal "../../c.sol".toList ∧
      Path.normalize (Path.joinText "//r/s/".toList "../../c.sol".toList) =
        Path.normalize (Path.joinText (Path.joinText "//r/s/".toList "a".toList)
          ".././../../c.sol".toList) := by
  have hrel : isRelative "..\\.\\../../c.sol".toList := by decide
  obtain ⟨-, -, hnormal, hjoin⟩ := normalize_join_target "a\\b.sol".toList hrel
  have htarget : target "a\\b.sol".toList "..\\.\\../../c.sol".toList = "../../c.sol".toList := by
    decide
  exact ⟨hrel, htarget, htarget ▸ hnormal, htarget ▸ hjoin "//r/s/".toList⟩

end Specifier

end Flattener
