import Flattener.Path.Entry
import Flattener.Path.Specifier
import Flattener.Proofs.Reread
import Mathlib.Data.List.Basic
import Mathlib.Data.List.Induction
import Mathlib.Logic.Function.Iterate

/-!
# Normal forms of paths

Paths are read from text and written to text; both directions fit together for segments that a
text can hold (`Path.IsSegment`). Segments can be followed without looking at any file: from a
place, each `..` leads one place up and each other segment one down (`Path.land`). Collapsing the
segments of a path does not change where they lead, from wherever one starts.

* `Path.ofText_toText`: what is written is read back.
* `Path.dropPrefix?_toText`: a text starts with a directory and a slash just if its segments start
  with those of the directory.
* `Path.collapse_relative`: a collapsed relative path climbs first and descends then.
* `Path.land_collapse`: collapsing keeps the place that is led to.
-/

namespace Flattener

namespace Path

/-! ### Segments and text -/

/-- A text that can stand between two slashes and says something. -/
def IsSegment (s : Text) : Prop := meaningful s ∧ '/' ∉ s

theorem IsSegment.ne_nil {s : Text} (h : IsSegment s) : s ≠ [] := by
  rintro rfl
  exact absurd h.1 (by decide)

theorem IsSegment.ne_here {s : Text} (h : IsSegment s) : s ≠ here := by
  rintro rfl
  exact absurd h.1 (by decide)

theorem segments_ofText (t : Text) : (ofText t).segments = (t.splitOn '/').filter meaningful := rfl

/-- A slash divides the segments. -/
theorem segments_append_slash (a b : Text) :
    (ofText (a ++ '/' :: b)).segments = (ofText a).segments ++ (ofText b).segments := by
  rw [segments_ofText, segments_ofText, segments_ofText, List.splitOn, List.splitOn, List.splitOn,
    List.splitOnP_append_cons a b (by simp), List.filter_append]

theorem IsSegment.segments {s : Text} (h : IsSegment s) : (ofText s).segments = [s] := by
  rw [segments_ofText, List.splitOn_eq_singleton h.2, List.filter_cons_of_pos h.1, List.filter_nil]

theorem isSegment_of_mem {t s : Text} (h : s ∈ (ofText t).segments) : IsSegment s := by
  rw [segments_ofText, List.mem_filter] at h
  refine ⟨h.2, fun hs => ?_⟩
  have := Text.eq_false_of_mem_splitOnP h.1 hs
  simp at this

theorem segments_intercalate {segments : List Text} (h : ∀ s ∈ segments, IsSegment s) :
    (ofText (['/'].intercalate segments)).segments = segments := by
  induction segments with
  | nil => rfl
  | cons s segments ih =>
    have hs := h s List.mem_cons_self
    cases segments with
    | nil => simpa using hs.segments
    | cons u us =>
      rw [List.intercalate_cons_cons, List.append_assoc, List.singleton_append,
        segments_append_slash, hs.segments, ih fun x hx => h x (List.mem_cons_of_mem s hx)]
      rfl

theorem head?_intercalate_ne {segments : List Text} (h : ∀ s ∈ segments, IsSegment s) :
    (['/'].intercalate segments).head? ≠ some '/' := by
  cases segments with
  | nil => simp
  | cons s segments =>
    have hs := h s List.mem_cons_self
    obtain ⟨c, s', rfl⟩ := List.exists_cons_of_ne_nil hs.ne_nil
    have hc : c ≠ '/' := fun hc => hs.2 (hc ▸ List.mem_cons_self)
    cases segments with
    | nil => simpa using hc
    | cons u us => simpa [List.intercalate_cons_cons] using hc

theorem intercalate_ne_nil {segments : List Text} (h : ∀ s ∈ segments, IsSegment s)
    (hne : segments ≠ []) : ['/'].intercalate segments ≠ [] := by
  intro hnil
  have hseg := segments_intercalate h
  rw [hnil] at hseg
  exact hne hseg.symm

end Path

/-- An anchor is read off the slashes that it writes. -/
theorem Anchor.ofText_text_append (a : Anchor) {t : Text} (h : t.head? ≠ some '/') :
    Anchor.ofText (a.text ++ t) = a := by
  cases t with
  | nil => cases a <;> rfl
  | cons c t =>
    have hc : c ≠ '/' := fun hc => h (by rw [hc]; rfl)
    cases a <;> simp [Anchor.text, Anchor.ofText, hc]

namespace Path

theorem segments_text_append (a : Anchor) (t : Text) :
    (ofText (a.text ++ t)).segments = (ofText t).segments := by
  cases a with
  | relative => rfl
  | root => exact segments_append_slash [] t
  | doubleRoot => exact (segments_append_slash [] ('/' :: t)).trans (segments_append_slash [] t)

theorem toText_eq {p : Path} (h : p.anchor.text ++ ['/'].intercalate p.segments ≠ []) :
    p.toText = p.anchor.text ++ ['/'].intercalate p.segments := by
  unfold toText
  split
  · contradiction
  · rfl

/-- What is written is read back. -/
theorem ofText_toText {p : Path} (h : ∀ s ∈ p.segments, IsSegment s) : ofText p.toText = p := by
  obtain ⟨a, segments⟩ := p
  by_cases hne : a.text ++ ['/'].intercalate segments = []
  · obtain ⟨ha, hs⟩ := List.append_eq_nil_iff.1 hne
    obtain rfl : segments = [] := by_contra fun hn => intercalate_ne_nil h hn hs
    cases a with
    | relative => rfl
    | root => cases ha
    | doubleRoot => cases ha
  · rw [toText_eq hne]
    have hanchor := a.ofText_text_append (head?_intercalate_ne h)
    have hsegments := (segments_text_append a (['/'].intercalate segments)).trans
      (segments_intercalate h)
    calc ofText (a.text ++ ['/'].intercalate segments)
        = ⟨Anchor.ofText (a.text ++ ['/'].intercalate segments),
            (ofText (a.text ++ ['/'].intercalate segments)).segments⟩ := rfl
      _ = ⟨a, segments⟩ := by rw [hanchor, hsegments]

/-! ### Following segments -/

/-- The place that segments lead to from another one, as far as their names tell. -/
def land (place segments : List Text) : List Text :=
  segments.foldl (fun p s => if s = up then p.dropLast else p ++ [s]) place

theorem land_nil (place : List Text) : land place [] = place := rfl

theorem land_append (place a b : List Text) : land place (a ++ b) = land (land place a) b :=
  List.foldl_append

theorem land_cons_up (place segments : List Text) :
    land place (up :: segments) = land place.dropLast segments := rfl

theorem land_concat_up (place segments : List Text) :
    land place (segments ++ [up]) = (land place segments).dropLast :=
  land_append place segments [up]

theorem land_concat {s : Text} (hs : s ≠ up) (place segments : List Text) :
    land place (segments ++ [s]) = land place segments ++ [s] := by
  rw [land_append]
  exact if_neg hs

/-- Names only lead down. -/
theorem land_names (place : List Text) {names : List Text} (h : up ∉ names) :
    land place names = place ++ names := by
  induction names generalizing place with
  | nil => simp [land_nil]
  | cons s names ih =>
    have hs : s ≠ up := fun hs => h (hs ▸ List.mem_cons_self)
    have hland : land place (s :: names) = land (place ++ [s]) names := by
      rw [land, List.foldl_cons, if_neg hs]
      rfl
    rw [hland, ih _ fun hm => h (List.mem_cons_of_mem s hm), List.append_assoc,
      List.singleton_append]

/-- Climbing leads up. -/
theorem land_replicate_up (place : List Text) (k : Nat) :
    land place (List.replicate k up) = List.dropLast^[k] place := by
  induction k generalizing place with
  | zero => rfl
  | succ k ih => rw [List.replicate_succ, land_cons_up, ih, Function.iterate_succ_apply]

theorem up_notMem_land {place : List Text} (h : up ∉ place) (segments : List Text) :
    up ∉ land place segments := by
  induction segments using List.reverseRecOn with
  | nil => exact h
  | append_singleton segments s ih =>
    by_cases hs : s = up
    · rw [hs, land_concat_up]
      exact fun hm => ih (List.dropLast_subset _ hm)
    · rw [land_concat hs]
      exact fun hm => (List.mem_append.1 hm).elim ih fun hm => hs (List.mem_singleton.1 hm).symm

theorem collapseSegments_concat (absolute : Bool) (segments : List Text) (s : Text) :
    collapseSegments absolute (segments ++ [s]) =
      (pushSegment absolute (collapseSegments absolute segments).reverse s).reverse := by
  simp [collapseSegments, List.foldl_append]

theorem collapseSegments_concat_name (absolute : Bool) (segments : List Text) {s : Text}
    (hs : s ≠ up) :
    collapseSegments absolute (segments ++ [s]) = collapseSegments absolute segments ++ [s] := by
  simp [collapseSegments_concat, pushSegment, hs]

/-- A `..` cancels the name before it. -/
theorem collapseSegments_concat_up (absolute : Bool) {segments names : List Text} {s : Text}
    (hs : s ≠ up) (h : collapseSegments absolute segments = names ++ [s]) :
    collapseSegments absolute (segments ++ [up]) = names := by
  simp [collapseSegments_concat, pushSegment, h, hs]

/-- A `..` after nothing but `..` stays. -/
theorem collapseSegments_concat_climb {segments : List Text} {k : Nat}
    (h : collapseSegments false segments = List.replicate k up) :
    collapseSegments false (segments ++ [up]) = List.replicate (k + 1) up := by
  rw [collapseSegments_concat, h, List.reverse_replicate]
  cases k with
  | zero => rfl
  | succ k =>
    have hpush : pushSegment false (List.replicate (k + 1) up) up = List.replicate (k + 2) up := by
      simp [pushSegment, List.replicate_succ]
    rw [hpush, List.reverse_replicate]

/-- Names after a path stay. -/
theorem collapseSegments_append_names (absolute : Bool) (segments : List Text) {names : List Text}
    (h : up ∉ names) :
    collapseSegments absolute (segments ++ names) =
      collapseSegments absolute segments ++ names := by
  induction names using List.reverseRecOn with
  | nil => rw [List.append_nil, List.append_nil]
  | append_singleton names s ih =>
    have hs : s ≠ up := fun hs => h (by simp [hs])
    rw [← List.append_assoc, collapseSegments_concat_name absolute _ hs,
      ih fun hm => h (List.mem_append_left _ hm), List.append_assoc]

/-- A collapsed absolute path is the place that it leads to from the root. -/
theorem collapseSegments_true (segments : List Text) :
    collapseSegments true segments = land [] segments := by
  induction segments using List.reverseRecOn with
  | nil => rfl
  | append_singleton segments s ih =>
    by_cases hs : s = up
    · subst hs
      rw [land_concat_up, ← ih]
      rcases List.eq_nil_or_concat' (collapseSegments true segments) with hnil | ⟨names, n, hn⟩
      · simp [collapseSegments_concat, pushSegment, hnil]
      · have hup : n ≠ up := by
          rintro rfl
          exact up_notMem_land List.not_mem_nil segments (ih ▸ hn ▸ by simp)
        rw [collapseSegments_concat_up true hup hn, hn, List.dropLast_concat]
    · rw [collapseSegments_concat_name true segments hs, land_concat hs, ih]

/-- A collapsed relative path climbs first and descends then; it leads from any place to where the
path itself leads. -/
theorem collapse_relative (segments : List Text) : ∃ k names,
    collapseSegments false segments = List.replicate k up ++ names ∧ up ∉ names ∧
      ∀ place, land place segments = List.dropLast^[k] place ++ names := by
  induction segments using List.reverseRecOn with
  | nil => exact ⟨0, [], rfl, List.not_mem_nil, fun place => by simp [land_nil]⟩
  | append_singleton segments s ih =>
    obtain ⟨k, names, hc, hup, hland⟩ := ih
    by_cases hs : s = up
    · subst hs
      rcases List.eq_nil_or_concat' names with rfl | ⟨names, n, rfl⟩
      · -- nothing is left to cancel
        refine ⟨k + 1, [], ?_, List.not_mem_nil, fun place => ?_⟩
        · rw [List.append_nil, collapseSegments_concat_climb (hc.trans (List.append_nil _))]
        · rw [land_concat_up, hland, List.append_nil, List.append_nil,
            Function.iterate_succ_apply']
      · have hn : n ≠ up := fun hn => hup (by simp [hn])
        refine ⟨k, names, ?_, fun hm => hup (List.mem_append_left _ hm), fun place => ?_⟩
        · exact collapseSegments_concat_up false hn (by rw [hc, List.append_assoc])
        · rw [land_concat_up, hland, ← List.append_assoc, List.dropLast_concat]
    · refine ⟨k, names ++ [s], ?_, ?_, fun place => ?_⟩
      · rw [collapseSegments_concat_name false segments hs, hc, List.append_assoc]
      · exact fun hm => (List.mem_append.1 hm).elim hup fun hm => hs (List.mem_singleton.1 hm).symm
      · rw [land_concat hs, hland, List.append_assoc]

/-- Collapsing keeps the place that is led to. -/
theorem land_collapse (place segments : List Text) :
    land place (collapseSegments false segments) = land place segments := by
  obtain ⟨k, names, hc, hup, hland⟩ := collapse_relative segments
  rw [hc, land_append, land_replicate_up, land_names _ hup, hland]

theorem collapseSegments_replicate_up (k : Nat) :
    collapseSegments false (List.replicate k up) = List.replicate k up := by
  induction k with
  | zero => rfl
  | succ k ih =>
    nth_rewrite 1 [List.replicate_succ']
    exact collapseSegments_concat_climb ih

/-- Collapsing twice is collapsing once. -/
theorem collapse_collapse (segments : List Text) :
    collapseSegments false (collapseSegments false segments) = collapseSegments false segments := by
  obtain ⟨k, names, hc, hup, -⟩ := collapse_relative segments
  rw [hc, collapseSegments_append_names false _ hup, collapseSegments_replicate_up]

/-- What is collapsed climbs first and descends then. -/
theorem collapse_eq_self_iff {segments : List Text} :
    collapseSegments false segments = segments ↔
      ∃ k names, segments = List.replicate k up ++ names ∧ up ∉ names := by
  constructor
  · intro h
    obtain ⟨k, names, hc, hup, -⟩ := collapse_relative segments
    exact ⟨k, names, h.symm.trans hc, hup⟩
  · rintro ⟨k, names, rfl, hup⟩
    rw [collapseSegments_append_names false _ hup, collapseSegments_replicate_up]

theorem collapse_eq_self_of_suffix {segments below : List Text}
    (h : collapseSegments false segments = segments) (hb : below <:+ segments) :
    collapseSegments false below = below := by
  obtain ⟨k, names, rfl, hup⟩ := collapse_eq_self_iff.1 h
  obtain ⟨j, rfl⟩ : ∃ j, below = (List.replicate k up ++ names).drop j :=
    ⟨_, List.suffix_iff_eq_drop.1 hb⟩
  refine collapse_eq_self_iff.2 ⟨k - j, names.drop (j - k), ?_, fun hm => ?_⟩
  · rw [List.drop_append, List.drop_replicate, List.length_replicate]
  · exact hup (List.mem_of_mem_drop hm)

/-- Collapsing brings no new segments. -/
theorem collapseSegments_subset (absolute : Bool) (segments : List Text) :
    collapseSegments absolute segments ⊆ segments := by
  induction segments using List.reverseRecOn with
  | nil => exact List.Subset.refl _
  | append_singleton segments s ih =>
    have hpush : ∀ done, pushSegment absolute done s ⊆ s :: done := by
      intro done x hx
      unfold pushSegment at hx
      split at hx
      · rename_i hs
        split at hx
        · split at hx
          · cases hx
          · simpa [hs] using hx
        · split at hx <;> simp_all
      · exact hx
    intro x hx
    rw [collapseSegments_concat, List.mem_reverse] at hx
    rcases List.mem_cons.1 (hpush _ hx) with rfl | hx
    · simp
    · exact List.mem_append_left _ (ih (List.mem_reverse.1 hx))

/-- The place that is led to from the root has no new names. -/
theorem land_subset (segments : List Text) : land [] segments ⊆ segments := by
  rw [← collapseSegments_true]
  exact collapseSegments_subset true segments

/-! ### Labels -/

/-- The path that starts at no root and has the given segments. -/
def relative (segments : List Text) : Path := ⟨.relative, segments⟩

@[simp]
theorem segments_relative (segments : List Text) : (relative segments).segments = segments := rfl

@[simp]
theorem isAbsolute_relative (segments : List Text) : (relative segments).isAbsolute = false := rfl

theorem anchor_of_isAbsolute {p : Path} (h : p.isAbsolute = false) : p.anchor = .relative := by
  simpa [isAbsolute] using h

/-- The normal form of a relative path. -/
theorem normalize_eq {t : Text} (h : (ofText t).isAbsolute = false) :
    normalize t = (relative (collapseSegments false (ofText t).segments)).toText := by
  rw [normalize, collapse, anchor_of_isAbsolute h, h]
  rfl

theorem isSegment_of_mem_collapse {absolute : Bool} {t s : Text}
    (h : s ∈ collapseSegments absolute (ofText t).segments) : IsSegment s :=
  isSegment_of_mem (collapseSegments_subset absolute _ h)

/-- A normal form is read as collapsed segments. -/
theorem ofText_normalize {t : Text} (h : (ofText t).isAbsolute = false) :
    ofText (normalize t) = relative (collapseSegments false (ofText t).segments) := by
  rw [normalize_eq h]
  exact ofText_toText fun s hs => isSegment_of_mem_collapse hs

theorem normalize_normalize {t : Text} (h : (ofText t).isAbsolute = false) :
    normalize (normalize t) = normalize t := by
  have hrel : (ofText (normalize t)).isAbsolute = false := by
    rw [ofText_normalize h, isAbsolute_relative]
  rw [normalize_eq hrel, ofText_normalize h, segments_relative, collapse_collapse, normalize_eq h]

theorem toText_relative {segments : List Text} (h : ∀ s ∈ segments, IsSegment s)
    (hne : segments ≠ []) : (relative segments).toText = ['/'].intercalate segments :=
  toText_eq (intercalate_ne_nil h hne)

/-- The text of a relative path does not start with a slash. -/
theorem head?_toText_append_ne {segments : List Text} (h : ∀ s ∈ segments, IsSegment s) (t : Text) :
    ((relative segments).toText ++ t).head? ≠ some '/' := by
  by_cases hne : segments = []
  · have hhere : (relative segments).toText = here := by
      rw [hne]
      rfl
    simp [hhere, here]
  · rw [toText_relative h hne, List.head?_append_of_ne_nil _ (intercalate_ne_nil h hne)]
    exact head?_intercalate_ne h

theorem intercalate_append {a b : List Text} (ha : a ≠ []) (hb : b ≠ []) :
    ['/'].intercalate (a ++ b) = ['/'].intercalate a ++ '/' :: ['/'].intercalate b := by
  induction a with
  | nil => exact absurd rfl ha
  | cons s a ih =>
    cases a with
    | nil => simp [List.intercalate_cons_of_ne_nil hb]
    | cons u a =>
      rw [List.cons_append, List.intercalate_cons_of_ne_nil (by simp), ih (by simp),
        List.intercalate_cons_cons, List.append_assoc _ (['/'].intercalate (u :: a))]

/-- A slash in the text of segments stands between two of them. -/
theorem eq_splitOn_append {segments : List Text} (h : ∀ s ∈ segments, IsSegment s)
    (hne : segments ≠ []) {before after : Text}
    (ht : ['/'].intercalate segments = before ++ '/' :: after) :
    segments = before.splitOn '/' ++ after.splitOn '/' := by
  rw [← List.splitOn_intercalate '/' (fun s hs => (h s hs).2) hne, ht, List.splitOn,
    List.splitOnP_append_cons _ _ (by simp)]
  rfl

/-- A text starts with a directory and a slash just if its segments start with those of the
directory. -/
theorem dropPrefix?_toText {dir segments : List Text} (hd : ∀ s ∈ dir, IsSegment s)
    (hs : ∀ s ∈ segments, IsSegment s) {rest : Text} :
    Text.dropPrefix? ((relative dir).toText ++ ['/']) (relative segments).toText = some rest ↔
      dir ≠ [] ∧ ∃ below, below ≠ [] ∧ segments = dir ++ below ∧
        rest = (relative below).toText := by
  rw [Text.dropPrefix?_eq_some, List.append_assoc, List.singleton_append]
  constructor
  · intro h
    have hne : segments ≠ [] := by
      rintro rfl
      have hmem : '/' ∈ (relative []).toText := by
        rw [h]
        simp
      exact absurd hmem (by decide)
    have hpieces := eq_splitOn_append hs hne ((toText_relative hs hne).symm.trans h)
    have hdne : dir ≠ [] := by
      rintro rfl
      have hhere : here ∈ segments := by
        rw [hpieces]
        exact List.mem_append_left _ List.mem_cons_self
      exact (hs here hhere).ne_here rfl
    rw [toText_relative hd hdne, List.splitOn_intercalate '/' (fun s h' => (hd s h').2) hdne]
      at hpieces
    have hrest : rest.splitOn '/' ≠ [] := List.splitOnP_ne_nil _ _
    refine ⟨hdne, rest.splitOn '/', hrest, hpieces, ?_⟩
    rw [toText_relative (fun s h' => hs s (hpieces ▸ List.mem_append_right _ h')) hrest,
      List.intercalate_splitOn]
  · rintro ⟨hdne, below, hbne, rfl, rfl⟩
    rw [toText_relative hs (by simp [hdne]), toText_relative hd hdne,
      toText_relative (fun s h => hs s (List.mem_append_right _ h)) hbne,
      intercalate_append hdne hbne]

/-- What follows a slash in the text of a path is the text of its last segments. -/
theorem exists_relative_of_append_slash {p : Path} (h : ∀ s ∈ p.segments, IsSegment s)
    (ha : p.anchor ≠ .doubleRoot) (hne : p.segments ≠ []) {pre rest : Text}
    (ht : p.toText = pre ++ '/' :: rest) :
    ∃ below, below <:+ p.segments ∧ rest = (relative below).toText := by
  obtain ⟨a, segments⟩ := p
  rw [toText_eq fun hnil => intercalate_ne_nil h hne (List.append_eq_nil_iff.1 hnil).2] at ht
  have hinner : ∀ pre', ['/'].intercalate segments = pre' ++ '/' :: rest →
      ∃ below, below <:+ segments ∧ rest = (relative below).toText := by
    intro pre' hpre
    have hpieces := eq_splitOn_append h hne hpre
    refine ⟨rest.splitOn '/', ⟨_, hpieces.symm⟩, ?_⟩
    rw [toText_relative (fun s h' => h s (hpieces ▸ List.mem_append_right _ h'))
      (List.splitOnP_ne_nil _ _), List.intercalate_splitOn]
  cases a with
  | relative => exact hinner pre ht
  | root =>
    cases pre with
    | nil =>
      obtain rfl : ['/'].intercalate segments = rest := by simpa [Anchor.text] using ht
      exact ⟨segments, List.suffix_refl _, (toText_relative h hne).symm⟩
    | cons c pre => exact hinner pre (List.cons.inj ht).2
  | doubleRoot => exact absurd rfl ha

theorem directory_append_slash (u : Text) {v : Text} (h : '/' ∉ v) :
    directory (u ++ '/' :: v) = ofText (u ++ ['/']) := by
  have hv : ∀ c ∈ v.reverse, (decide (c ≠ '/')) = true := fun c hc =>
    decide_eq_true fun hs => h (hs ▸ List.mem_reverse.1 hc)
  rw [directory, List.reverse_append, List.reverse_cons, List.append_assoc,
    List.dropWhile_append_of_pos hv, List.singleton_append, List.dropWhile_cons_of_neg (by simp),
    List.reverse_cons, List.reverse_reverse]

theorem directory_text_append (a : Anchor) {v : Text} (h : '/' ∉ v) :
    directory (a.text ++ v) = ⟨a, []⟩ := by
  cases a with
  | relative =>
    have hv : ∀ c ∈ v.reverse, (decide (c ≠ '/')) = true := fun c hc =>
      decide_eq_true fun hs => h (hs ▸ List.mem_reverse.1 hc)
    have hnil : v.reverse.dropWhile (· ≠ '/') = [] := by
      simpa using @List.dropWhile_append_of_pos _ _ v.reverse [] hv
    rw [Anchor.text, List.nil_append, directory, hnil]
    rfl
  | root => exact directory_append_slash [] h
  | doubleRoot => exact directory_append_slash ['/'] h

/-- The directory part of a path is the path without its last segment. -/
theorem directory_toText {p : Path} (h : ∀ s ∈ p.segments, IsSegment s) :
    directory p.toText = p.parent := by
  obtain ⟨a, segments⟩ := p
  rcases List.eq_nil_or_concat' segments with rfl | ⟨init, last, rfl⟩
  · cases a <;> rfl
  · have hlast : IsSegment last := h last (by simp)
    have hinit : ∀ s ∈ init, IsSegment s := fun s hs => h s (by simp [hs])
    have htext : (Path.mk a (init ++ [last])).toText =
        a.text ++ ['/'].intercalate (init ++ [last]) :=
      toText_eq fun hnil => intercalate_ne_nil h (by simp) (List.append_eq_nil_iff.1 hnil).2
    rw [htext, parent, List.dropLast_concat]
    by_cases hne : init = []
    · subst hne
      rw [List.nil_append, List.intercalate_singleton]
      exact directory_text_append a hlast.2
    · rw [intercalate_append hne (by simp), List.intercalate_singleton, ← List.append_assoc,
        directory_append_slash _ hlast.2]
      have hhead : (['/'].intercalate init ++ ['/']).head? ≠ some '/' := by
        rw [List.head?_append_of_ne_nil _ (intercalate_ne_nil hinit hne)]
        exact head?_intercalate_ne hinit
      have hanchor : Anchor.ofText (a.text ++ ['/'].intercalate init ++ ['/']) = a := by
        rw [List.append_assoc]
        exact a.ofText_text_append hhead
      have hsegments : (ofText (a.text ++ ['/'].intercalate init ++ ['/'])).segments = init := by
        rw [segments_append_slash, segments_text_append, segments_intercalate hinit]
        exact List.append_nil init
      calc ofText (a.text ++ ['/'].intercalate init ++ ['/'])
          = ⟨Anchor.ofText (a.text ++ ['/'].intercalate init ++ ['/']),
              (ofText (a.text ++ ['/'].intercalate init ++ ['/'])).segments⟩ := rfl
        _ = ⟨a, init⟩ := by rw [hanchor, hsegments]

/-! ### Backslashes -/

theorem slashed_eq_self {t : Text} (h : '\\' ∉ t) : slashed t = t := by
  unfold slashed
  refine (List.map_congr_left fun c hc => ?_).trans (List.map_id t)
  have hb : c ≠ '\\' := fun hb => h (hb ▸ hc)
  exact if_neg hb

theorem backslash_notMem_slashed (t : Text) : '\\' ∉ slashed t := by
  intro h
  obtain ⟨c, -, hc⟩ := List.mem_map.1 h
  split at hc
  · cases hc
  · contradiction

/-- The characters of a segment stand in the text. -/
theorem mem_of_mem_segments {t s : Text} (h : s ∈ (ofText t).segments) {c : Char} (hc : c ∈ s) :
    c ∈ t := by
  rw [segments_ofText] at h
  have hmem : c ∈ ['/'].intercalate (t.splitOn '/') :=
    (Text.infix_intercalate (List.mem_of_mem_filter h)).subset hc
  rwa [List.intercalate_splitOn] at hmem

/-- The characters of a path are slashes, those of its segments, and the point of the path that
stays where it is. -/
theorem mem_toText {p : Path} {c : Char} (h : c ∈ p.toText) :
    c = '/' ∨ c = '.' ∨ ∃ s ∈ p.segments, c ∈ s := by
  unfold toText at h
  split at h
  · exact .inr (.inl (List.mem_singleton.1 h))
  · rcases List.mem_append.1 h with h | h
    · have hslash : ∀ a : Anchor, ∀ x ∈ a.text, x = '/' := by
        intro a
        cases a <;> simp [Anchor.text]
      exact .inl (hslash _ c h)
    · rcases Text.mem_intercalate h with h | h
      · exact .inl (List.mem_singleton.1 h)
      · exact .inr (.inr h)

/-! ### Absolute places -/

theorem below?_eq_some {base target below : List Text} :
    below? base target = some below ↔ target = base ++ below := by
  induction base generalizing target with
  | nil => simp [below?, eq_comm]
  | cons b base ih =>
    cases target with
    | nil => simp [below?]
    | cons t target =>
      rw [below?, List.cons_append, List.cons.injEq]
      split
      · rename_i hbt
        simp [hbt, ih]
      · rename_i hbt
        simp [Ne.symm hbt]

/-- What a path is resolved to, and what it must not hold for that. -/
theorem resolve_eq_ok_iff {cwd p q : Path} : resolve cwd p = .ok q ↔
    (∀ s ∈ (cwd.join p).segments, '\x00' ∉ s) ∧ q = ⟨.root, land [] (cwd.join p).segments⟩ := by
  rw [resolve, collapseSegments_true]
  split
  · rename_i h
    obtain ⟨s, hs, hnul⟩ := List.any_eq_true.1 h
    simp only [reduceCtorEq, false_iff, not_and]
    exact fun hno => absurd (by simpa using hnul) (hno s hs)
  · rename_i h
    rw [Except.ok.injEq, eq_comm]
    refine (and_iff_right fun s hs hnul => h ?_).symm
    exact List.any_eq_true.2 ⟨s, hs, by simpa using hnul⟩

end Path

end Flattener
