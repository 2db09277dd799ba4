import Flattener.Proofs.Selection

/-!
# One label for a file

A file is known by its label, so a file that has two labels counts as two files. Whether two
specifiers that select one file give it one label depends on whether they climb: the normal form of
a specifier such as `../p/A.sol` still starts with `..`, and no package directory is taken off it.

The package directories are taken to be in order (`Lookup.Orderly`): they lie below the root, none
of them below another, and none is a file. Then a file below the root has many names that lead down
to it, one from the root and one from each directory that holds it, and every specifier that does
not climb is turned into the shortest of them.

* `Lookup.Stripped.suffix`: a label is the shortest name of its file.
* `Lookup.labelOf_of_resolve`: which label a specifier gives to a file.
* `Lookup.label_eq_iff`: two specifiers of one file give the same label just if neither of them
  climbs, or both do and have the same normal form.

The other way round, a label stands for one file, and this needs nothing of the directories.

* `Lookup.resolve_label`: looking a label up leads to the file that it was given to.
-/

namespace Flattener

namespace Lookup

variable {l : Lookup} {tree : FileTree}

/-- A specifier whose normal form starts with `..`. -/
def Climbs (specifier : Text) : Prop :=
  (Path.ofText (Path.slashed specifier)).collapse.segments.head? = some Path.up

instance (specifier : Text) : Decidable (Climbs specifier) :=
  inferInstanceAs (Decidable (_ = _))

/-- The names that lead from the root to a package directory. -/
def dirNames (dir : Text) : List Text := Path.collapseSegments false (Path.ofText dir).segments

/-- Package directories that lie below the root and apart from each other. -/
structure Orderly (l : Lookup) (tree : FileTree) : Prop where
  root_resolved : Path.up ∉ l.root.segments
  slashed_eq : ∀ dir ∈ l.packageDirs, Path.slashed dir = dir
  isRelative : ∀ dir ∈ l.packageDirs, (Path.ofText dir).isAbsolute = false
  leads_down : ∀ dir ∈ l.packageDirs, Path.up ∉ dirNames dir
  apart : ∀ dir ∈ l.packageDirs, ∀ other ∈ l.packageDirs, dirNames dir ≠ [] →
    dirNames dir <+: dirNames other → dirNames dir = dirNames other
  no_file : ∀ b ∈ l.bases, tree.isFile b = false

/-- Segments that lead from the root or a package directory down to the file at a place, and select
it. -/
structure NamedBelow (l : Lookup) (tree : FileTree) (place : Place) (n : List Text) : Prop where
  descent : IsDescent n
  selects : l.place? tree (Path.relative n).toText = some place

/-! ### Names from the root and from package directories -/

/-- The place of a directory that names are looked for in. -/
theorem Orderly.land_base (ho : l.Orderly tree) {b : Path} (hb : b ∈ l.bases) :
    ∃ names, (names = [] ∨ ∃ dir ∈ l.packageDirs, names = dirNames dir) ∧
      Path.land [] b.segments = l.root.segments ++ names := by
  rcases List.mem_cons.1 hb with rfl | hb
  · refine ⟨[], .inl rfl, ?_⟩
    rw [Path.land_names [] ho.root_resolved, List.append_nil, List.nil_append]
  · obtain ⟨dir, hdir, rfl⟩ := List.mem_map.1 hb
    refine ⟨dirNames dir, .inr ⟨dir, hdir, rfl⟩, ?_⟩
    have hsegments : (l.root.child dir).segments =
        l.root.segments ++ (Path.ofText dir).segments := by
      rw [Path.child, Path.join, if_neg (by simp [ho.isRelative dir hdir])]
    rw [hsegments, Path.land_append, Path.land_names [] ho.root_resolved, List.nil_append,
      ← Path.land_collapse, ← dirNames, Path.land_names _ (ho.leads_down dir hdir)]

/-- A file with a name is reached from the root through a package directory or none. -/
theorem NamedBelow.exists_dir (ho : l.Orderly tree) {place : Place} {n : List Text}
    (h : l.NamedBelow tree place n) :
    ∃ names, (names = [] ∨ ∃ dir ∈ l.packageDirs, names = dirNames dir) ∧
      place = l.root.segments ++ (names ++ n) := by
  have hplace := h.selects
  rw [place?_relative h.descent.isName] at hplace
  obtain ⟨b, hb, hloc⟩ := Option.bind_eq_some_iff.1 hplace
  obtain ⟨names, hnames, hland⟩ := ho.land_base (List.mem_of_find?_eq_some hb)
  refine ⟨names, hnames, ?_⟩
  rw [FileTree.eq_land_of_follow hloc, segments_join_relative, Path.land_append, hland,
    Path.land_names _ h.descent.up_notMem, List.append_assoc]

theorem NamedBelow.ne_nil (ho : l.Orderly tree) {place : Place} {n : List Text}
    (h : l.NamedBelow tree place n) : n ≠ [] := by
  rintro rfl
  have hplace := h.selects
  rw [place?_relative h.descent.isName] at hplace
  obtain ⟨b, hb, -⟩ := Option.bind_eq_some_iff.1 hplace
  have hsame : b.join (Path.relative []) = b := by
    rw [Path.join, if_neg (by simp), Path.segments_relative, List.append_nil]
  have hfile : tree.isFile (b.join (Path.relative [])) = true := by simpa using List.find?_some hb
  rw [hsame, ho.no_file b (List.mem_of_find?_eq_some hb)] at hfile
  cases hfile

/-! ### Taking package directories off -/

/-- A package directory is taken off a name if what is left selects the same file. -/
theorem Orderly.stripDir_eq_some_iff (ho : l.Orderly tree) {place : Place} {n : List Text}
    (hn : ∀ s ∈ n, Path.IsSegment s) {dir rest : Text} (hdir : dir ∈ l.packageDirs) :
    l.stripDir tree (some place) (Path.relative n).toText dir = some rest ↔
      dirNames dir ≠ [] ∧ ∃ below, below ≠ [] ∧ n = dirNames dir ++ below ∧
        rest = (Path.relative below).toText ∧ l.place? tree rest = some place := by
  have hd : ∀ s ∈ dirNames dir, Path.IsSegment s := fun s hs => Path.isSegment_of_mem_collapse hs
  rw [Lookup.stripDir_eq_some_iff, ho.slashed_eq dir hdir,
    Path.normalize_eq (ho.isRelative dir hdir), ← dirNames, Path.dropPrefix?_toText hd hn]
  constructor
  · rintro ⟨⟨hne, below, hbne, hsplit, hrest⟩, hplace⟩
    exact ⟨hne, below, hbne, hsplit, hrest, hplace⟩
  · rintro ⟨hne, below, hbne, hsplit, hrest, hplace⟩
    exact ⟨⟨hne, below, hbne, hsplit, hrest⟩, hplace⟩

/-- The name `m` is what is left of the name `n` of a file without its package directory. -/
structure Stripped (l : Lookup) (tree : FileTree) (place : Place) (n m : List Text) : Prop where
  named : l.NamedBelow tree place m
  source : l.NamedBelow tree place n
  stripped : (m = n ∧ ∀ dir ∈ l.packageDirs, ∀ below, dirNames dir ≠ [] →
      n = dirNames dir ++ below → ¬ l.NamedBelow tree place below) ∨
    ∃ dir ∈ l.packageDirs, dirNames dir ≠ [] ∧ n = dirNames dir ++ m

/-- The label of a file that was found under a name. -/
theorem exists_stripped (ho : l.Orderly tree) {c : Candidate} {place : Place} {n : List Text}
    (hloc : tree.locate c.path = some place) (hlabel : c.label = (Path.relative n).toText)
    (hn : l.NamedBelow tree place n) :
    ∃ m, l.packageLabel tree c = (Path.relative m).toText ∧ l.Stripped tree place n m := by
  rcases packageLabel_cases hloc with ⟨heq, hnone⟩ | ⟨dir, hdir, hstrip⟩
  · -- nothing was taken off, so no directory could be
    refine ⟨n, heq.trans hlabel, hn, hn, .inl ⟨rfl, ?_⟩⟩
    intro dir hdir below hne hsplit hbelow
    have hstrip : l.stripDir tree (some place) c.label dir = some (Path.relative below).toText := by
      rw [hlabel]
      exact (ho.stripDir_eq_some_iff hn.descent.isSegment hdir).2
        ⟨hne, below, hbelow.ne_nil ho, hsplit, rfl, hbelow.selects⟩
    rw [hnone dir hdir] at hstrip
    cases hstrip
  · rw [hlabel] at hstrip
    obtain ⟨hne, below, -, hsplit, hrest, hplace⟩ :=
      (ho.stripDir_eq_some_iff hn.descent.isSegment hdir).1 hstrip
    have hdescent := hn.descent.of_suffix ⟨_, hsplit.symm⟩
    exact ⟨below, hrest, ⟨hdescent, hrest ▸ hplace⟩, hn, .inr ⟨dir, hdir, hne, hsplit⟩⟩

/-- What is left when package directories are taken off is the shortest name of the file. -/
theorem Stripped.suffix (ho : l.Orderly tree) {place : Place} {n m other : List Text}
    (h : l.Stripped tree place n m) (hother : l.NamedBelow tree place other) : m <:+ other := by
  obtain ⟨names, hnames, hplace⟩ := h.named.exists_dir ho
  obtain ⟨names', hnames', hplace'⟩ := hother.exists_dir ho
  have heq : names ++ m = names' ++ other :=
    List.append_cancel_left (hplace.symm.trans hplace')
  rcases List.append_eq_append_iff.1 heq with ⟨extra, hextra, hm⟩ | ⟨extra, -, hm⟩
  · -- a longer directory leads to the shorter name `other`
    by_cases hnil : extra = []
    · subst hnil
      exact ⟨[], hm⟩
    exfalso
    have hne' : names' ≠ [] := by simp [hextra, hnil]
    obtain ⟨dir', hdir', rfl⟩ := hnames'.resolve_left hne'
    -- that directory is not below another one, so the label starts at the root
    have hroot : names = [] := by
      by_contra hne
      obtain ⟨dir, hdir, rfl⟩ := hnames.resolve_left hne
      have hsame := ho.apart dir hdir dir' hdir' hne ⟨extra, hextra.symm⟩
      rw [← hsame] at hextra
      exact hnil (by simpa using hextra)
    subst hroot
    rw [List.nil_append] at hextra hplace
    rcases h.stripped with ⟨rfl, hnone⟩ | ⟨dir, hdir, hne, rfl⟩
    · -- and the directory would have been taken off
      exact hnone dir' hdir' other hne' (hextra ▸ hm) hother
    · -- the name before would be longer than the way from the root
      obtain ⟨before, -, hbefore⟩ := h.source.exists_dir ho
      have hlength := congrArg List.length (List.append_cancel_left (hplace.symm.trans hbefore))
      have hpos := List.length_pos_iff.2 hne
      simp only [List.length_append] at hlength
      omega
  · exact ⟨extra, hm.symm⟩

/-! ### The label of a file -/

/-- The labels that specifiers give to the file at a place. -/
inductive LabelOf (l : Lookup) (tree : FileTree) (place : Place) (specifier : Text) : Text → Prop
    where
  | climbing (h : Climbs specifier)
    (hrel : (Path.ofText (Path.slashed specifier)).isAbsolute = false) :
    LabelOf l tree place specifier (Path.normalize (Path.slashed specifier))
  | below (h : ¬ Climbs specifier) {m : List Text} (hm : l.NamedBelow tree place m)
    (hshort : ∀ other, l.NamedBelow tree place other → m <:+ other) :
    LabelOf l tree place specifier (Path.relative m).toText
  | outside (h : ¬ Climbs specifier) (hd : IsDescent place)
    (hout : Path.below? l.root.segments place = none) :
    LabelOf l tree place specifier (Path.mk .root place).toText

theorem up_notMem_of_not_climbs {specifier : Text} (h : ¬ Climbs specifier)
    (hrel : (Path.ofText (Path.slashed specifier)).isAbsolute = false) :
    Path.up ∉ Path.collapseSegments false (Path.ofText (Path.slashed specifier)).segments := by
  rw [Climbs, Path.collapse, hrel] at h
  obtain ⟨k, names, hc, hup, -⟩ :=
    Path.collapse_relative (Path.ofText (Path.slashed specifier)).segments
  rw [hc] at h ⊢
  cases k with
  | zero => exact hup
  | succ k => exact absurd rfl h

theorem not_climbs_of_isAbsolute {specifier : Text}
    (habs : (Path.ofText (Path.slashed specifier)).isAbsolute = true) : ¬ Climbs specifier := by
  intro h
  rw [Climbs, Path.collapse, habs, Path.collapseSegments_true] at h
  exact Path.up_notMem_land List.not_mem_nil _ (List.mem_of_head? h)

/-- Nothing is taken off a label that climbs. -/
theorem Orderly.packageLabel_of_climbs (ho : l.Orderly tree) {c : Candidate} {place : Place}
    (hloc : tree.locate c.path = some place) {n : List Text} (hn : IsName n)
    (hlabel : c.label = (Path.relative n).toText) (hclimb : n.head? = some Path.up) :
    l.packageLabel tree c = c.label := by
  rcases packageLabel_cases hloc with ⟨heq, -⟩ | ⟨dir, hdir, hstrip⟩
  · exact heq
  · rw [hlabel] at hstrip
    obtain ⟨hne, below, -, rfl, -⟩ := (ho.stripDir_eq_some_iff hn.isSegment hdir).1 hstrip
    rw [List.head?_append_of_ne_nil _ hne] at hclimb
    exact absurd (List.mem_of_head? hclimb) (ho.leads_down dir hdir)

/-- Nothing is taken off an absolute label. -/
theorem Orderly.packageLabel_of_absolute (ho : l.Orderly tree) {c : Candidate} {place : Place}
    (hloc : tree.locate c.path = some place) {names : List Text}
    (hlabel : c.label = (Path.mk .root names).toText) : l.packageLabel tree c = c.label := by
  rcases packageLabel_cases hloc with ⟨heq, -⟩ | ⟨dir, hdir, hstrip⟩
  · exact heq
  · have hdrop := (Lookup.stripDir_eq_some_iff.1 hstrip).1
    rw [ho.slashed_eq dir hdir, Path.normalize_eq (ho.isRelative dir hdir),
      Text.dropPrefix?_eq_some, hlabel, List.append_assoc] at hdrop
    have hhead : (Path.mk .root names).toText.head? = some '/' := rfl
    rw [hdrop] at hhead
    exact absurd hhead
      (Path.head?_toText_append_ne (fun s hs => Path.isSegment_of_mem_collapse hs) _)

/-- A file that was found under a name that leads down has its shortest name for a label. -/
theorem Orderly.labelOf_of_namedBelow (ho : l.Orderly tree) {specifier : Text} {c : Candidate}
    {place : Place} {n : List Text} (hclimb : ¬ Climbs specifier)
    (hloc : tree.locate c.path = some place) (hlabel : c.label = (Path.relative n).toText)
    (hn : l.NamedBelow tree place n) :
    l.LabelOf tree place specifier (l.packageLabel tree c) := by
  obtain ⟨m, hm, hstripped⟩ := exists_stripped ho hloc hlabel hn
  rw [hm]
  exact .below hclimb hstripped.named fun other hother => hstripped.suffix ho hother

/-- A file that was found at its place is labelled from the root if it lies there. -/
theorem Orderly.labelOf_of_plainLabel (ho : l.Orderly tree) {specifier : Text} {c : Candidate}
    {place : Place} (hclimb : ¬ Climbs specifier) (hloc : tree.locate c.path = some place)
    (hlabel : c.label = l.plainLabel place) (hd : IsDescent place)
    (hselects : l.place? tree c.label = some place) :
    l.LabelOf tree place specifier (l.packageLabel tree c) := by
  unfold plainLabel at hlabel
  split at hlabel
  · rename_i n hbelow
    exact ho.labelOf_of_namedBelow hclimb hloc hlabel ⟨hd.of_below? hbelow, hlabel ▸ hselects⟩
  · rename_i hbelow
    rw [ho.packageLabel_of_absolute hloc hlabel, hlabel]
    exact .outside hclimb hd hbelow

/-- The label that a specifier gives to the file that it selects. -/
theorem labelOf_of_resolve (ho : l.Orderly tree) {specifier : Text} {r : Resolved} {place : Place}
    (hr : l.resolve tree specifier = .ok r) (hs : l.Selects tree specifier place) :
    l.LabelOf tree place specifier r.path := by
  obtain ⟨c, hc, -, hpath⟩ := resolve_eq_ok_iff.1 hr
  have hloc : tree.locate c.path = some place := (place?_of_found hc).symm.trans hs
  have hselects : l.place? tree c.label = some place := (place?_label hc).trans hloc
  rw [hpath]
  cases habs : (Path.ofText (Path.slashed specifier)).isAbsolute with
  | false =>
    have hlabel := label_of_found habs hc
    have hname := isName_collapse (Path.slashed specifier)
    by_cases hclimb : Climbs specifier
    · have hhead := hclimb
      rw [Climbs, Path.collapse, habs] at hhead
      have htext := hlabel.trans (Path.normalize_eq habs)
      rw [ho.packageLabel_of_climbs hloc hname htext hhead, hlabel]
      exact .climbing hclimb habs
    · rw [Path.normalize_eq habs] at hlabel
      exact ho.labelOf_of_namedBelow hclimb hloc hlabel
        ⟨⟨hname.isSegment, up_notMem_of_not_climbs hclimb habs⟩, hlabel ▸ hselects⟩
  | true =>
    obtain ⟨-, rfl, -⟩ := (found?_absolute habs).1 hc
    have hd := IsDescent.land (Path.slashed specifier)
    obtain rfl : place = Path.land [] (Path.ofText (Path.slashed specifier)).segments :=
      (FileTree.eq_land_of_follow hloc).trans (Path.land_names [] hd.up_notMem)
    exact ho.labelOf_of_plainLabel (not_climbs_of_isAbsolute habs) hloc rfl hd hselects

/-! ### When two labels are the same -/

/-- The label of a specifier that climbs starts with `..`. -/
theorem ofText_normalize_of_climbs {specifier : Text} (h : Climbs specifier)
    (hrel : (Path.ofText (Path.slashed specifier)).isAbsolute = false) :
    (Path.ofText (Path.normalize (Path.slashed specifier))).anchor = .relative ∧
      Path.up ∈ (Path.ofText (Path.normalize (Path.slashed specifier))).segments := by
  rw [Climbs, Path.collapse, hrel] at h
  rw [Path.ofText_normalize hrel]
  exact ⟨rfl, List.mem_of_head? h⟩

/-- The label of a specifier that does not climb has no `..`, or it is absolute. -/
theorem LabelOf.up_notMem {place : Place} {specifier label : Text}
    (h : l.LabelOf tree place specifier label) (hclimb : ¬ Climbs specifier) :
    Path.up ∉ (Path.ofText label).segments ∨ (Path.ofText label).anchor = .root := by
  cases h with
  | climbing hc => exact absurd hc hclimb
  | below _ hm _ =>
    left
    rw [hm.descent.isName.ofText_toText]
    exact hm.descent.up_notMem
  | outside _ hd _ =>
    right
    rw [Path.ofText_toText hd.isSegment]

/-- All specifiers that do not climb give the same label to a file. -/
theorem LabelOf.eq_of_not_climbs (ho : l.Orderly tree) {place : Place} {s₁ s₂ label₁ label₂ : Text}
    (h₁ : l.LabelOf tree place s₁ label₁) (h₂ : l.LabelOf tree place s₂ label₂)
    (hc₁ : ¬ Climbs s₁) (hc₂ : ¬ Climbs s₂) : label₁ = label₂ := by
  -- a file with a name lies below the root
  have hapart : ∀ {m}, l.NamedBelow tree place m →
      Path.below? l.root.segments place ≠ none := by
    intro m hm hnone
    obtain ⟨names, -, hplace⟩ := hm.exists_dir ho
    rw [Path.below?_eq_some.2 hplace] at hnone
    cases hnone
  cases h₁ with
  | climbing hc => exact absurd hc hc₁
  | below _ hm₁ hshort₁ =>
    cases h₂ with
    | climbing hc => exact absurd hc hc₂
    | below _ hm₂ hshort₂ =>
      -- each of the two labels is a suffix of the other
      have hsuffix := hshort₁ _ hm₂
      rw [hsuffix.eq_of_length (Nat.le_antisymm hsuffix.length_le (hshort₂ _ hm₁).length_le)]
    | outside _ _ hout => exact absurd hout (hapart hm₁)
  | outside _ _ hout =>
    cases h₂ with
    | climbing hc => exact absurd hc hc₂
    | below _ hm₂ _ => exact absurd hout (hapart hm₂)
    | outside => rfl

/-- A specifier that climbs gives another label than one that does not. -/
theorem LabelOf.ne_of_climbs {place : Place} {s₁ s₂ label₁ label₂ : Text}
    (h₁ : l.LabelOf tree place s₁ label₁) (h₂ : l.LabelOf tree place s₂ label₂)
    (hc₁ : Climbs s₁) (hc₂ : ¬ Climbs s₂) : label₁ ≠ label₂ := by
  rintro rfl
  cases h₁ with
  | climbing _ hrel =>
    obtain ⟨hanchor, hup⟩ := ofText_normalize_of_climbs hc₁ hrel
    rcases h₂.up_notMem hc₂ with h | h
    · exact h hup
    · rw [hanchor] at h
      cases h
  | below hc => exact hc hc₁
  | outside hc => exact hc hc₁

theorem LabelOf.eq_normalize {place : Place} {specifier label : Text}
    (h : l.LabelOf tree place specifier label) (hc : Climbs specifier) :
    label = Path.normalize (Path.slashed specifier) := by
  cases h with
  | climbing => rfl
  | below hn => exact absurd hc hn
  | outside hn => exact absurd hc hn

/-- Two specifiers of one file give it the same label just if neither of them climbs, or both climb
and have the same normal form. -/
theorem label_eq_iff (ho : l.Orderly tree) {s₁ s₂ : Text} {r₁ r₂ : Resolved} {place : Place}
    (hr₁ : l.resolve tree s₁ = .ok r₁) (hr₂ : l.resolve tree s₂ = .ok r₂)
    (hs₁ : l.Selects tree s₁ place) (hs₂ : l.Selects tree s₂ place) :
    r₁.path = r₂.path ↔ (Climbs s₁ ↔ Climbs s₂) ∧
      (Climbs s₁ → Path.normalize (Path.slashed s₁) = Path.normalize (Path.slashed s₂)) := by
  have h₁ := labelOf_of_resolve ho hr₁ hs₁
  have h₂ := labelOf_of_resolve ho hr₂ hs₂
  by_cases hc₁ : Climbs s₁
  · by_cases hc₂ : Climbs s₂
    · rw [h₁.eq_normalize hc₁, h₂.eq_normalize hc₂]
      simp [hc₁, hc₂]
    · simp [hc₁, hc₂, h₁.ne_of_climbs h₂ hc₁ hc₂]
  · by_cases hc₂ : Climbs s₂
    · simp [hc₁, hc₂, (h₂.ne_of_climbs h₁ hc₂ hc₁).symm]
    · simp [hc₁, hc₂, h₁.eq_of_not_climbs ho h₂ hc₁ hc₂]

/-- A project with one file in a package directory. -/
def packaged : FileTree :=
  ⟨[([['w']], .directory), ([['w'], ['p']], .directory), ([['w'], ['p'], ['l']], .directory),
    ([['w'], ['p'], ['l'], ['a']], .file [])]⟩

/-- The lookup in that project. -/
def packagedLookup : Lookup := ⟨⟨.root, [['w'], ['p']]⟩, [['l']], .null, .builtIn⟩

/-- Named from the root or absolutely, the file is labelled from its package directory. -/
theorem label_eq_iff_packaged :
    packagedLookup.Orderly packaged ∧ ∃ r₁ r₂,
      packagedLookup.resolve packaged "./l/a".toList = .ok r₁ ∧
      packagedLookup.resolve packaged "/w/p/l/a".toList = .ok r₂ ∧
      packagedLookup.Selects packaged "./l/a".toList [['w'], ['p'], ['l'], ['a']] ∧
      packagedLookup.Selects packaged "/w/p/l/a".toList [['w'], ['p'], ['l'], ['a']] ∧
      r₁.path = r₂.path := by
  have ho : packagedLookup.Orderly packaged := by
    constructor <;> decide
  have hr₁ : packagedLookup.resolve packaged "./l/a".toList = .ok ⟨[], ['a']⟩ :=
    resolve_eq_ok_iff.2 ⟨⟨⟨.root, [['w'], ['p'], ['l'], ['a']]⟩, "l/a".toList⟩, by decide,
      readText_of_empty rfl rfl (by decide) _, by decide⟩
  have hr₂ : packagedLookup.resolve packaged "/w/p/l/a".toList = .ok ⟨[], ['a']⟩ :=
    resolve_eq_ok_iff.2 ⟨⟨⟨.root, [['w'], ['p'], ['l'], ['a']]⟩, "l/a".toList⟩, by decide,
      readText_of_empty rfl rfl (by decide) _, by decide⟩
  have hs₁ : packagedLookup.Selects packaged "./l/a".toList [['w'], ['p'], ['l'], ['a']] := by
    decide
  have hs₂ : packagedLookup.Selects packaged "/w/p/l/a".toList [['w'], ['p'], ['l'], ['a']] := by
    decide
  exact ⟨ho, _, _, hr₁, hr₂, hs₁, hs₂, (label_eq_iff ho hr₁ hr₂ hs₁ hs₂).2 (by decide)⟩

/-- A way that leaves the root and comes back gives the file another label. -/
theorem labels_packaged_differ : ∃ place r₁ r₂,
    packagedLookup.resolve packaged "l/a".toList = .ok r₁ ∧
    packagedLookup.resolve packaged "../p/l/a".toList = .ok r₂ ∧
    packagedLookup.Selects packaged "l/a".toList place ∧
    packagedLookup.Selects packaged "../p/l/a".toList place ∧ r₁.path ≠ r₂.path := by
  have hr₁ : packagedLookup.resolve packaged "l/a".toList = .ok ⟨[], ['a']⟩ :=
    resolve_eq_ok_iff.2 ⟨⟨⟨.root, [['w'], ['p'], ['l'], ['a']]⟩, "l/a".toList⟩, by decide,
      readText_of_empty rfl rfl (by decide) _, by decide⟩
  have hr₂ : packagedLookup.resolve packaged "../p/l/a".toList = .ok ⟨[], "../p/l/a".toList⟩ :=
    resolve_eq_ok_iff.2 ⟨⟨⟨.root, [['w'], ['p'], Path.up, ['p'], ['l'], ['a']]⟩,
      "../p/l/a".toList⟩, by decide, readText_of_empty rfl rfl (by decide) _, by decide⟩
  exact ⟨[['w'], ['p'], ['l'], ['a']], _, _, hr₁, hr₂, by decide, by decide, by decide⟩

/-! ### A label stands for its file -/

/-- A file that is found under a name is read alike under every other name that leads to it. -/
theorem exists_resolve_of_place {s s' : Text} {r : Resolved} {place : Place}
    (hr : l.resolve tree s = .ok r) (hs : l.Selects tree s place)
    (hs' : l.Selects tree s' place) :
    ∃ r', l.resolve tree s' = .ok r' ∧ r'.content = r.content := by
  obtain ⟨c, hc, hread, -⟩ := resolve_eq_ok_iff.1 hr
  obtain ⟨c', hc', hloc'⟩ := Option.bind_eq_some_iff.1 hs'
  have hloc : tree.locate c'.path = tree.locate c.path :=
    hloc'.trans (hs.symm.trans (place?_of_found hc))
  exact ⟨⟨r.content, l.packageLabel tree c'⟩,
    resolve_eq_ok_iff.2 ⟨c', hc', readText_of_locate hloc hread, rfl⟩, rfl⟩

/-- A specifier that is resolved selects a file, and so does the label that it gives: the same
one. -/
theorem selects_label {s : Text} {r : Resolved} (h : l.resolve tree s = .ok r) :
    ∃ place bytes, tree.entryAt? place = some (.file bytes) ∧ l.Selects tree s place ∧
      l.Selects tree r.path place := by
  obtain ⟨c, hc, -, hpath⟩ := resolve_eq_ok_iff.1 h
  obtain ⟨place, bytes, hloc, hfile⟩ := FileTree.isFile_iff.1 (isFile_of_found hc)
  refine ⟨place, bytes, hfile, (place?_of_found hc).trans hloc, ?_⟩
  rw [Selects, hpath, Path.slashed_eq_self (backslash_notMem_packageLabel hc)]
  exact place?_packageLabel hc hloc

/-- A label stands for one file. Whatever specifier led to the file and in whatever directory it was
found, looking up its label selects the same file again and reads the same text; and all specifiers
that are given the label select that file. -/
theorem resolve_label {s : Text} {r : Resolved} (h : l.resolve tree s = .ok r) :
    ∃ place bytes, tree.entryAt? place = some (.file bytes) ∧ l.Selects tree s place ∧
      l.Selects tree r.path place ∧
      (∃ r', l.resolve tree r.path = .ok r' ∧ r'.content = r.content) ∧
      ∀ s' r', l.resolve tree s' = .ok r' → r'.path = r.path →
        l.Selects tree s' place ∧ r'.content = r.content := by
  obtain ⟨place, bytes, hfile, hs, hlabel⟩ := selects_label h
  refine ⟨place, bytes, hfile, hs, hlabel, exists_resolve_of_place h hs hlabel,
    fun s' r' h' hpath => ?_⟩
  obtain ⟨place', -, -, hs', hlabel'⟩ := selects_label h'
  obtain rfl : place' = place := by
    rw [hpath] at hlabel'
    exact Option.some.inj (hlabel'.symm.trans hlabel)
  obtain ⟨r'', hr'', hcontent⟩ := exists_resolve_of_place h hs hs'
  obtain rfl : r'' = r' := Except.ok.inj (hr''.symm.trans h')
  exact ⟨hs', hcontent⟩

/-- The file in the package directory is found again under its short label. -/
theorem resolve_label_packaged : ∃ place r,
    packagedLookup.resolve packaged "/w/p/l/a".toList = .ok r ∧ r.path = ['a'] ∧
    packagedLookup.Selects packaged "/w/p/l/a".toList place ∧
    packagedLookup.Selects packaged ['a'] place ∧
    ∃ r', packagedLookup.resolve packaged ['a'] = .ok r' ∧ r'.content = r.content := by
  have hr : packagedLookup.resolve packaged "/w/p/l/a".toList = .ok ⟨[], ['a']⟩ :=
    resolve_eq_ok_iff.2 ⟨⟨⟨.root, [['w'], ['p'], ['l'], ['a']]⟩, "l/a".toList⟩, by decide,
      readText_of_empty rfl rfl (by decide) _, by decide⟩
  obtain ⟨place, -, -, hs, hlabel, hagain, -⟩ := resolve_label hr
  exact ⟨place, _, hr, rfl, hs, hlabel, hagain⟩

end Lookup

end Flattener
