import Flattener.Project.Flatten
import Flattener.Proofs.JoinedPaths
import Mathlib.Data.List.Find

/-!
# Labels of entry files

An entry file is named from the working directory and labelled from the project root. The label is
the way from the root to the place that the name leads to: it climbs out of what the two do not
share and descends then (`Path.stepsTo`). Following that way leads back to the place
(`Path.land_stepsTo`), so a label tells which place it was made for, and nothing else about the name
or the working directory is left in it.

A run of a project sees the working directory and the names of the entry files only through the
root and the labels. So two runs of one project are the same if they name the same places.

* `Path.entryLabel_eq`: the label of an entry file.
* `Project.flatten_eq_of_places`: runs that name the same places are the same.
* `Project.entryLabel_leads`: labels are normal, lead to the place that was named, and are equal for
  equal places only.
-/

namespace Flattener

namespace Path

/-- The place that an absolute path leads to: its segments when every `.`, `..` and repeated slash
has had its effect. -/
def placeOf (t : Text) : List Text := (ofText t).collapse.segments

/-- A text without NUL characters, which no file name holds, and without backslashes, which count
as slashes in labels. -/
structure IsPlain (t : Text) : Prop where
  backslash_notMem : '\\' ∉ t
  nul_notMem : '\x00' ∉ t

/-- The text of a directory that names may be taken from. -/
structure IsStart (t : Text) : Prop extends IsPlain t where
  isAbsolute : (ofText t).isAbsolute = true

/-! ### The way from one place to another -/

theorem iterate_dropLast_append (place names : List Text) :
    List.dropLast^[names.length] (place ++ names) = place := by
  induction names using List.reverseRecOn with
  | nil => exact List.append_nil place
  | append_singleton names s ih =>
    rw [List.length_append, List.length_singleton, Function.iterate_succ_apply,
      ← List.append_assoc, List.dropLast_concat, ih]

/-- Climbing out of the names of a directory leads above them. -/
theorem land_climb (place names segments : List Text) (h : up ∉ segments) :
    land (place ++ names) (List.replicate names.length up ++ segments) = place ++ segments := by
  rw [land_append, land_replicate_up, iterate_dropLast_append, land_names place h]

/-- The way from a directory to a place leads to that place. -/
theorem land_stepsTo (place base : List Text) {target : List Text} (h : up ∉ target) :
    land (place ++ base) (stepsTo base target) = place ++ target := by
  induction base generalizing place target with
  | nil => exact land_climb place [] target h
  | cons b base ih =>
    cases target with
    | nil => exact land_climb place (b :: base) [] h
    | cons t target =>
      rw [stepsTo]
      split
      · rename_i hbt
        subst hbt
        have hshared := ih (place ++ [b]) fun hm => h (List.mem_cons_of_mem b hm)
        simpa using hshared
      · exact land_climb place (b :: base) (t :: target) h

/-- The way to a place climbs first and ends with names of that place. -/
theorem exists_stepsTo_eq (base target : List Text) :
    ∃ k names, stepsTo base target = List.replicate k up ++ names ∧ names <:+ target := by
  induction base generalizing target with
  | nil => exact ⟨0, target, rfl, List.suffix_refl _⟩
  | cons b base ih =>
    cases target with
    | nil => exact ⟨base.length + 1, [], rfl, List.suffix_refl _⟩
    | cons t target =>
      rw [stepsTo]
      split
      · obtain ⟨k, names, heq, hsuffix⟩ := ih target
        exact ⟨k, names, heq, hsuffix.trans (List.suffix_cons t target)⟩
      · exact ⟨base.length + 1, t :: target, rfl, List.suffix_refl _⟩

/-! ### Places of texts -/

theorem placeOf_eq_land {t : Text} (h : (ofText t).isAbsolute = true) :
    placeOf t = land [] (ofText t).segments := by
  rw [placeOf, collapse, h, collapseSegments_true]

theorem isSegment_of_mem_placeOf {t s : Text} (h : s ∈ placeOf t) : IsSegment s :=
  isSegment_of_mem_collapse h

theorem up_notMem_placeOf {t : Text} (h : (ofText t).isAbsolute = true) : up ∉ placeOf t := by
  rw [placeOf_eq_land h]
  exact up_notMem_land List.not_mem_nil _

theorem isAbsolute_joinText {a : Text} (h : (ofText a).isAbsolute = true) (b : Text) :
    (ofText (joinText a b)).isAbsolute = true := by
  rw [ofText_joinText]
  cases hb : (ofText b).isAbsolute with
  | true => rw [join_eq_of_isAbsolute _ hb, hb]
  | false =>
    rw [join_eq_of_relative _ hb]
    exact h

/-- Names from an absolute directory lead on from its place. -/
theorem placeOf_joinText {a b : Text} (ha : (ofText a).isAbsolute = true)
    (hb : (ofText b).isAbsolute = false) :
    placeOf (joinText a b) = land (placeOf a) (ofText b).segments := by
  rw [placeOf_eq_land (isAbsolute_joinText ha b), ofText_joinText, join_eq_of_relative _ hb,
    land_append, placeOf_eq_land ha]

theorem IsPlain.joinText {a b : Text} (ha : IsPlain a) (hb : IsPlain b) :
    IsPlain (joinText a b) where
  backslash_notMem h := by
    rcases mem_joinText h with h | h | h
    · exact ha.backslash_notMem h
    · exact hb.backslash_notMem h
    · cases h
  nul_notMem h := by
    rcases mem_joinText h with h | h | h
    · exact ha.nul_notMem h
    · exact hb.nul_notMem h
    · cases h

/-- A name without NUL characters is resolved to the place that it leads to. -/
theorem resolve_ofText {cwd t : Text} (hcwd : IsStart cwd) (ht : IsPlain t) :
    resolve (ofText cwd) (ofText t) = .ok ⟨.root, placeOf (joinText cwd t)⟩ := by
  refine resolve_eq_ok_iff.2 ⟨fun s hs hnul => ?_, ?_⟩
  · rw [← ofText_joinText] at hs
    exact (hcwd.toIsPlain.joinText ht).nul_notMem (mem_of_mem_segments hs hnul)
  · rw [placeOf_eq_land (isAbsolute_joinText hcwd.isAbsolute t), ofText_joinText]

/-- Backslashes apart, the segments of a place are read back. -/
theorem slashedSegments_placeOf {t : Text} (ht : IsPlain t) (h : (ofText t).isAbsolute = true) :
    slashedSegments ⟨.root, placeOf t⟩ = placeOf t := by
  have hclean : '\\' ∉ (Path.mk .root (placeOf t)).toText := by
    intro hb
    rcases mem_toText hb with hb | hb | ⟨s, hs, hb⟩
    · cases hb
    · cases hb
    · exact ht.backslash_notMem (mem_of_mem_segments (collapseSegments_subset _ _ hs) hb)
  have hread : ofText (Path.mk .root (placeOf t)).toText = ⟨.root, placeOf t⟩ :=
    ofText_toText fun s hs => isSegment_of_mem_placeOf hs
  rw [slashedSegments, slashed_eq_self hclean, hread]
  exact (collapseSegments_true (placeOf t)).trans (land_names [] (up_notMem_placeOf h))

/-! ### Labels -/

/-- The label of an entry file is the way from the root to the place that its name leads to. -/
theorem entryLabel_eq {root cwd t : Text} (hroot : IsStart root) (hcwd : IsStart cwd)
    (ht : IsPlain t) : entryLabel (ofText t) (ofText root) (ofText cwd) =
      .ok (relativeTo (placeOf root) (placeOf (joinText cwd t))).toText := by
  have hsame : joinText cwd root = root := if_pos ((isAbsolute_ofText root).1 hroot.isAbsolute)
  have hbase := resolve_ofText hcwd hroot.toIsPlain
  rw [hsame] at hbase
  have htarget := slashedSegments_placeOf (hcwd.toIsPlain.joinText ht)
    (isAbsolute_joinText hcwd.isAbsolute t)
  rw [entryLabel, resolve_ofText hcwd ht, hbase]
  change Except.ok (relativeTo (slashedSegments _) (slashedSegments _)).toText = _
  rw [htarget, slashedSegments_placeOf hroot.toIsPlain hroot.isAbsolute]

theorem isSegment_of_mem_stepsTo {base target : List Text} (h : ∀ s ∈ target, IsSegment s) :
    ∀ s ∈ stepsTo base target, IsSegment s := by
  obtain ⟨k, names, heq, hsuffix⟩ := exists_stepsTo_eq base target
  rw [heq]
  exact isSegment_of_climb fun s hs => h s (hsuffix.subset hs)

theorem ofText_relativeTo {base target : List Text} (h : ∀ s ∈ target, IsSegment s) :
    ofText (relativeTo base target).toText = relative (stepsTo base target) :=
  ofText_toText (isSegment_of_mem_stepsTo h)

theorem isNormal_relativeTo {base target : List Text} (h : ∀ s ∈ target, IsSegment s)
    (hup : up ∉ target) : IsNormal (relativeTo base target).toText := by
  obtain ⟨k, names, heq, hsuffix⟩ := exists_stepsTo_eq base target
  refine ⟨.relative, k, names, fun hne => absurd rfl hne, fun s hs => ⟨?_, ?_⟩, ?_⟩
  · exact h s (hsuffix.subset hs)
  · exact fun hs' => hup (hs' ▸ hsuffix.subset hs)
  · rw [relativeTo, heq]

/-- The way to a place leads there from the root. -/
theorem placeOf_joinText_relativeTo {root : Text} (hroot : (ofText root).isAbsolute = true)
    {target : List Text} (h : ∀ s ∈ target, IsSegment s) (hup : up ∉ target) :
    placeOf (joinText root (relativeTo (placeOf root) target).toText) = target := by
  have hread : ofText (relativeTo (placeOf root) target).toText =
      relative (stepsTo (placeOf root) target) := ofText_relativeTo h
  rw [placeOf_joinText hroot (by rw [hread, isAbsolute_relative]), hread, segments_relative]
  exact land_stepsTo [] (placeOf root) hup

end Path

/-! ### Runs of a project -/

theorem Logged.bind_congr {ε α β : Type} {x : Logged ε α} {a : α} (hx : x.result = .ok a)
    {f g : α → Logged ε β} (h : f a = g a) : x >>= f = x >>= g := by
  simp only [Bind.bind, Logged.bind, hx, h]

/-- An absolute configuration file is found from everywhere. -/
theorem Config.load_eq {env : Environment} {tree : FileTree} {root : Path}
    (hroot : root.isAbsolute = true) (cwd cwd' : Path) :
    load env tree cwd none (some root) = load env tree cwd' none (some root) := by
  have hplaces : ∀ p ∈ places root, ∀ dir : Path, dir.join p = p := by
    intro p hp dir
    refine Path.join_eq_of_isAbsolute dir ?_
    rcases List.mem_pair.1 hp with rfl | rfl
    · exact hroot
    · exact hroot
  have hfind : ∀ dir, findFile tree dir root = (places root).find? fun p => tree.isFile p :=
    fun dir => List.find?_congr fun p hp => by rw [hplaces p hp dir]
  unfold load
  simp only [Option.none_or, Option.bind_some, hfind]
  split
  · rename_i p hp
    have hmem := List.mem_of_find?_eq_some hp
    simp only [readFile, hplaces p hmem]
  · rfl

namespace Project

/-- What is found when a root is found. -/
theorem findRoot_eq {tree : FileTree} {markers : List Text} {cwd start root : Path}
    (h : (findRoot tree markers cwd start).result = .ok root) :
    root.anchor = .root ∧ ∃ marker,
      markers.find? (fun m => tree.isFile (root.child m)) = some marker ∧
      findRoot tree markers cwd start = ⟨[⟨.debug, Log.loggerOf "config",
        "Project root: ".toList ++ root.toText ++ " (".toList ++ marker ++ [')'], []⟩],
        .ok root⟩ := by
  unfold findRoot at h ⊢
  split at h
  · cases h
  · rename_i place hplace
    split at h
    · rename_i dir marker hfirst
      obtain rfl : dir = root := Except.ok.inj h
      obtain ⟨dir', hdir, hmarker⟩ := List.exists_of_findSome?_eq_some hfirst
      obtain ⟨marker', hm, heq⟩ := Option.map_eq_some_iff.1 hmarker
      obtain ⟨rfl, rfl⟩ := Prod.mk.inj heq
      refine ⟨?_, marker', hm, rfl⟩
      rw [(Path.resolve_eq_ok_iff.1 hplace).2] at hdir
      rcases List.mem_cons.1 hdir with rfl | hdir
      · rfl
      · obtain ⟨n, -, rfl⟩ := List.mem_map.1 hdir
        rfl
    · cases h

/-- Two working directories of one project find its root in the same way. -/
theorem findRoot_congr {tree : FileTree} {markers : List Text} {cwd start cwd' start' root : Path}
    (h : (findRoot tree markers cwd start).result = .ok root)
    (h' : (findRoot tree markers cwd' start').result = .ok root) :
    findRoot tree markers cwd start = findRoot tree markers cwd' start' := by
  obtain ⟨-, m, hm, heq⟩ := findRoot_eq h
  obtain ⟨-, m', hm', heq'⟩ := findRoot_eq h'
  obtain rfl : m = m' := Option.some.inj (hm.symm.trans hm')
  rw [heq, heq']

/-- Names that lead to the same places from two working directories. -/
def SamePlaces (cwd cwd' : Text) : List Text → List Text → Prop :=
  List.Forall₂ fun t t' => Path.IsPlain t ∧ Path.IsPlain t' ∧
    Path.placeOf (Path.joinText cwd t) = Path.placeOf (Path.joinText cwd' t')

theorem entries_congr {root cwd cwd' : Text} (hroot : Path.IsStart root) (hcwd : Path.IsStart cwd)
    (hcwd' : Path.IsStart cwd') {files files' : List Text} (h : SamePlaces cwd cwd' files files') :
    entries (Path.ofText cwd) (Path.ofText root) files =
      entries (Path.ofText cwd') (Path.ofText root) files' := by
  induction h with
  | nil => rfl
  | cons hplace _ ih =>
    obtain ⟨ht, ht', heq⟩ := hplace
    have hlabel := (Path.entryLabel_eq hroot hcwd ht).trans
      (heq ▸ (Path.entryLabel_eq hroot hcwd' ht').symm)
    unfold entries at ih ⊢
    rw [List.mapM_cons, List.mapM_cons, hlabel, ih]

/-- A root that is absolute is made ready from everywhere. -/
theorem setup_eq {codecs : Codecs} {tree : FileTree} {limit : Nat} {root : Path}
    (hroot : root.isAbsolute = true) (cwd cwd' : Path) (c : Config) :
    setup codecs tree limit cwd root c = setup codecs tree limit cwd' root c := by
  have hresolve : Path.resolve cwd root = Path.resolve cwd' root := by
    simp only [Path.resolve, Path.join_eq_of_isAbsolute _ hroot]
  simp only [setup, lookup, hresolve]

/-- Runs of one project that name the same places are the same. -/
theorem flatten_eq_of_places (env : Environment) (codecs : Codecs) (tree : FileTree)
    (limit : Nat) (config : Option Config) {root cwd cwd' : Text} (hroot : Path.IsStart root)
    (hcwd : Path.IsStart cwd) (hcwd' : Path.IsStart cwd')
    (hfind : (findRoot tree markers (Path.ofText cwd) (Path.ofText cwd)).result =
      .ok (Path.ofText root))
    (hfind' : (findRoot tree markers (Path.ofText cwd') (Path.ofText cwd')).result =
      .ok (Path.ofText root))
    {files files' : List Text} (hfiles : SamePlaces cwd cwd' files files') :
    flatten env codecs tree limit (Path.ofText cwd) config files =
      flatten env codecs tree limit (Path.ofText cwd') config files' := by
  unfold flatten
  rw [← findRoot_congr hfind hfind']
  refine Logged.bind_congr hfind ?_
  simp only [Config.load_eq hroot.isAbsolute _ (Path.ofText cwd'),
    entries_congr hroot hcwd hcwd' hfiles, setup_eq hroot.isAbsolute _ (Path.ofText cwd')]

/-- The label of an entry file is a relative path in normal form that leads from the root to the
place that was named. It is the same for two names, from whatever directories, just if they lead to
the same place. So a run depends on the places of its entry files only. -/
theorem entryLabel_leads {root : Text} (hroot : Path.IsStart root) :
    (∀ cwd t, Path.IsStart cwd → Path.IsPlain t → ∃ label,
      Path.entryLabel (Path.ofText t) (Path.ofText root) (Path.ofText cwd) = .ok label ∧
      Path.IsNormal label ∧ (Path.ofText label).isAbsolute = false ∧
      Path.placeOf (Path.joinText root label) = Path.placeOf (Path.joinText cwd t)) ∧
    (∀ cwd t cwd' t', Path.IsStart cwd → Path.IsPlain t → Path.IsStart cwd' → Path.IsPlain t' →
      (Path.entryLabel (Path.ofText t) (Path.ofText root) (Path.ofText cwd) =
          Path.entryLabel (Path.ofText t') (Path.ofText root) (Path.ofText cwd') ↔
        Path.placeOf (Path.joinText cwd t) = Path.placeOf (Path.joinText cwd' t'))) ∧
    ∀ env codecs tree limit config cwd cwd' files files',
      Path.IsStart cwd → Path.IsStart cwd' →
      (findRoot tree markers (Path.ofText cwd) (Path.ofText cwd)).result = .ok (Path.ofText root) →
      (findRoot tree markers (Path.ofText cwd') (Path.ofText cwd')).result =
        .ok (Path.ofText root) →
      SamePlaces cwd cwd' files files' →
      flatten env codecs tree limit (Path.ofText cwd) config files =
        flatten env codecs tree limit (Path.ofText cwd') config files' := by
  have hsegment : ∀ t, ∀ s ∈ Path.placeOf t, Path.IsSegment s :=
    fun _ _ hs => Path.isSegment_of_mem_placeOf hs
  have hup : ∀ cwd t, Path.IsStart cwd → Path.up ∉ Path.placeOf (Path.joinText cwd t) :=
    fun _ t hcwd => Path.up_notMem_placeOf (Path.isAbsolute_joinText hcwd.isAbsolute t)
  have hlead : ∀ cwd t, Path.IsStart cwd →
      Path.placeOf (Path.joinText root (Path.relativeTo (Path.placeOf root)
        (Path.placeOf (Path.joinText cwd t))).toText) = Path.placeOf (Path.joinText cwd t) :=
    fun cwd t hcwd =>
      Path.placeOf_joinText_relativeTo hroot.isAbsolute (hsegment _) (hup cwd t hcwd)
  refine ⟨fun cwd t hcwd ht => ?_, fun cwd t cwd' t' hcwd ht hcwd' ht' => ?_, ?_⟩
  · refine ⟨_, Path.entryLabel_eq hroot hcwd ht, ?_, ?_, hlead cwd t hcwd⟩
    · exact Path.isNormal_relativeTo (hsegment _) (hup cwd t hcwd)
    · rw [Path.ofText_relativeTo (hsegment _), Path.isAbsolute_relative]
  · rw [Path.entryLabel_eq hroot hcwd ht, Path.entryLabel_eq hroot hcwd' ht']
    constructor
    · intro h
      -- equal labels lead to equal places
      rw [← hlead cwd t hcwd, ← hlead cwd' t' hcwd', Except.ok.inj h]
    · intro h
      rw [h]
  · exact fun env codecs tree limit config cwd cwd' files files' hcwd hcwd' hfind hfind' hfiles =>
      flatten_eq_of_places env codecs tree limit config hroot hcwd hcwd' hfind hfind' hfiles

/-- A project at `/w/p` with a directory `a` and a file `c` that imports nothing. -/
def loneFile : FileTree :=
  ⟨[([['w']], .directory), ([['w'], ['p']], .directory), ([['w'], ['p'], ['a']], .directory),
    ([['w'], ['p'], "solflat.yaml".toList], .file []), ([['w'], ['p'], ['c']], .file [])]⟩

/-- The file `c` of that project, named from two of its directories. -/
theorem entryLabel_leads_loneFile :
    (Path.placeOf (Path.joinText "/w/p/a".toList "..//./c".toList) =
        Path.placeOf (Path.joinText "/w/p".toList "/x/../w/p/c".toList)) ∧
      Path.entryLabel (Path.ofText "..//./c".toList) (Path.ofText "/w/p".toList)
          (Path.ofText "/w/p/a".toList) =
        Path.entryLabel (Path.ofText "/x/../w/p/c".toList) (Path.ofText "/w/p".toList)
          (Path.ofText "/w/p".toList) ∧
      ∀ codecs limit,
        flatten [] codecs loneFile limit (Path.ofText "/w/p/a".toList) none ["..//./c".toList] =
          flatten [] codecs loneFile limit (Path.ofText "/w/p".toList) none
            ["/x/../w/p/c".toList] := by
  have hroot : Path.IsStart "/w/p".toList := ⟨⟨by decide, by decide⟩, by decide⟩
  have hcwd : Path.IsStart "/w/p/a".toList := ⟨⟨by decide, by decide⟩, by decide⟩
  have hname : Path.IsPlain "..//./c".toList := ⟨by decide, by decide⟩
  have hname' : Path.IsPlain "/x/../w/p/c".toList := ⟨by decide, by decide⟩
  have hplace : Path.placeOf (Path.joinText "/w/p/a".toList "..//./c".toList) =
      Path.placeOf (Path.joinText "/w/p".toList "/x/../w/p/c".toList) := by decide
  obtain ⟨-, hlabel, hrun⟩ := entryLabel_leads hroot
  refine ⟨hplace, (hlabel _ _ _ _ hcwd hname hroot hname').2 hplace, fun codecs limit => ?_⟩
  exact hrun [] codecs loneFile limit none _ _ _ _ hcwd hroot (by decide +kernel)
    (by decide +kernel) (.cons ⟨hname, hname', hplace⟩ .nil)

end Project

end Flattener
