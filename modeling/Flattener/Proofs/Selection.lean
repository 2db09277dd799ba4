import Flattener.Project.Lookup
import Flattener.Proofs.Paths

/-!
# Which file a specifier selects

A path is followed in a file tree directory by directory. If it leads anywhere, it leads to the
place that its segments name (`FileTree.eq_land_of_follow`), and every place on the way down to
that one is a directory (`FileTree.Standing`); so any other way that names the same place and
starts in an existing directory leads there too.

A relative name is looked for in the root and in each package directory, in order
(`Lookup.bases`); an absolute one is looked for where it says. `Lookup.Selects` relates a specifier
to the place of the file that is found for it, and `Lookup.resolve` reads the file there.

* `FileTree.follow_of_standing`: an existing place is reached from every directory.
* `Lookup.resolve_eq_ok_iff`: what a specifier is resolved to.
* `Lookup.place?_relative` and `Lookup.place?_absolute`: what a name in normal form selects.
* `Lookup.place?_packageLabel`: the label of a file selects that file.
-/

namespace Flattener

/-! ### Following a path in a tree -/

namespace FileTree

variable {t : FileTree}

theorem follow_cons_up {here : Place} (h : t.entryAt? here = some .directory)
    (segments : List Text) :
    t.follow here (Path.up :: segments) = t.follow here.dropLast segments := by
  rw [follow, if_pos h, if_pos rfl]

theorem follow_cons_name {here : Place} (h : t.entryAt? here = some .directory) {s : Text}
    (hs : s ≠ Path.up) (he : (t.entryAt? (here ++ [s])).isSome) (segments : List Text) :
    t.follow here (s :: segments) = t.follow (here ++ [s]) segments := by
  rw [follow, if_pos h, if_neg hs, if_pos he]

/-- The first step of a path that leads somewhere. -/
theorem follow_cons_eq_some {here place : Place} {s : Text} {segments : List Text}
    (h : t.follow here (s :: segments) = some place) : t.entryAt? here = some .directory ∧
      (s = Path.up ∧ t.follow here.dropLast segments = some place ∨
        s ≠ Path.up ∧ (t.entryAt? (here ++ [s])).isSome ∧
          t.follow (here ++ [s]) segments = some place) := by
  rw [follow] at h
  split at h
  · rename_i hdir
    refine ⟨hdir, ?_⟩
    split at h
    · exact .inl ⟨‹_›, h⟩
    · split at h
      · exact .inr ⟨‹_›, ‹_›, h⟩
      · cases h
  · cases h

theorem follow_append (here : Place) (a b : List Text) :
    t.follow here (a ++ b) = (t.follow here a).bind fun place => t.follow place b := by
  induction a generalizing here with
  | nil => rfl
  | cons s a ih =>
    rw [List.cons_append, follow, follow]
    split
    · split
      · exact ih _
      · split
        · exact ih _
        · rfl
    · rfl

/-- A path leads to the place that its segments name, if it leads anywhere. -/
theorem eq_land_of_follow {here place : Place} {segments : List Text}
    (h : t.follow here segments = some place) : place = Path.land here segments := by
  induction segments generalizing here with
  | nil => exact (Option.some.inj h).symm
  | cons s segments ih =>
    obtain ⟨-, ⟨rfl, hrest⟩ | ⟨hs, -, hrest⟩⟩ := follow_cons_eq_some h
    · exact (ih hrest).trans (Path.land_cons_up here segments).symm
    · rw [ih hrest, Path.land, Path.land, List.foldl_cons, if_neg hs]

/-- A place that exists, and with it all directories above it. -/
structure Standing (t : FileTree) (place : Place) : Prop where
  exists_entry : (t.entryAt? place).isSome
  directory_above : ∀ above, above <+: place → above ≠ place → t.entryAt? above = some .directory

namespace Standing

theorem root : t.Standing [] where
  exists_entry := rfl
  directory_above := fun _ h hne => absurd (List.prefix_nil.1 h) hne

theorem above {place above : Place} (h : t.Standing place) (hp : above <+: place) :
    t.Standing above where
  exists_entry := by
    by_cases hne : above = place
    · exact hne ▸ h.exists_entry
    · rw [h.directory_above above hp hne]
      rfl
  directory_above := fun q hq hne => h.directory_above q (hq.trans hp) fun heq =>
    hne (hq.eq_of_length (Nat.le_antisymm hq.length_le (heq ▸ hp.length_le)))

theorem child {place : Place} (h : t.Standing place) (hd : t.entryAt? place = some .directory)
    {s : Text} (he : (t.entryAt? (place ++ [s])).isSome) : t.Standing (place ++ [s]) where
  exists_entry := he
  directory_above := fun above hp hne => by
    rcases List.prefix_concat_iff.1 hp with heq | hp
    · exact absurd heq hne
    · by_cases heq : above = place
      · exact heq ▸ hd
      · exact h.directory_above above hp heq

/-- A path from an existing place leads to an existing place only. -/
theorem of_follow {here place : Place} {segments : List Text} (hs : t.Standing here)
    (h : t.follow here segments = some place) : t.Standing place := by
  induction segments generalizing here with
  | nil => exact Option.some.inj h ▸ hs
  | cons s segments ih =>
    obtain ⟨hd, ⟨-, hrest⟩ | ⟨-, he, hrest⟩⟩ := follow_cons_eq_some h
    · exact ih (hs.above (List.dropLast_prefix here)) hrest
    · exact ih (hs.child hd he) hrest

/-- Above an existing directory there is a directory, the root being above itself. -/
theorem directory_dropLast {here : Place} (hs : t.Standing here)
    (hd : t.entryAt? here = some .directory) : t.entryAt? here.dropLast = some .directory := by
  by_cases hne : here.dropLast = here
  · rw [hne]
    exact hd
  · exact hs.directory_above _ (List.dropLast_prefix here) hne

end Standing

/-- Climbing from an existing directory. -/
theorem follow_replicate_up {here : Place} (hs : t.Standing here)
    (hd : t.entryAt? here = some .directory) (k : Nat) (segments : List Text) :
    t.follow here (List.replicate k Path.up ++ segments) =
      t.follow (List.dropLast^[k] here) segments := by
  induction k generalizing here with
  | zero => rfl
  | succ k ih =>
    rw [List.replicate_succ, List.cons_append, follow_cons_up hd,
      ih (hs.above (List.dropLast_prefix here)) (hs.directory_dropLast hd),
      Function.iterate_succ_apply]

/-- Descending to an existing place. -/
theorem follow_names {here : Place} {names : List Text} (hup : Path.up ∉ names)
    (hs : t.Standing (here ++ names)) : t.follow here names = some (here ++ names) := by
  induction names generalizing here with
  | nil => rw [List.append_nil]; rfl
  | cons s names ih =>
    have hsplit : here ++ s :: names = here ++ [s] ++ names := by simp
    have hd : t.entryAt? here = some .directory :=
      hs.directory_above here (List.prefix_append _ _) (by simp)
    have hchild : t.Standing (here ++ [s]) :=
      hs.above (hsplit ▸ List.prefix_append _ names)
    have hne : s ≠ Path.up := fun h => hup (h ▸ List.mem_cons_self)
    rw [follow_cons_name hd hne hchild.exists_entry,
      ih (fun h => hup (List.mem_cons_of_mem s h)) (hsplit ▸ hs), hsplit]

/-- An existing place is reached from every existing directory along collapsed segments that name
it from there. -/
theorem follow_of_standing {here : Place} {segments : List Text} (hs : t.Standing here)
    (hd : t.entryAt? here = some .directory)
    (hp : t.Standing (Path.land here segments)) :
    t.follow here (Path.collapseSegments false segments) = some (Path.land here segments) := by
  obtain ⟨k, names, hc, hup, hland⟩ := Path.collapse_relative segments
  rw [hland] at hp ⊢
  -- only the way down has to exist: what the segments passed through before does not matter
  rw [hc, follow_replicate_up hs hd]
  exact follow_names hup hp

/-- A file is found at a path. -/
theorem isFile_iff {p : Path} : t.isFile p ↔
    ∃ place bytes, t.follow [] p.segments = some place ∧ t.entryAt? place = some (.file bytes) := by
  unfold isFile find? locate
  cases h : t.follow [] p.segments with
  | none => simp
  | some place =>
    cases he : t.entryAt? place with
    | none => simp [he]
    | some e => cases e <;> simp [he]

/-- Names that lead to a file from the root are its place. -/
theorem locate_of_isFile {place : Place} (hup : Path.up ∉ place)
    (h : t.isFile ⟨.root, place⟩) : t.locate ⟨.root, place⟩ = some place := by
  obtain ⟨f, -, hf, -⟩ := isFile_iff.1 h
  have hplace : f = place := (eq_land_of_follow hf).trans (Path.land_names [] hup)
  rw [← hplace] at hf ⊢
  exact hf

end FileTree

/-! ### Selecting a file -/

namespace Lookup

variable {l : Lookup} {tree : FileTree}

/-- The directories that relative names are looked for in, in order. -/
def bases (l : Lookup) : List Path := l.root :: l.packageDirs.map l.root.child

/-- The first candidate for a name that is a file. -/
def found? (l : Lookup) (tree : FileTree) (name : Text) : Option Candidate :=
  (l.candidates name).toOption.bind (firstFile tree)

/-- The place of the file that is found under a name. -/
def place? (l : Lookup) (tree : FileTree) (name : Text) : Option Place :=
  (l.found? tree name).bind fun c => tree.locate c.path

/-- The file that a specifier stands for is the one at a place. -/
def Selects (l : Lookup) (tree : FileTree) (specifier : Text) (place : Place) : Prop :=
  l.place? tree (Path.slashed specifier) = some place

instance (l : Lookup) (tree : FileTree) (specifier : Text) (place : Place) :
    Decidable (l.Selects tree specifier place) := inferInstanceAs (Decidable (_ = _))

theorem found?_eq_some_iff {name : Text} {c : Candidate} : l.found? tree name = some c ↔
    ∃ cs, l.candidates name = .ok cs ∧ firstFile tree cs = some c := by
  simp only [found?, Option.bind_eq_some_iff, toOption_eq_some_iff]

theorem place?_of_found {name : Text} {c : Candidate} (h : l.found? tree name = some c) :
    l.place? tree name = tree.locate c.path := by
  rw [place?, h]
  rfl

theorem isFile_of_found {name : Text} {c : Candidate} (h : l.found? tree name = some c) :
    tree.isFile c.path := by
  obtain ⟨cs, -, hc⟩ := found?_eq_some_iff.1 h
  unfold firstFile at hc
  simpa using List.find?_some hc

/-- A specifier is resolved to the text of the file that it selects and to its label. -/
theorem resolve_eq_ok_iff {specifier : Text} {r : Resolved} : l.resolve tree specifier = .ok r ↔
    ∃ c, l.found? tree (Path.slashed specifier) = some c ∧
      l.readText tree (Path.slashed specifier) c.path = .ok r.content ∧
      r.path = l.packageLabel tree c := by
  constructor
  · intro h
    obtain ⟨cs, hcs, h⟩ := bind_eq_ok_iff.1 h
    split at h
    · rename_i c hc
      obtain ⟨content, hread, h⟩ := bind_eq_ok_iff.1 h
      cases h
      exact ⟨c, found?_eq_some_iff.2 ⟨cs, mapError_eq_ok_iff.1 hcs, hc⟩, hread, rfl⟩
    · cases h
  · rintro ⟨c, hfound, hread, hpath⟩
    obtain ⟨cs, hcs, hc⟩ := found?_eq_some_iff.1 hfound
    refine bind_eq_ok_iff.2 ⟨cs, mapError_eq_ok_iff.2 hcs, ?_⟩
    rw [hc]
    exact bind_eq_ok_iff.2 ⟨r.content, hread, by rw [← hpath]; rfl⟩

/-- What is read depends on the place that the path leads to, and on nothing else of it. -/
theorem readText_of_locate {specifier specifier' content : Text} {path path' : Path}
    (hloc : tree.locate path' = tree.locate path)
    (h : l.readText tree specifier path = .ok content) :
    l.readText tree specifier' path' = .ok content := by
  have hread : tree.read? path' = tree.read? path := by
    rw [FileTree.read?, FileTree.read?, FileTree.find?, FileTree.find?, hloc]
  obtain ⟨codec, hcodec, h⟩ := bind_eq_ok_iff.1 h
  refine bind_eq_ok_iff.2 ⟨codec, hcodec, ?_⟩
  rw [hread]
  split at h
  · exact h
  · cases h
  · cases h

/-- An empty file can be read with the codec that is customary among those built in. -/
theorem readText_of_empty (hl : l.encoding = .null) (hc : l.codecs = .builtIn) {path : Path}
    (h : tree.read? path = some []) (specifier : Text) :
    l.readText tree specifier path = .ok [] := by
  have hcodec : l.codecs.ofSetting l.encoding = .ok Encoding.utf8.codec := by
    rw [hl, hc]
    rfl
  have hempty : Encoding.utf8.decode [] = .ok [] := by
    rw [Encoding.decode, Encoding.decodeUtf8, Utf8.decode, Utf8.decodeFrom]
    rfl
  have hdecode : Encoding.utf8.codec.decode [] = .ok [] :=
    congrArg (Except.mapError CodecFault.located) hempty
  rw [readText, hcodec, h]
  simp only [Except.mapError, Option.getD_some, bind, Except.bind, hdecode]
  rfl

/-- A relative name is looked for in all directories under its normal form. -/
theorem candidates_relative {name : Text} (h : (Path.ofText name).isAbsolute = false) :
    l.candidates name =
      .ok (l.bases.map fun b => ⟨b.child (Path.normalize name), Path.normalize name⟩) := by
  unfold candidates
  rw [if_neg (by simp [h])]
  simp [bases]

theorem found?_normalize {name : Text} (h : (Path.ofText name).isAbsolute = false) :
    l.found? tree (Path.normalize name) = l.found? tree name := by
  have hrel : (Path.ofText (Path.normalize name)).isAbsolute = false := by
    rw [Path.ofText_normalize h, Path.isAbsolute_relative]
  rw [found?, found?, candidates_relative h, candidates_relative hrel, Path.normalize_normalize h]

/-- Segments as a relative name has them in normal form. -/
structure IsName (segments : List Text) : Prop where
  isSegment : ∀ s ∈ segments, Path.IsSegment s
  collapse_eq : Path.collapseSegments false segments = segments

theorem IsName.ofText_toText {n : List Text} (h : IsName n) :
    Path.ofText (Path.relative n).toText = Path.relative n :=
  Path.ofText_toText h.isSegment

theorem IsName.normalize_toText {n : List Text} (h : IsName n) :
    Path.normalize (Path.relative n).toText = (Path.relative n).toText := by
  rw [Path.normalize_eq (by rw [h.ofText_toText, Path.isAbsolute_relative]), h.ofText_toText,
    Path.segments_relative, h.collapse_eq]

theorem isName_collapse (t : Text) :
    IsName (Path.collapseSegments false (Path.ofText t).segments) where
  isSegment := fun _ hs => Path.isSegment_of_mem_collapse hs
  collapse_eq := Path.collapse_collapse _

/-- Names that lead down to a place. -/
structure IsDescent (names : List Text) : Prop where
  isSegment : ∀ s ∈ names, Path.IsSegment s
  up_notMem : Path.up ∉ names

namespace IsDescent

variable {names : List Text}

theorem isName (h : IsDescent names) : IsName names where
  isSegment := h.isSegment
  collapse_eq := Path.collapseSegments_append_names false [] h.up_notMem

theorem of_suffix (h : IsDescent names) {below : List Text} (hb : below <:+ names) :
    IsDescent below where
  isSegment := fun s hs => h.isSegment s (hb.subset hs)
  up_notMem := fun hm => h.up_notMem (hb.subset hm)

theorem of_below? (h : IsDescent names) {base below : List Text}
    (hb : Path.below? base names = some below) : IsDescent below :=
  h.of_suffix ⟨base, (Path.below?_eq_some.1 hb).symm⟩

/-- An absolute path leads down to a place. -/
theorem land (t : Text) : IsDescent (Path.land [] (Path.ofText t).segments) where
  isSegment := fun _ hs => Path.isSegment_of_mem (Path.land_subset _ hs)
  up_notMem := Path.up_notMem_land List.not_mem_nil _

end IsDescent

theorem segments_join_relative (b : Path) (n : List Text) :
    (b.join (Path.relative n)).segments = b.segments ++ n := rfl

/-- The first directory in which a relative name leads to a file. -/
def baseOf? (l : Lookup) (tree : FileTree) (n : List Text) : Option Path :=
  l.bases.find? fun b => tree.isFile (b.join (Path.relative n))

/-- A relative name leads to the first file under that name in one of the directories. -/
theorem found?_relative {n : List Text} (h : IsName n) :
    l.found? tree (Path.relative n).toText = (l.baseOf? tree n).map fun b =>
      ⟨b.join (Path.relative n), (Path.relative n).toText⟩ := by
  have hrel : (Path.ofText (Path.relative n).toText).isAbsolute = false := by
    rw [h.ofText_toText, Path.isAbsolute_relative]
  rw [found?, candidates_relative hrel, h.normalize_toText]
  simp only [Path.child, h.ofText_toText, Except.toOption, Option.bind_some, firstFile, baseOf?,
    List.find?_map]
  rfl

theorem place?_relative {n : List Text} (h : IsName n) :
    l.place? tree (Path.relative n).toText = (l.baseOf? tree n).bind fun b =>
      tree.locate (b.join (Path.relative n)) := by
  rw [place?, found?_relative h]
  cases l.baseOf? tree n <;> rfl

/-! ### Absolute names -/

/-- The label of a file as seen from the root, if it lies there. -/
def plainLabel (l : Lookup) (place : Place) : Text :=
  match Path.below? l.root.segments place with
  | some segments => (Path.relative segments).toText
  | none => (Path.mk .root place).toText

/-- An absolute name is looked for where it says. -/
theorem candidates_absolute {name : Text} (h : (Path.ofText name).isAbsolute = true)
    {cs : List Candidate} : l.candidates name = .ok cs ↔
      (∀ s ∈ (Path.ofText name).segments, '\x00' ∉ s) ∧
        cs = [⟨⟨.root, Path.land [] (Path.ofText name).segments⟩,
          l.plainLabel (Path.land [] (Path.ofText name).segments)⟩] := by
  have hjoin : l.root.join (Path.ofText name) = Path.ofText name := by rw [Path.join, if_pos h]
  unfold candidates
  rw [if_pos h, bind_eq_ok_iff]
  constructor
  · rintro ⟨place, hplace, hcs⟩
    obtain ⟨hnul, rfl⟩ := Path.resolve_eq_ok_iff.1 hplace
    rw [hjoin] at hnul hcs
    exact ⟨hnul, (Except.ok.inj hcs).symm⟩
  · rintro ⟨hnul, rfl⟩
    exact ⟨_, Path.resolve_eq_ok_iff.2 ⟨by rwa [hjoin], rfl⟩, by rw [hjoin]; rfl⟩

theorem found?_absolute {name : Text} (h : (Path.ofText name).isAbsolute = true) {c : Candidate} :
    l.found? tree name = some c ↔
      (∀ s ∈ (Path.ofText name).segments, '\x00' ∉ s) ∧
        c = ⟨⟨.root, Path.land [] (Path.ofText name).segments⟩,
          l.plainLabel (Path.land [] (Path.ofText name).segments)⟩ ∧ tree.isFile c.path := by
  rw [found?_eq_some_iff]
  constructor
  · rintro ⟨cs, hcs, hc⟩
    obtain ⟨hnul, rfl⟩ := (candidates_absolute h).1 hcs
    rw [firstFile, List.find?_singleton] at hc
    split at hc
    · obtain rfl := Option.some.inj hc
      exact ⟨hnul, rfl, ‹_›⟩
    · cases hc
  · rintro ⟨hnul, rfl, hfile⟩
    exact ⟨_, (candidates_absolute h).2 ⟨hnul, rfl⟩, by
      rw [firstFile, List.find?_singleton, if_pos hfile]⟩

/-! ### Labels -/

/-- Labels are normal forms of relative paths or of places. -/
inductive IsLabel : Text → Prop where
  | relative {n : List Text} (h : IsName n) : IsLabel (Path.relative n).toText
  | absolute {place : Place} (h : IsDescent place) (hne : place ≠ []) :
    IsLabel (Path.mk .root place).toText

/-- The candidate for a relative name carries the normal form of the name. -/
theorem label_of_found {name : Text} (h : (Path.ofText name).isAbsolute = false) {c : Candidate}
    (hc : l.found? tree name = some c) : c.label = Path.normalize name := by
  obtain ⟨cs, hcs, hc⟩ := found?_eq_some_iff.1 hc
  rw [candidates_relative h] at hcs
  obtain rfl := Except.ok.inj hcs
  obtain ⟨b, -, rfl⟩ := List.mem_map.1 (List.mem_of_find?_eq_some hc)
  rfl

theorem isLabel_of_found {name : Text} {c : Candidate} (hc : l.found? tree name = some c) :
    IsLabel c.label := by
  cases h : (Path.ofText name).isAbsolute with
  | false =>
    rw [label_of_found h hc, Path.normalize_eq h]
    exact .relative (isName_collapse name)
  | true =>
    obtain ⟨-, rfl, hfile⟩ := (found?_absolute h).1 hc
    dsimp only [plainLabel]
    split
    · rename_i below hbelow
      exact .relative ((IsDescent.land name).of_below? hbelow).isName
    · refine .absolute (IsDescent.land name) fun hnil => ?_
      rw [hnil] at hfile
      cases hfile

/-- The characters of a label stand in the name, but for slashes and the point of the path that
stays where it is. -/
theorem mem_label {name : Text} {c : Candidate} (hc : l.found? tree name = some c) {ch : Char}
    (h : ch ∈ c.label) : ch = '/' ∨ ch = '.' ∨ ch ∈ name := by
  have hmem : ∀ p : Path, p.segments ⊆ (Path.ofText name).segments → ch ∈ p.toText →
      ch = '/' ∨ ch = '.' ∨ ch ∈ name := by
    intro p hp hch
    rcases Path.mem_toText hch with hch | hch | ⟨s, hs, hch⟩
    · exact .inl hch
    · exact .inr (.inl hch)
    · exact .inr (.inr (Path.mem_of_mem_segments (hp hs) hch))
  cases habs : (Path.ofText name).isAbsolute with
  | false =>
    rw [label_of_found habs hc, Path.normalize] at h
    exact hmem _ (Path.collapseSegments_subset _ _) h
  | true =>
    obtain ⟨-, rfl, -⟩ := (found?_absolute habs).1 hc
    have hsub := Path.land_subset (Path.ofText name).segments
    dsimp only [plainLabel] at h
    split at h
    · rename_i below hbelow
      rw [Path.below?_eq_some.1 hbelow] at hsub
      exact hmem _ (fun s hs => hsub (List.mem_append_right _ hs)) h
    · exact hmem _ hsub h

/-- The absolute name of a place selects the file there. -/
theorem place?_absolute {place f : Place} (hd : IsDescent place) :
    l.place? tree (Path.mk .root place).toText = some f ↔
      f = place ∧ (∀ s ∈ place, '\x00' ∉ s) ∧ tree.isFile ⟨.root, place⟩ := by
  have htext : Path.ofText (Path.mk .root place).toText = ⟨.root, place⟩ :=
    Path.ofText_toText hd.isSegment
  have habs : (Path.ofText (Path.mk .root place).toText).isAbsolute = true := by
    rw [htext]
    rfl
  have hland : Path.land [] place = place := Path.land_names [] hd.up_notMem
  rw [place?, Option.bind_eq_some_iff]
  simp only [found?_absolute habs, htext, hland]
  constructor
  · rintro ⟨c, ⟨hnul, rfl, hfile⟩, hloc⟩
    exact ⟨(FileTree.eq_land_of_follow hloc).trans hland, hnul, hfile⟩
  · rintro ⟨rfl, hnul, hfile⟩
    exact ⟨_, ⟨hnul, rfl, hfile⟩, FileTree.locate_of_isFile hd.up_notMem hfile⟩

/-- Seen from the root, a file has a label that selects it. -/
theorem place?_plainLabel {place : Place} (hd : IsDescent place) (hnul : ∀ s ∈ place, '\x00' ∉ s)
    (hfile : tree.isFile ⟨.root, place⟩) :
    l.place? tree (l.plainLabel place) = some place := by
  unfold plainLabel
  split
  · rename_i below hbelow
    have hname := (hd.of_below? hbelow).isName
    obtain rfl := Path.below?_eq_some.1 hbelow
    -- the root is searched first, so no package directory can come in between
    have hbase : l.baseOf? tree below = some l.root := List.find?_cons_of_pos hfile
    rw [place?_relative hname, hbase]
    exact FileTree.locate_of_isFile hd.up_notMem hfile
  · exact (place?_absolute hd).2 ⟨rfl, hnul, hfile⟩

/-- The label that a file has at first selects that file. -/
theorem place?_label {name : Text} {c : Candidate} (hc : l.found? tree name = some c) :
    l.place? tree c.label = tree.locate c.path := by
  cases h : (Path.ofText name).isAbsolute with
  | false =>
    rw [label_of_found h hc, place?, found?_normalize h, ← place?, place?_of_found hc]
  | true =>
    obtain ⟨hnul, rfl, hfile⟩ := (found?_absolute h).1 hc
    have hd := IsDescent.land name
    have hclean : ∀ s ∈ Path.land [] (Path.ofText name).segments, '\x00' ∉ s := fun s hs =>
      hnul s (Path.land_subset _ hs)
    rw [place?_plainLabel hd hclean hfile, FileTree.locate_of_isFile hd.up_notMem hfile]

/-! ### Labels from package directories -/

theorem inside_eq_some_iff {label dir rest : Text} {cs : List Candidate} :
    l.inside label dir = some (rest, cs) ↔
      Text.dropPrefix? (Path.normalize (Path.slashed dir) ++ ['/']) label = some rest ∧
        l.candidates rest = .ok cs := by
  unfold inside
  split
  · rename_i hdrop
    simp [hdrop]
  · rename_i rest' hdrop
    rw [hdrop, Option.some.injEq, ← toOption_eq_some_iff, Option.map_eq_some_iff]
    constructor
    · rintro ⟨_, hcs, h⟩
      cases h
      exact ⟨rfl, hcs⟩
    · rintro ⟨rfl, hcs⟩
      exact ⟨cs, hcs, rfl⟩

/-- A package directory is taken off a label just if the rest of the label selects the same file. -/
theorem stripDir_eq_some_iff {place : Place} {label dir rest : Text} :
    l.stripDir tree (some place) label dir = some rest ↔
      Text.dropPrefix? (Path.normalize (Path.slashed dir) ++ ['/']) label = some rest ∧
        l.place? tree rest = some place := by
  unfold stripDir
  constructor
  · intro h
    split at h
    · cases h
    · rename_i rest' cs hin
      obtain ⟨hdrop, hcs⟩ := inside_eq_some_iff.1 hin
      split at h
      · rename_i c hc
        split at h
        · rename_i hloc
          obtain rfl := Option.some.inj h
          exact ⟨hdrop, (place?_of_found (found?_eq_some_iff.2 ⟨cs, hcs, hc⟩)).trans hloc⟩
        · cases h
      · cases h
  · rintro ⟨hdrop, hplace⟩
    obtain ⟨c, hfound, hloc⟩ := Option.bind_eq_some_iff.1 hplace
    obtain ⟨cs, hcs, hc⟩ := found?_eq_some_iff.1 hfound
    rw [inside_eq_some_iff.2 ⟨hdrop, hcs⟩]
    simp only [hc, hloc, if_true]

/-- A file has the label of its candidate, or that label without a package directory. -/
theorem packageLabel_cases {c : Candidate} {place : Place} (h : tree.locate c.path = some place) :
    (l.packageLabel tree c = c.label ∧
      ∀ dir ∈ l.packageDirs, l.stripDir tree (some place) c.label dir = none) ∨
    ∃ dir ∈ l.packageDirs,
      l.stripDir tree (some place) c.label dir = some (l.packageLabel tree c) := by
  unfold packageLabel
  rw [h]
  cases hfirst : l.packageDirs.findSome? (l.stripDir tree (some place) c.label) with
  | none => exact .inl ⟨rfl, List.findSome?_eq_none_iff.1 hfirst⟩
  | some rest => exact .inr (List.exists_of_findSome?_eq_some hfirst)

/-- The label of a file selects that file. -/
theorem place?_packageLabel {name : Text} {c : Candidate} {place : Place}
    (hc : l.found? tree name = some c) (hloc : tree.locate c.path = some place) :
    l.place? tree (l.packageLabel tree c) = some place := by
  rcases packageLabel_cases hloc with ⟨hlabel, -⟩ | ⟨dir, -, hstrip⟩
  · rw [hlabel, place?_label hc, hloc]
  · exact (stripDir_eq_some_iff.1 hstrip).2

/-- What follows a slash in a label is a label. -/
theorem IsLabel.of_append_slash {label pre rest : Text} (h : IsLabel label)
    (ht : label = pre ++ '/' :: rest) : IsLabel rest := by
  cases h with
  | @relative n h =>
    have hne : n ≠ [] := by
      rintro rfl
      have hslash : '/' ∈ (Path.relative []).toText := by
        rw [ht]
        simp
      exact absurd hslash (by decide)
    obtain ⟨below, hbelow, rfl⟩ := Path.exists_relative_of_append_slash h.isSegment
      Anchor.noConfusion hne ht
    exact .relative ⟨fun s hs => h.isSegment s (hbelow.subset hs),
      Path.collapse_eq_self_of_suffix h.collapse_eq hbelow⟩
  | @absolute place h hne =>
    obtain ⟨below, hbelow, rfl⟩ :=
      Path.exists_relative_of_append_slash h.isSegment Anchor.noConfusion hne ht
    exact .relative (h.of_suffix hbelow).isName

theorem isLabel_packageLabel {name : Text} {c : Candidate} (hc : l.found? tree name = some c) :
    IsLabel (l.packageLabel tree c) := by
  have hlabel := isLabel_of_found hc
  obtain ⟨place, bytes, hloc, -⟩ := FileTree.isFile_iff.1 (isFile_of_found hc)
  rcases packageLabel_cases hloc with ⟨heq, -⟩ | ⟨dir, -, hstrip⟩
  · rwa [heq]
  · have hdrop := Text.dropPrefix?_eq_some.1 (stripDir_eq_some_iff.1 hstrip).1
    rw [List.append_assoc] at hdrop
    exact hlabel.of_append_slash hdrop

theorem backslash_notMem_packageLabel {specifier : Text} {c : Candidate}
    (hc : l.found? tree (Path.slashed specifier) = some c) : '\\' ∉ l.packageLabel tree c := by
  have hlabel : '\\' ∉ c.label := by
    intro h
    rcases mem_label hc h with h | h | h
    · cases h
    · cases h
    · exact Path.backslash_notMem_slashed specifier h
  obtain ⟨place, bytes, hloc, -⟩ := FileTree.isFile_iff.1 (isFile_of_found hc)
  rcases packageLabel_cases hloc with ⟨heq, -⟩ | ⟨dir, -, hstrip⟩
  · rwa [heq]
  · rw [Text.dropPrefix?_eq_some.1 (stripDir_eq_some_iff.1 hstrip).1] at hlabel
    exact fun h => hlabel (List.mem_append_right _ h)

end Lookup

end Flattener
