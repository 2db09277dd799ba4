import Flattener.Proofs.Selection

/-!
# Relative imports and neighbouring files

A relative import is taken from the label of the importing file and the outcome is looked up like
any other name, in the root and in each package directory. It is meant to reach a file by the way
that it describes, starting in the directory of the importing file.

The label of a file is a way to it from the directory in which it was found, so the label of the
target is a way from there to the neighbouring file. The lookup does not start there, though: the
root and the package directories before that one are searched first (`Lookup.ahead`), and a file of
the same name in one of them is taken in its place.

* `FileTree.follow_dropLast`: the way to a file without its last segment is the way to its
  directory.
* `Specifier.target_toText`: the target of a relative import, on segments.
* `Lookup.exists_selects_target`: the file that a relative import reaches.
-/

namespace Flattener

/-! ### Directories of files -/

namespace FileTree

variable {t : FileTree}

/-- No name in the tree has a NUL character. -/
def WellNamed (t : FileTree) : Prop := ∀ x ∈ t.entries, ∀ name ∈ x.1, '\x00' ∉ name

instance (t : FileTree) : Decidable t.WellNamed :=
  inferInstanceAs (Decidable (∀ x ∈ t.entries, ∀ name ∈ x.1, '\x00' ∉ name))

theorem WellNamed.notMem {place : Place} (hw : t.WellNamed) (h : (t.entryAt? place).isSome) :
    ∀ name ∈ place, '\x00' ∉ name := by
  unfold entryAt? at h
  split at h
  · rename_i hnil
    simp [hnil]
  · obtain ⟨e, he⟩ := Option.isSome_iff_exists.1 h
    obtain ⟨before, after, heq, -⟩ := List.lookup_eq_some_iff.1 he
    exact hw (place, e) (by rw [heq]; simp)

/-- The way to a file without its last segment is the way to its directory. -/
theorem follow_dropLast {here file : Place} {segments : List Text} {bytes : List UInt8}
    (hs : t.Standing here) (hne : segments ≠ []) (h : t.follow here segments = some file)
    (hfile : t.entryAt? file = some (.file bytes)) :
    t.follow here segments.dropLast = some file.dropLast ∧
      t.entryAt? file.dropLast = some .directory := by
  obtain ⟨init, last, rfl⟩ := (List.eq_nil_or_concat' segments).resolve_left hne
  rw [follow_append] at h
  obtain ⟨dir, hdir, hlast⟩ := Option.bind_eq_some_iff.1 h
  obtain ⟨hd, ⟨-, hup⟩ | ⟨-, -, hname⟩⟩ := follow_cons_eq_some hlast
  · -- climbing ends in a directory
    obtain rfl := Option.some.inj hup
    rw [(hs.of_follow hdir).directory_dropLast hd] at hfile
    cases hfile
  · obtain rfl := Option.some.inj hname
    rw [List.dropLast_concat, List.dropLast_concat]
    exact ⟨hdir, hd⟩

theorem directory_of_follow {here place : Place} {segments : List Text} (hne : segments ≠ [])
    (h : t.follow here segments = some place) : t.entryAt? here = some .directory := by
  obtain ⟨s, rest, rfl⟩ := List.exists_cons_of_ne_nil hne
  exact (follow_cons_eq_some h).1

end FileTree

/-! ### Targets -/

/-- Segments that are taken from the directory of a path, collapsed. -/
def Path.beside (absolute : Bool) (names segments : List Text) : List Text :=
  collapseSegments absolute (names.dropLast ++ segments)

theorem Path.isSegment_beside {absolute : Bool} {names segments : List Text}
    (hn : ∀ s ∈ names, IsSegment s) (hseg : ∀ s ∈ segments, IsSegment s) :
    ∀ s ∈ beside absolute names segments, IsSegment s := by
  intro s hs
  rcases List.mem_append.1 (collapseSegments_subset _ _ hs) with hs | hs
  · exact hn s (List.dropLast_subset _ hs)
  · exact hseg s hs

namespace Specifier

theorem isAbsolute_of_isRelative {t : Text} (h : isRelative t) :
    (Path.ofText (Path.slashed t)).isAbsolute = false := by
  have hhead : (Path.slashed t).head? = some '.' := by
    simp only [isRelative, Bool.or_eq_true, List.isPrefixOf_iff_prefix] at h
    rcases h with ⟨u, hu⟩ | ⟨u, hu⟩ <;> rw [← hu] <;> rfl
  obtain ⟨u, hu⟩ := List.head?_eq_some_iff.1 hhead
  rw [hu]
  rfl

/-- A relative specifier continues the directory of the importing file. -/
theorem target_toText {p : Path} (hp : ∀ s ∈ p.segments, Path.IsSegment s) (hb : '\\' ∉ p.toText)
    {t : Text} (ht : isRelative t) :
    target p.toText t = (Path.mk p.anchor (Path.beside p.isAbsolute p.segments
      (Path.ofText (Path.slashed t)).segments)).toText := by
  unfold target
  rw [if_pos ht, Path.slashed_eq_self hb, Path.directory_toText hp, Path.join,
    if_neg (by simp [isAbsolute_of_isRelative ht])]
  rfl

theorem backslash_notMem_target {p : Path} (hp : ∀ s ∈ p.segments, Path.IsSegment s)
    (hb : '\\' ∉ p.toText) {t : Text} (ht : isRelative t) : '\\' ∉ target p.toText t := by
  rw [target_toText hp hb ht]
  intro h
  rcases Path.mem_toText h with h | h | ⟨s, hs, h⟩
  · cases h
  · cases h
  · rcases List.mem_append.1 (Path.collapseSegments_subset _ _ hs) with hs | hs
    · have hmem : s ∈ (Path.ofText p.toText).segments := by
        rw [Path.ofText_toText hp]
        exact List.dropLast_subset _ hs
      exact hb (Path.mem_of_mem_segments hmem h)
    · exact Path.backslash_notMem_slashed t (Path.mem_of_mem_segments hs h)

end Specifier

/-! ### Reaching the neighbouring file -/

namespace Lookup

variable {l : Lookup} {tree : FileTree}

/-- The directories that are searched for a label before the one in which its file is found. -/
def ahead (l : Lookup) (tree : FileTree) (label : Text) : List Path :=
  l.bases.takeWhile fun b => !tree.isFile (b.child label)

/-- The directory in which a name is found follows those that are searched before. -/
theorem exists_bases_eq {n : List Text} (hn : IsName n) {b : Path}
    (hb : l.baseOf? tree n = some b) :
    ∃ after, l.bases = l.ahead tree (Path.relative n).toText ++ b :: after := by
  obtain ⟨hfile, before, after, heq, hbefore⟩ := List.find?_eq_some_iff_append.1 hb
  have hahead : l.ahead tree (Path.relative n).toText = before := by
    simp only [ahead, Path.child, hn.ofText_toText, heq]
    rw [List.takeWhile_append_of_pos hbefore, List.takeWhile_cons_of_neg (by simp [hfile]),
      List.append_nil]
  exact ⟨after, hahead ▸ heq⟩

/-- From the directory in which a file was found under a name, the name of its neighbour leads to
the neighbour. -/
theorem follow_neighbour {base f g : Place} {bytes : List UInt8} {n segments : List Text}
    (hbase : tree.Standing base) (hne : n ≠ []) (hf : tree.follow base n = some f)
    (hfile : tree.entryAt? f = some (.file bytes)) (hg : tree.follow f.dropLast segments = some g) :
    tree.follow base (Path.beside false n segments) = some g := by
  obtain ⟨hdir, -⟩ := FileTree.follow_dropLast hbase hne hf hfile
  have hland : Path.land base (n.dropLast ++ segments) = g := by
    rw [Path.land_append, ← FileTree.eq_land_of_follow hdir, ← FileTree.eq_land_of_follow hg]
  have hstanding : tree.Standing g := (hbase.of_follow hdir).of_follow hg
  rw [Path.beside, FileTree.follow_of_standing hbase (FileTree.directory_of_follow hne hf)
    (hland ▸ hstanding), hland]

theorem IsName.beside {n segments : List Text} (hn : IsName n)
    (hseg : ∀ s ∈ segments, Path.IsSegment s) : IsName (Path.beside false n segments) where
  isSegment := Path.isSegment_beside hn.isSegment hseg
  collapse_eq := Path.collapse_collapse _

/-- The neighbour of a file with a relative label is selected, or a file of that name in a
directory that is searched before. -/
theorem exists_place?_neighbour {n segments : List Text} (hn : IsName n) (hne : n ≠ [])
    (hseg : ∀ s ∈ segments, Path.IsSegment s) {f g : Place} {bytes : List UInt8}
    (hf : l.place? tree (Path.relative n).toText = some f)
    (hg : tree.follow f.dropLast segments = some g)
    (hfile : tree.entryAt? g = some (.file bytes)) :
    ∃ h, l.place? tree (Path.relative (Path.beside false n segments)).toText = some h ∧
      (h = g ∨ ∃ b ∈ l.ahead tree (Path.relative n).toText,
        tree.locate (b.join (Path.relative (Path.beside false n segments))) = some h) := by
  have hname := hn.beside hseg
  set n' := Path.beside false n segments
  rw [place?_relative hn] at hf
  obtain ⟨b, hb, hloc⟩ := Option.bind_eq_some_iff.1 hf
  obtain ⟨after, hbases⟩ := exists_bases_eq hn hb
  have hbfile : tree.isFile (b.join (Path.relative n)) = true := by simpa using List.find?_some hb
  obtain ⟨f', fbytes, hf', hffile⟩ := FileTree.isFile_iff.1 hbfile
  obtain rfl : f' = f := Option.some.inj (hf'.symm.trans hloc)
  -- the neighbour lies in the same directory `b`
  have hneighbour : tree.locate (b.join (Path.relative n')) = some g := by
    rw [FileTree.locate, segments_join_relative, FileTree.follow_append] at hloc ⊢
    obtain ⟨base, hbase, hfollow⟩ := Option.bind_eq_some_iff.1 hloc
    rw [hbase, Option.bind_some]
    exact follow_neighbour (FileTree.Standing.root.of_follow hbase) hne hfollow hffile hg
  have hisFile : tree.isFile (b.join (Path.relative n')) = true :=
    FileTree.isFile_iff.2 ⟨g, bytes, hneighbour, hfile⟩
  rw [place?_relative hname, baseOf?, hbases, List.find?_append]
  -- it is selected if no directory ahead of `b` has a file of that name
  cases hfirst : (l.ahead tree (Path.relative n).toText).find?
      fun b => tree.isFile (b.join (Path.relative n')) with
  | none =>
    have hhere : (b :: after).find? (fun b => tree.isFile (b.join (Path.relative n'))) = some b :=
      List.find?_cons_of_pos hisFile
    refine ⟨g, ?_, .inl rfl⟩
    rw [Option.none_or, hhere]
    exact hneighbour
  | some b' =>
    have hb' : tree.isFile (b'.join (Path.relative n')) = true := by
      simpa using List.find?_some hfirst
    obtain ⟨h, -, hh, -⟩ := FileTree.isFile_iff.1 hb'
    exact ⟨h, hh, .inr ⟨b', List.mem_of_find?_eq_some hfirst, hh⟩⟩

/-- The neighbour of a file with an absolute label is selected. -/
theorem place?_neighbour_of_absolute (hw : tree.WellNamed) {place : Place} {segments : List Text}
    (hd : IsDescent place) (hseg : ∀ s ∈ segments, Path.IsSegment s) {f g : Place}
    {bytes : List UInt8} (hf : l.place? tree (Path.mk .root place).toText = some f)
    (hg : tree.follow f.dropLast segments = some g)
    (hfile : tree.entryAt? g = some (.file bytes)) :
    l.place? tree (Path.mk .root (Path.beside true place segments)).toText = some g := by
  obtain ⟨rfl, -, hffile⟩ := (place?_absolute hd).1 hf
  have hstanding : tree.Standing g :=
    ((FileTree.Standing.root.of_follow (FileTree.locate_of_isFile hd.up_notMem hffile)).above
      (List.dropLast_prefix f)).of_follow hg
  have hup : Path.up ∉ f.dropLast := fun h => hd.up_notMem (List.dropLast_subset f h)
  have hland : Path.beside true f segments = g := by
    rw [Path.beside, Path.collapseSegments_true, Path.land_append, Path.land_names [] hup,
      List.nil_append, FileTree.eq_land_of_follow hg]
  have hdg : IsDescent g := ⟨hland ▸ Path.isSegment_beside hd.isSegment hseg,
    FileTree.eq_land_of_follow hg ▸ Path.up_notMem_land hup segments⟩
  rw [hland]
  refine (place?_absolute hdg).2 ⟨rfl, hw.notMem hstanding.exists_entry, ?_⟩
  exact FileTree.isFile_iff.2 ⟨g, bytes, FileTree.follow_names hdg.up_notMem hstanding, hfile⟩

/-- A relative import is resolved to the file that it describes, as seen from the importing file,
unless a directory that is searched before the one of the importing file has a file of that name. -/
theorem exists_selects_target (hw : tree.WellNamed) {s t : Text} {r : Resolved} {f g : Place}
    {bytes : List UInt8} (hr : l.resolve tree s = .ok r) (hs : l.Selects tree s f)
    (hlabel : r.path ≠ Path.here) (ht : Specifier.isRelative t)
    (hg : tree.follow f.dropLast (Path.ofText (Path.slashed t)).segments = some g)
    (hfile : tree.entryAt? g = some (.file bytes)) :
    ∃ h, l.Selects tree (Specifier.target r.path t) h ∧
      (h = g ∨ ∃ b ∈ l.ahead tree r.path,
        tree.locate (b.child (Specifier.target r.path t)) = some h) := by
  obtain ⟨c, hc, -, hpath⟩ := resolve_eq_ok_iff.1 hr
  have hloc : tree.locate c.path = some f := (place?_of_found hc).symm.trans hs
  have hplace : l.place? tree r.path = some f := hpath ▸ place?_packageLabel hc hloc
  have hslash : '\\' ∉ r.path := hpath ▸ backslash_notMem_packageLabel hc
  have hkind : IsLabel r.path := hpath ▸ isLabel_packageLabel hc
  have hseg : ∀ u ∈ (Path.ofText (Path.slashed t)).segments, Path.IsSegment u :=
    fun u hu => Path.isSegment_of_mem hu
  generalize r.path = label at hlabel hplace hslash hkind ⊢
  cases hkind with
  | @relative n hn =>
    have hne : n ≠ [] := by
      rintro rfl
      exact hlabel rfl
    obtain ⟨h, hh, hor⟩ := exists_place?_neighbour hn hne hseg hplace hg hfile
    have htarget := @Specifier.target_toText (Path.relative n) hn.isSegment hslash t ht
    have hclean := @Specifier.backslash_notMem_target (Path.relative n) hn.isSegment hslash t ht
    refine ⟨h, ?_, hor.imp_right ?_⟩
    · rw [Selects, Path.slashed_eq_self hclean, htarget]
      exact hh
    · rintro ⟨b, hb, hbh⟩
      refine ⟨b, hb, ?_⟩
      rw [htarget, Path.child]
      exact (hn.beside hseg).ofText_toText.symm ▸ hbh
  | @absolute place hd _ =>
    have htarget := @Specifier.target_toText ⟨.root, place⟩ hd.isSegment hslash t ht
    have hclean := @Specifier.backslash_notMem_target ⟨.root, place⟩ hd.isSegment hslash t ht
    refine ⟨g, ?_, .inl rfl⟩
    rw [Selects, Path.slashed_eq_self hclean, htarget]
    exact place?_neighbour_of_absolute hw hd hseg hplace hg hfile

/-- A project with the files `k/b` of its own and `k/a`, `k/b` and `k/c` in the package directory
`m`. -/
def shadowed : FileTree :=
  ⟨[([['w']], .directory), ([['w'], ['p']], .directory),
    ([['w'], ['p'], ['k']], .directory), ([['w'], ['p'], ['k'], ['b']], .file []),
    ([['w'], ['p'], ['m']], .directory), ([['w'], ['p'], ['m'], ['k']], .directory),
    ([['w'], ['p'], ['m'], ['k'], ['a']], .file []),
    ([['w'], ['p'], ['m'], ['k'], ['b']], .file []),
    ([['w'], ['p'], ['m'], ['k'], ['c']], .file [])]⟩

/-- The lookup in that project. -/
def shadowedLookup : Lookup := ⟨⟨.root, [['w'], ['p']]⟩, [['m']], .null, .builtIn⟩

theorem resolve_shadowed :
    shadowedLookup.resolve shadowed "k/a".toList = .ok ⟨[], "k/a".toList⟩ :=
  resolve_eq_ok_iff.2 ⟨⟨⟨.root, [['w'], ['p'], ['m'], ['k'], ['a']]⟩, "k/a".toList⟩, by decide,
    readText_of_empty rfl rfl (by decide) _, by decide⟩

/-- The package file `k/a` reaches its neighbour `k/c`, as the project has no such file. -/
theorem exists_selects_target_shadowed :
    shadowedLookup.Selects shadowed "k/a".toList [['w'], ['p'], ['m'], ['k'], ['a']] ∧
      shadowed.follow [['w'], ['p'], ['m'], ['k']] [['c']] =
        some [['w'], ['p'], ['m'], ['k'], ['c']] ∧
      shadowedLookup.Selects shadowed "k/c".toList [['w'], ['p'], ['m'], ['k'], ['c']] := by
  have hs : shadowedLookup.Selects shadowed "k/a".toList [['w'], ['p'], ['m'], ['k'], ['a']] := by
    decide
  have hg : shadowed.follow [['w'], ['p'], ['m'], ['k']] [['c']] =
      some [['w'], ['p'], ['m'], ['k'], ['c']] := by decide
  obtain ⟨h, hh, rfl | ⟨b, hb, hloc⟩⟩ := @exists_selects_target shadowedLookup shadowed
    (by decide) "k/a".toList "./c".toList _ _ _ [] resolve_shadowed hs (by decide) (by decide) hg
    (by decide)
  · exact ⟨hs, hg, hh⟩
  · have hahead : ∀ b ∈ shadowedLookup.ahead shadowed "k/a".toList,
        shadowed.locate (b.child (Specifier.target "k/a".toList "./c".toList)) = none := by
      decide
    rw [hahead b hb] at hloc
    cases hloc

/-- The package file `k/a` does not reach its neighbour `k/b`, as the project has such a file. -/
theorem selects_target_shadowed :
    shadowedLookup.resolve shadowed "k/a".toList = .ok ⟨[], "k/a".toList⟩ ∧
      shadowedLookup.Selects shadowed "k/a".toList [['w'], ['p'], ['m'], ['k'], ['a']] ∧
      Specifier.isRelative "./b".toList ∧
      shadowed.follow [['w'], ['p'], ['m'], ['k']]
        (Path.ofText (Path.slashed "./b".toList)).segments =
          some [['w'], ['p'], ['m'], ['k'], ['b']] ∧
      shadowed.isFile ⟨.root, [['w'], ['p'], ['m'], ['k'], ['b']]⟩ ∧
      ¬ shadowedLookup.Selects shadowed (Specifier.target "k/a".toList "./b".toList)
        [['w'], ['p'], ['m'], ['k'], ['b']] :=
  ⟨resolve_shadowed, by decide, by decide, by decide, by decide, by decide⟩

end Lookup

end Flattener
