import Flattener.Proofs.OutputPlace

/-!
# Outputs that fail

Writing an output can fail before its place is made ready, on the way, and after that. A path that
is refused at once leaves everything as it was. Once directories have been made, one of them is new,
so a failure leaves a trace (`Output.prepare_unchanged_iff`). When the place is ready, the old file
is already gone. A setting that names no codec at all, or a name with a null character, then leaves
nothing there; an unknown codec, or a text that has no bytes in its codec, leaves an empty file
(`Output.write_of_prepared`). So a failure goes without a trace for few paths only
(`Output.Spared`).

* `Output.fault_write_eq_none_iff`: when an output is written.
* `Output.unchanged_iff_spared`: when an output that fails leaves the tree as it was, and what is
  left of an old file.
-/

namespace Flattener

/-! ### Trees that agree at every place -/

namespace FileTree

variable {t t' : FileTree} {p : Path}

theorem follow_eq_of_entryAt?_eq (h : t'.entryAt? = t.entryAt?) (here : Place)
    (segments : List Text) : t'.follow here segments = t.follow here segments := by
  induction segments generalizing here with
  | nil => rfl
  | cons s segments ih => rw [follow, follow, h, ih, ih]

/-- The same is found in trees that agree at every place. -/
theorem find?_eq_of_entryAt?_eq (h : t'.entryAt? = t.entryAt?) (p : Path) :
    t'.find? p = t.find? p := by
  rw [find?, find?, locate, locate, follow_eq_of_entryAt?_eq h, h]

theorem read?_eq_some_iff {bytes : List UInt8} :
    t.read? p = some bytes ↔ t.find? p = some (.file bytes) := by
  unfold read?
  split
  · rename_i found hfound
    simp [hfound]
  · rename_i hnot
    exact ⟨nofun, fun hfound => absurd hfound (hnot bytes)⟩

/-- A file that can be read stands in a directory. -/
theorem isDirectory_parent_of_read? {bytes : List UInt8} (h : t.read? p = some bytes) :
    t.isDirectory p.parent := by
  obtain ⟨place, hplace, hfile⟩ := find?_eq_some_iff.1 (read?_eq_some_iff.1 h)
  rcases List.eq_nil_or_concat' p.segments with hnil | ⟨init, name, hseg⟩
  · rw [locate, hnil] at hplace
    obtain rfl := Option.some.inj hplace
    cases hfile
  · rw [locate, hseg, follow_append] at hplace
    obtain ⟨parent, hparent, hlast⟩ := Option.bind_eq_some_iff.1 hplace
    have hinit : p.parent.segments = init := by simp [Path.parent, hseg]
    exact isDirectory_iff.2 ⟨parent, hinit ▸ hparent, (follow_cons_eq_some hlast).1⟩

/-- Storing the bytes that a file has already changes nothing. -/
theorem Stored.entryAt?_eq {bytes : List UInt8} (h : t.Stored t' p bytes)
    (hread : t.read? p = some bytes) : t'.entryAt? = t.entryAt? := by
  obtain ⟨place, hplace, hfile⟩ := find?_eq_some_iff.1 (read?_eq_some_iff.1 hread)
  obtain ⟨place', hplace', hfile'⟩ := find?_eq_some_iff.1 (read?_eq_some_iff.1 h.read_eq)
  obtain rfl : place' = place := (eq_land_of_follow hplace').trans (eq_land_of_follow hplace).symm
  funext other
  by_cases hother : other = place'
  · rw [hother, hfile, hfile']
  · rcases h.unchanged other fun heq => hother (Option.some.inj (heq.symm.trans hplace')) with
      heq | ⟨hnone, -, q, hq, hlocate⟩
    · exact heq
    · -- above a file that was there no directory was missing
      have hold : t.isDirectory q := isDirectory_of_prefix (isDirectory_parent_of_read? hread)
        (mem_ancestors_iff.1 hq).2.1
      cases hnone.symm.trans (entryAt?_of_isDirectory hold hlocate)

end FileTree

namespace Output

variable {codecs : Codecs} {tree made : FileTree} {cwd p : Path} {t : Text} {encoding : Setting}

/-! ### Before a place is ready -/

theorem tooLong_eq_of_entryAt?_eq (h : made.entryAt? = tree.entryAt?) (cwd p : Path) :
    tooLong made cwd p = tooLong tree cwd p := by
  simp only [tooLong, FileTree.isDirectory, FileTree.find?_eq_of_entryAt?_eq h]

/-- When the making of directories stops, it has made one. -/
theorem entryAt?_ne_of_stops (hcwd : tree.isDirectory cwd) (hrefused : ¬ Refused tree cwd p)
    (ho : ¬ tree.occupied (absolute cwd p.parent))
    (h : Stops tree made (absolute cwd p.parent).segments) : made.entryAt? ≠ tree.entryAt? := by
  intro hsame
  obtain ⟨-, -, hb, hnamed⟩ := not_refused_iff.1 hrefused
  cases h with
  | file found place bytes hpre hplace hfile =>
    rw [FileTree.follow_eq_of_entryAt?_eq hsame] at hplace
    exact find?_ne_file_of_blockedBy hcwd hb hpre bytes
      (FileTree.find?_eq_some_iff.2 ⟨place, hplace, hfile⟩)
  | name start s hpre hlong hnone hdir =>
    rw [FileTree.find?_eq_of_entryAt?_eq hsame] at hnone
    rw [FileTree.isDirectory, FileTree.find?_eq_of_entryAt?_eq hsame] at hdir
    obtain ⟨root, hroot, habs⟩ := exists_start hcwd p.anchor
    obtain ⟨rest, hrest, hstart⟩ := exists_rest_of_missing hroot (habs p.parent.segments ▸ hpre)
      (by simp [FileTree.isDirectory, hnone])
    -- the way to the long name was there, so the directory of `p` could not be looked up
    refine (blockedBy_eq_none hb List.mem_cons_self).1 (tooLong_of_name ?_ hlong hrest ?_)
    · simpa using hnamed ho
    · have hsegments : (absolute cwd ⟨p.parent.anchor, rest⟩).segments = start :=
        (habs rest).trans hstart
      rw [FileTree.isDirectory, FileTree.find?, FileTree.locate, hsegments]
      exact hdir

/-- A place that cannot be made ready: the tree is as it was just if the path was refused at
once. -/
theorem prepare_unchanged_iff (hcwd : tree.isDirectory cwd)
    (hf : (prepare tree cwd p).fault.isSome) :
    (prepare tree cwd p).tree.entryAt? = tree.entryAt? ↔ Refused tree cwd p := by
  refine ⟨fun hsame => ?_, fun h => by rw [(prepare_of_refused h).1]⟩
  by_contra h
  obtain ⟨hl, hd, -⟩ := not_refused_iff.1 h
  obtain ⟨made, -, ⟨hstop, ho, htree, -⟩ | ⟨-, htree, hfault⟩⟩ := prepare_of_not_refused h
  · exact entryAt?_ne_of_stops hcwd h ho hstop (htree ▸ hsame)
  · -- the path itself is too long or leads to one of the directories made for it
    rw [hfault] at hf
    obtain ⟨hcause, hclear⟩ := fault_clear_isSome hf
    rw [htree, hclear] at hsame
    rw [tooLong_eq_of_entryAt?_eq hsame, FileTree.isDirectory,
      FileTree.find?_eq_of_entryAt?_eq hsame] at hcause
    exact hcause.elim hl hd

/-- Below an existing directory nothing has to be made. -/
theorem prepare_of_isDirectory_parent (hcwd : tree.isDirectory cwd) (h : ¬ Refused tree cwd p)
    (hparent : tree.isDirectory (absolute cwd p).parent) :
    (prepare tree cwd p).fault = none ∧
      (prepare tree cwd p).tree = tree.removeFile (absolute cwd p) := by
  obtain ⟨hl, hd, hb, -⟩ := not_refused_iff.1 h
  have habs := absolute_parent cwd (segments_ne_nil hcwd hd)
  have hmake : makeParent tree cwd p = ⟨tree, [], none⟩ := by
    simp [makeParent, habs, FileTree.occupied_of_isDirectory hparent]
  have hclear : (clear tree cwd p).fault = none := by
    by_contra hsome
    exact (fault_clear_isSome (Option.isSome_iff_ne_none.2 hsome)).1.elim hl hd
  unfold prepare
  rw [if_neg hl, if_neg hd, hb]
  dsimp only
  rw [hmake]
  exact ⟨hclear, (fault_clear_eq_none hclear).2.2⟩

/-! ### At a place that is ready -/

/-- Before the file is opened, its path and its encoding have to be names. -/
def Opens (p : Path) (encoding : Setting) : Prop :=
  ¬ hasNull p ∧ ∃ name, Codecs.nameOf encoding = .ok name

/-- At a place where a file can be: without names nothing is stored. Otherwise the bytes of the text
are, or none if it has no bytes. -/
theorem store_cases (codecs : Codecs) (t : Text) (encoding : Setting)
    (hparent : tree.isDirectory (absolute cwd p).parent)
    (hd : ¬ tree.isDirectory (absolute cwd p)) :
    (¬ Opens p encoding ∧ (store codecs tree cwd p t encoding).2.isSome ∧
      (store codecs tree cwd p t encoding).1 = tree) ∨
    Opens p encoding ∧
      ((∃ e, bytesIn codecs encoding t = .error e ∧
          (store codecs tree cwd p t encoding).2.isSome ∧
          tree.write (absolute cwd p) [] = some (store codecs tree cwd p t encoding).1) ∨
        ∃ bytes, bytesIn codecs encoding t = .ok bytes ∧
          (store codecs tree cwd p t encoding).2 = none) := by
  unfold store Opens
  cases hname : Codecs.nameOf encoding with
  | error e => simp
  | ok name =>
    by_cases hn : hasNull p
    · simp [hn]
    · right
      dsimp only
      rw [if_neg hn, bytesIn_eq hname]
      -- a directory for the file is there, so only the codec can fail
      cases hbytes : codecs.find name >>= (·.bytes t) with
      | error e =>
        obtain ⟨t', hwrite⟩ := FileTree.exists_write hparent hd []
        simp [hwrite, hn]
      | ok bytes =>
        obtain ⟨t', hwrite⟩ := FileTree.exists_write hparent hd bytes
        simp [hwrite, hn]

/-- How writing goes on at a place that has been made ready. Without names nothing is there
afterwards; if the text has no bytes, the file is empty. -/
theorem write_cases (codecs : Codecs) (t : Text) (encoding : Setting)
    (h : (prepare tree cwd p).fault = none) :
    (¬ Opens p encoding ∧ (write codecs tree cwd p t encoding).fault.isSome ∧
      (write codecs tree cwd p t encoding).tree = (prepare tree cwd p).tree) ∨
    Opens p encoding ∧
      ((∃ e, bytesIn codecs encoding t = .error e ∧
          (write codecs tree cwd p t encoding).fault.isSome ∧
          tree.Stored (write codecs tree cwd p t encoding).tree (absolute cwd p) []) ∨
        ∃ bytes, bytesIn codecs encoding t = .ok bytes ∧
          (write codecs tree cwd p t encoding).fault = none) := by
  have hcleared := cleared_of_prepare h
  have hgo : ¬ (prepare tree cwd p).fault.isSome := by simp [h]
  unfold write
  dsimp only
  rw [if_neg hgo]
  refine (store_cases codecs t encoding hcleared.directory_parent fun hd =>
    hcleared.vacant (FileTree.occupied_of_isDirectory hd)).imp_right (And.imp_right ?_)
  refine Or.imp_left fun ⟨e, he, hsome, hwrite⟩ => ⟨e, he, hsome, ?_⟩
  obtain ⟨made, hwide, hparent, hnot, -, hmade⟩ := prepared_of_fault_eq_none h
  exact FileTree.stored_of_replace hwide hparent hnot (hmade ▸ hwrite)

/-- How writing fails at a place that has been made ready: the file is missing or empty. -/
theorem write_of_prepared (hprepared : (prepare tree cwd p).fault = none)
    (hf : (write codecs tree cwd p t encoding).fault.isSome) :
    ¬ Opens p encoding ∧
        (write codecs tree cwd p t encoding).tree = (prepare tree cwd p).tree ∨
      Opens p encoding ∧
        tree.Stored (write codecs tree cwd p t encoding).tree (absolute cwd p) [] := by
  obtain ⟨hopens, -, htree⟩ | ⟨hopens, ⟨e, -, -, hstored⟩ | ⟨bytes, -, hnone⟩⟩ :=
    write_cases codecs t encoding hprepared
  · exact .inl ⟨hopens, htree⟩
  · exact .inr ⟨hopens, hstored⟩
  · simp [hnone] at hf

/-! ### What a failure leaves -/

/-- A path for which a failure leaves everything as it was: it is refused at once, or nothing stands
at it and no file is opened there, or it holds an empty file. -/
inductive Spared (tree : FileTree) (cwd p : Path) (encoding : Setting) : Prop where
  | refused (h : Refused tree cwd p)
  | unopened (h : ¬ Opens p encoding) (hparent : tree.isDirectory (absolute cwd p).parent)
    (ho : ¬ tree.occupied (absolute cwd p))
  | empty (h : Opens p encoding) (hread : tree.read? (absolute cwd p) = some [])

/-- After a failure at a place that has been made ready, nothing has changed just if nothing was at
that place and no file was opened there, or if an empty file was there before. -/
theorem spared_iff_of_prepared (hcwd : tree.isDirectory cwd)
    (hprepared : (prepare tree cwd p).fault = none)
    (hf : (write codecs tree cwd p t encoding).fault.isSome) :
    (write codecs tree cwd p t encoding).tree.entryAt? = tree.entryAt? ↔
      Spared tree cwd p encoding := by
  have hrefused := not_refused_of_fault_eq_none hprepared
  obtain ⟨hopens, htree⟩ | ⟨hopens, hstored⟩ := write_of_prepared hprepared hf
  · rw [htree]
    constructor
    · intro hsame
      have hfind := FileTree.find?_eq_of_entryAt?_eq hsame
      have hcleared := cleared_of_prepare hprepared
      refine .unopened hopens ?_ ?_
      · rw [FileTree.isDirectory, ← hfind]
        exact hcleared.directory_parent
      · rw [FileTree.occupied, ← hfind]
        exact hcleared.vacant
    · rintro (h | ⟨-, hparent, ho⟩ | ⟨h, -⟩)
      · exact absurd h hrefused
      · rw [(prepare_of_isDirectory_parent hcwd hrefused hparent).2,
          FileTree.removeFile_of_not_occupied ho]
      · exact absurd h hopens
  · constructor
    · intro hsame
      refine .empty hopens ?_
      rw [FileTree.read?, ← FileTree.find?_eq_of_entryAt?_eq hsame]
      exact hstored.read_eq
    · rintro (h | ⟨h, -, -⟩ | ⟨-, hread⟩)
      · exact absurd h hrefused
      · exact absurd hopens h
      · exact hstored.entryAt?_eq hread

/-- Nothing is left of the file that stood at a path that is not refused at once. -/
theorem read?_write_of_isFile (hcwd : tree.isDirectory cwd) (hrefused : ¬ Refused tree cwd p)
    {bytes : List UInt8} (hold : tree.read? (absolute cwd p) = some bytes)
    (hf : (write codecs tree cwd p t encoding).fault.isSome) :
    (write codecs tree cwd p t encoding).tree.read? (absolute cwd p) = none ∨
      (write codecs tree cwd p t encoding).tree.read? (absolute cwd p) = some [] := by
  have hparent := FileTree.isDirectory_parent_of_read? hold
  have hprepared := (prepare_of_isDirectory_parent hcwd hrefused hparent).1
  obtain ⟨-, htree⟩ | ⟨-, hstored⟩ := write_of_prepared hprepared hf
  · refine .inl ?_
    have hvacant := (cleared_of_prepare hprepared).vacant
    rw [FileTree.occupied, Bool.not_eq_true, Option.isSome_eq_false_iff,
      Option.isNone_iff_eq_none] at hvacant
    rw [htree, FileTree.read?, hvacant]
  · exact .inr hstored.read_eq

/-- When an output cannot be written, the tree is as it was just for the paths that are spared. Of a
file that stood at a path that is not refused at once nothing is left. -/
theorem unchanged_iff_spared (hcwd : tree.isDirectory cwd)
    (hf : (write codecs tree cwd p t encoding).fault.isSome) :
    ((write codecs tree cwd p t encoding).tree.entryAt? = tree.entryAt? ↔
      Spared tree cwd p encoding) ∧
    (¬ Refused tree cwd p → ∀ bytes, tree.read? (absolute cwd p) = some bytes →
      (write codecs tree cwd p t encoding).tree.read? (absolute cwd p) = none ∨
        (write codecs tree cwd p t encoding).tree.read? (absolute cwd p) = some []) := by
  refine ⟨?_, fun hrefused bytes hold => read?_write_of_isFile hcwd hrefused hold hf⟩
  by_cases hprepared : (prepare tree cwd p).fault = none
  · exact spared_iff_of_prepared hcwd hprepared hf
  · have hfault := Option.isSome_iff_ne_none.2 hprepared
    have hwrite : write codecs tree cwd p t encoding = prepare tree cwd p := if_pos hfault
    rw [hwrite, prepare_unchanged_iff hcwd hfault]
    refine ⟨.refused, fun h => ?_⟩
    by_contra hrefused
    have hparent : tree.isDirectory (absolute cwd p).parent := by
      cases h with
      | refused h => exact absurd h hrefused
      | unopened _ hparent _ => exact hparent
      | empty _ hread => exact FileTree.isDirectory_parent_of_read? hread
    exact hprepared (prepare_of_isDirectory_parent hcwd hrefused hparent).1

/-- Below the file `old` a path is refused without a trace; a directory that was made on the way
stays. -/
theorem unchanged_below_file_only : workTree.isDirectory workDir ∧
    (write .builtIn workTree workDir ⟨.relative, [['o', 'l', 'd'], ['o']]⟩ ['é']
      (.text "ascii".toList)).fault.isSome ∧
    (write .builtIn workTree workDir ⟨.relative, [['o', 'l', 'd'], ['o']]⟩ ['é']
      (.text "ascii".toList)).tree.entryAt? = workTree.entryAt? ∧
    (write .builtIn workTree workDir ⟨.relative, [['n'], ['o']]⟩ ['é']
      (.text "ascii".toList)).fault.isSome ∧
    (write .builtIn workTree workDir ⟨.relative, [['n'], ['o']]⟩ ['é']
      (.text "ascii".toList)).tree.entryAt? ≠ workTree.entryAt? := by
  have hcwd : workTree.isDirectory workDir := by decide
  refine ⟨hcwd, by decide, ?_, by decide, fun hsame => ?_⟩
  · exact (unchanged_iff_spared hcwd (by decide)).1.2 (.refused (.blocked _ rfl))
  · cases (unchanged_iff_spared hcwd (by decide)).1.1 hsame with
    | refused h => exact absurd h (not_refused_iff.2 ⟨by decide, by decide, by decide, by decide⟩)
    | unopened h _ _ => exact absurd ⟨by decide, _, rfl⟩ h
    | empty _ hread => exact absurd hread (by decide)

/-- A text that has no bytes in the encoding takes the bytes of the file `old` away. -/
theorem write_empties_old_file :
    (write .builtIn workTree workDir ⟨.relative, [['o', 'l', 'd']]⟩ ['é']
      (.text "ascii".toList)).fault.isSome ∧
    workTree.read? (absolute workDir ⟨.relative, [['o', 'l', 'd']]⟩) = some [111] ∧
    (write .builtIn workTree workDir ⟨.relative, [['o', 'l', 'd']]⟩ ['é']
      (.text "ascii".toList)).tree.read?
        (absolute workDir ⟨.relative, [['o', 'l', 'd']]⟩) = some [] := by
  decide

end Output

end Flattener
