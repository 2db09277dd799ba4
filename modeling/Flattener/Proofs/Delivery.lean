import Flattener.Output
import Flattener.Proofs.Selection

/-!
# What storing an output changes

Directories are made on the way to the place of an output, the file that stands there is removed,
and the new one is written. What is found in a tree by following a path stays there as long as
directories stay directories (`FileTree.follow_of_keeps`), and that is so for each of these changes:
directories are made where nothing is (`FileTree.Widened`), and only a file is removed or written.
So after all of them the path leads to the new file, and everything else is as it was, up to the new
directories (`FileTree.Stored`).

* `FileTree.widened_of_makeDirectories`: making directories along segments, step by step.
* `Output.prepared_of_fault_eq_none`: what a place that has been made ready is like.
* `Output.stored_of_write`: what writing an output that goes well does to the tree.
-/

namespace Flattener

namespace FileTree

variable {t t' t'' : FileTree}

/-! ### Directories that stay -/

/-- The directories of one tree are directories of the other. -/
def KeepsDirectories (t t' : FileTree) : Prop :=
  ∀ q, t.entryAt? q = some .directory → t'.entryAt? q = some .directory

theorem KeepsDirectories.trans (h : t.KeepsDirectories t') (h' : t'.KeepsDirectories t'') :
    t.KeepsDirectories t'' := fun q hq => h' q (h q hq)

/-- A way to a directory starts at a directory. -/
theorem directory_of_follow_directory {here place : Place} {segments : List Text}
    (h : t.follow here segments = some place) (hd : t.entryAt? place = some .directory) :
    t.entryAt? here = some .directory := by
  cases segments with
  | nil => exact Option.some.inj h ▸ hd
  | cons s segments => exact (follow_cons_eq_some h).1

/-- A way to a directory leads there as long as directories stay. -/
theorem follow_of_keeps (hk : t.KeepsDirectories t') {here place : Place} {segments : List Text}
    (h : t.follow here segments = some place) (hd : t.entryAt? place = some .directory) :
    t'.follow here segments = some place := by
  induction segments generalizing here with
  | nil => exact h
  | cons s segments ih =>
    obtain ⟨hhere, ⟨rfl, hrest⟩ | ⟨hs, -, hrest⟩⟩ := follow_cons_eq_some h
    · rw [follow_cons_up (hk _ hhere)]
      exact ih hrest
    · have hnext := hk _ (directory_of_follow_directory hrest hd)
      rw [follow_cons_name (hk _ hhere) hs (by rw [hnext]; rfl)]
      exact ih hrest

/-- A path is a directory if it leads to one. -/
theorem isDirectory_iff {p : Path} : t.isDirectory p ↔
    ∃ place, t.follow [] p.segments = some place ∧ t.entryAt? place = some .directory := by
  simp [isDirectory, find?, locate, Option.bind_eq_some_iff]

theorem isDirectory_of_keeps (hk : t.KeepsDirectories t') {p : Path} (h : t.isDirectory p) :
    t'.isDirectory p := by
  obtain ⟨place, hplace, hd⟩ := isDirectory_iff.1 h
  exact isDirectory_iff.2 ⟨place, follow_of_keeps hk hplace hd, hk _ hd⟩

/-- On the way to a directory there are directories only. -/
theorem isDirectory_of_prefix {p q : Path} (h : t.isDirectory p)
    (hq : q.segments <+: p.segments) : t.isDirectory q := by
  obtain ⟨place, hplace, hd⟩ := isDirectory_iff.1 h
  obtain ⟨rest, hrest⟩ := hq
  rw [← hrest, follow_append] at hplace
  obtain ⟨middle, hmiddle, hplace⟩ := Option.bind_eq_some_iff.1 hplace
  exact isDirectory_iff.2 ⟨middle, hmiddle, directory_of_follow_directory hplace hd⟩

/-! ### New places -/

/-- A new entry is put below an existing directory. -/
theorem newPlace_eq_some {p : Path} {place : Place} (h : t.newPlace p = some place) :
    ∃ init name parent, p.segments = init ++ [name] ∧ name ≠ Path.up ∧
      t.follow [] init = some parent ∧ t.entryAt? parent = some .directory ∧
      place = parent ++ [name] := by
  unfold newPlace at h
  split at h
  · cases h
  · rename_i name hname
    split at h
    · cases h
    · rename_i hup
      split at h
      · cases h
      · rename_i parent hparent
        split at h
        · rename_i hd
          exact ⟨_, name, parent, (List.dropLast_append_getLast? name hname).symm, hup, hparent, hd,
            (Option.some.inj h).symm⟩
        · cases h

/-- A path leads to its new place once something stands there. -/
theorem follow_append_name {parent : Place} {init : List Text} {name : Text}
    (h : t.follow [] init = some parent) (hd : t.entryAt? parent = some .directory)
    (hup : name ≠ Path.up) (he : (t.entryAt? (parent ++ [name])).isSome) :
    t.follow [] (init ++ [name]) = some (parent ++ [name]) := by
  rw [follow_append, h, Option.bind_some, follow_cons_name hd hup he]
  rfl

/-! ### Making directories -/

/-- Between two trees only directories have been made, where nothing was, and each of them at a
place to which a start of the segments leads. -/
def Widened (t t' : FileTree) (segments : List Text) : Prop :=
  ∀ q, t'.entryAt? q = t.entryAt? q ∨ t.entryAt? q = none ∧ t'.entryAt? q = some .directory ∧
    ∃ start, start <+: segments ∧ t'.follow [] start = some q

namespace Widened

variable {segments : List Text}

theorem refl (t : FileTree) (segments : List Text) : t.Widened t segments := fun _ => .inl rfl

/-- Where directories have been made, the old ones stay. -/
theorem keeps (h : t.Widened t' segments) : t.KeepsDirectories t' := by
  intro q hq
  rcases h q with heq | ⟨hnone, -⟩
  · rw [heq, hq]
  · rw [hnone] at hq
    cases hq

end Widened

/-- What is put where no directory stands leaves all directories. -/
theorem keeps_put {place : Place} (hne : place ≠ []) (h : t.entryAt? place ≠ some .directory)
    (e : Entry) : t.KeepsDirectories (t.put place e) := by
  intro q hq
  rw [entryAt?_put t hne, if_neg]
  · exact hq
  · rintro rfl
    exact h hq

/-- The step: a directory is made at a new place to which a path leads then. -/
theorem widened_put {p : Path} {place : Place} (h : t.newPlace p = some place)
    (hnone : t.find? p = none) : place ≠ [] ∧ t.entryAt? place = none ∧
      (t.put place .directory).follow [] p.segments = some place := by
  obtain ⟨init, name, parent, hseg, hup, hinit, hd, rfl⟩ := newPlace_eq_some h
  have hne : parent ++ [name] ≠ [] := by simp
  have hempty : t.entryAt? (parent ++ [name]) = none := by
    by_contra he
    have hsome := Option.isSome_iff_ne_none.2 he
    have hlead := follow_append_name hinit hd hup hsome
    rw [find?, locate, hseg, hlead] at hnone
    exact he hnone
  have hkeeps : t.KeepsDirectories (t.put (parent ++ [name]) .directory) :=
    keeps_put hne (by simp [hempty]) _
  refine ⟨hne, hempty, ?_⟩
  rw [hseg]
  refine follow_append_name (follow_of_keeps hkeeps hinit hd) (hkeeps _ hd) hup ?_
  rw [entryAt?_put t hne, if_pos rfl]
  rfl

/-- The run: when directories have been made along segments, they lead to a directory, and nothing
else has changed. -/
theorem widened_of_makeDirectories {done segments : List Text} (hdone : t.isDirectory ⟨.root, done⟩)
    (h : t.makeDirectories done segments = (t', none)) :
    t.Widened t' (done ++ segments) ∧ t'.isDirectory ⟨.root, done ++ segments⟩ := by
  induction segments generalizing t done with
  | nil =>
    obtain rfl := (Prod.mk.inj h).1
    rw [List.append_nil]
    exact ⟨.refl _ _, hdone⟩
  | cons s segments ih =>
    have happ : done ++ s :: segments = done ++ [s] ++ segments := by simp
    rw [makeDirectories] at h
    rw [happ]
    split at h
    · rename_i hdir
      exact ih (by simpa [isDirectory] using hdir) h
    · cases h
    · rename_i hnone
      split at h
      · cases h
      · split at h
        · cases h
        · rename_i place hplace
          obtain ⟨hne, hempty, hlead⟩ := widened_put hplace hnone
          have hnew : (t.put place .directory).entryAt? place = some .directory := by
            rw [entryAt?_put t hne, if_pos rfl]
          obtain ⟨hwide, hdir⟩ := ih (isDirectory_iff.2 ⟨place, hlead, hnew⟩) h
          refine ⟨fun q => ?_, hdir⟩
          by_cases hq : q = place
          · subst hq
            exact .inr ⟨hempty, hwide.keeps _ hnew, done ++ [s], List.prefix_append _ _,
              follow_of_keeps hwide.keeps hlead hnew⟩
          · have hsame : (t.put place .directory).entryAt? q = t.entryAt? q := by
              rw [entryAt?_put t hne, if_neg hq]
            rw [← hsame]
            exact hwide q

/-! ### Storing a file -/

/-- In the second tree the bytes are stored at an absolute path. All directories above it are there;
apart from those that were missing before, every other place is as it was. -/
structure Stored (t t' : FileTree) (p : Path) (bytes : List UInt8) : Prop where
  read_eq : t'.read? p = some bytes
  directory_above : ∀ q ∈ p.ancestors, t'.isDirectory q
  unchanged : ∀ place, t'.locate p ≠ some place → t'.entryAt? place = t.entryAt? place ∨
    t.entryAt? place = none ∧ t'.entryAt? place = some .directory ∧
      ∃ q ∈ p.ancestors, t'.locate q = some place

/-- The paths above a path are its proper starts. -/
theorem mem_ancestors_iff {p q : Path} : q ∈ p.ancestors ↔
    q.anchor = p.anchor ∧ q.segments <+: p.segments.dropLast ∧ p.segments ≠ [] := by
  obtain ⟨anchor, segments⟩ := q
  simp only [Path.ancestors, Path.above, List.mem_map, List.mem_reverse, List.mem_range,
    Path.mk.injEq, List.dropLast_eq_take]
  constructor
  · rintro ⟨n, hn, rfl, rfl⟩
    exact ⟨rfl, List.take_prefix_take_left (by omega), List.ne_nil_of_length_pos (by omega)⟩
  · rintro ⟨rfl, hpre, hne⟩
    have hlen := hpre.length_le
    have hpos := List.length_pos_of_ne_nil hne
    rw [List.length_take] at hlen
    exact ⟨segments.length, by omega, rfl,
      (List.prefix_iff_eq_take.1 (hpre.trans (List.take_prefix _ _))).symm⟩

theorem locate_ne_nil {p : Path} (h : ¬ t.isDirectory p) : t.locate p ≠ some [] := fun hp =>
  h (isDirectory_iff.2 ⟨[], hp, rfl⟩)

/-- What a path leads to is there. -/
theorem locate_eq_none_of_not_occupied {p : Path} (h : ¬ t.occupied p) : t.locate p = none := by
  by_contra hne
  obtain ⟨place, hplace⟩ := Option.ne_none_iff_exists'.1 hne
  have hthere := (Standing.root.of_follow hplace).exists_entry
  exact h (by simpa [occupied, find?, hplace] using hthere)

theorem removeFile_of_not_occupied {p : Path} (h : ¬ t.occupied p) : t.removeFile p = t := by
  rw [removeFile, locate_eq_none_of_not_occupied h]

/-- Removing what a path leads to leaves all other places alone. -/
theorem entryAt?_removeFile {p : Path} (hp : ¬ t.isDirectory p) {place : Place}
    (h : t.locate p ≠ some place) : (t.removeFile p).entryAt? place = t.entryAt? place := by
  unfold removeFile
  split
  · rfl
  · rename_i q hq
    have hne : q ≠ [] := fun hnil => locate_ne_nil hp (hnil ▸ hq)
    rw [entryAt?_erase t hne, if_neg]
    rintro rfl
    exact h hq

/-- Removing a file leaves all directories. -/
theorem keeps_removeFile {p : Path} (hp : ¬ t.isDirectory p) :
    t.KeepsDirectories (t.removeFile p) := by
  intro q hq
  rw [entryAt?_removeFile hp fun hloc => hp (isDirectory_iff.2 ⟨q, hloc, hq⟩), hq]

/-- Directories have been made on the way to a path, what stood there has been removed, and bytes
have been written: then these are stored there. -/
theorem stored_of_replace {p : Path} {bytes : List UInt8} (hwide : t.Widened t' p.segments.dropLast)
    (hparent : t'.isDirectory p.parent) (hp : ¬ t'.isDirectory p)
    (hwrite : (t'.removeFile p).write p bytes = some t'') : t.Stored t'' p bytes := by
  have hremove := keeps_removeFile hp
  unfold write at hwrite
  split at hwrite
  · cases hwrite
  · rename_i place hplace
    split at hwrite
    · cases hwrite
    · rename_i hfile
      obtain rfl := Option.some.inj hwrite
      obtain ⟨init, name, parent, hseg, hup, hinit, hd, rfl⟩ := newPlace_eq_some hplace
      have hne : parent ++ [name] ≠ [] := by simp
      have hput := keeps_put hne hfile (.file bytes)
      have hnew : ((t'.removeFile p).put (parent ++ [name]) (.file bytes)).entryAt?
          (parent ++ [name]) = some (.file bytes) := by rw [entryAt?_put _ hne, if_pos rfl]
      have hlocate : ((t'.removeFile p).put (parent ++ [name]) (.file bytes)).locate p =
          some (parent ++ [name]) := by
        rw [locate, hseg]
        exact follow_append_name (follow_of_keeps hput hinit hd) (hput _ hd) hup (by rw [hnew]; rfl)
      have hparent' := isDirectory_of_keeps (hremove.trans hput) hparent
      refine ⟨by simp [read?, find?, hlocate, hnew], fun q hq => ?_, fun q hq => ?_⟩
      · exact isDirectory_of_prefix hparent' (mem_ancestors_iff.1 hq).2.1
      · have hqne : q ≠ parent ++ [name] := fun h => hq (h ▸ hlocate)
        -- the place from which a file is removed is the one to which the bytes are written
        have hloc : t'.locate p ≠ some q := by
          intro hloc
          refine hqne ?_
          rw [eq_land_of_follow hloc, hseg, Path.land_concat hup, ← eq_land_of_follow hinit]
        have hsame : ((t'.removeFile p).put (parent ++ [name]) (.file bytes)).entryAt? q =
            t'.entryAt? q := by
          rw [entryAt?_put _ hne, if_neg hqne, entryAt?_removeFile hp hloc]
        rw [hsame]
        rcases hwide q with heq | ⟨hnone, hdir, start, hstart, hlead⟩
        · exact .inl heq
        · refine .inr ⟨hnone, hdir, ⟨p.anchor, start⟩, mem_ancestors_iff.2 ⟨rfl, hstart, ?_⟩,
            follow_of_keeps (hremove.trans hput) hlead hdir⟩
          simp [hseg]

end FileTree

/-! ### Writing an output -/

namespace Output

variable {tree : FileTree} {cwd p : Path}

/-- The directory of a path, seen from a directory, is the directory of what is seen. -/
theorem absolute_parent (cwd : Path) (h : p.segments ≠ []) :
    absolute cwd p.parent = (absolute cwd p).parent := by
  have habs : p.parent.isAbsolute = p.isAbsolute := rfl
  unfold absolute Path.join
  rw [habs]
  split
  · rfl
  · simp [Path.parent, List.dropLast_append_of_ne_nil h]

/-- With a directory on the way nothing is wrong if it is not too long to be looked up and what
exists there is a directory. -/
theorem obstacle_eq_none_iff {q : Path} : obstacle tree cwd p q = none ↔
    ¬ tooLong tree cwd q ∧
      (tree.occupied (absolute cwd q) → tree.isDirectory (absolute cwd q)) := by
  unfold obstacle
  split_ifs with hlong hfile
  · simp [hlong]
  · simp only [Bool.and_eq_true, Bool.not_eq_true'] at hfile
    simp [hfile.1, hfile.2]
  · simp only [Bool.and_eq_true, Bool.not_eq_true', not_and, Bool.not_eq_false] at hfile
    simpa [hlong] using hfile

/-- If nothing is wrong on the way, every path there can be looked up, and what exists there is a
directory. -/
theorem blockedBy_eq_none (h : blockedBy tree cwd p = none) {q : Path}
    (hq : q ∈ p.parent :: p.parent.ancestors) : ¬ tooLong tree cwd q ∧
      (tree.occupied (absolute cwd q) → tree.isDirectory (absolute cwd q)) :=
  obstacle_eq_none_iff.1 (List.findSome?_eq_none_iff.1 h q hq)

theorem isDirectory_parent_of_occupied (h : blockedBy tree cwd p = none)
    (ho : tree.occupied (absolute cwd p.parent)) : tree.isDirectory (absolute cwd p.parent) :=
  (blockedBy_eq_none h List.mem_cons_self).2 ho

/-- Once the directory of a path has been made, it is there, and only directories are new. -/
theorem fault_makeParent_eq_none (hb : blockedBy tree cwd p = none)
    (h : (makeParent tree cwd p).fault = none) :
    tree.Widened (makeParent tree cwd p).tree (absolute cwd p.parent).segments ∧
      (makeParent tree cwd p).tree.isDirectory (absolute cwd p.parent) := by
  unfold makeParent at h ⊢
  dsimp only at h ⊢
  split
  · rename_i ho
    exact ⟨.refl _ _, isDirectory_parent_of_occupied hb ho⟩
  · rename_i ho
    rw [if_neg ho] at h
    split
    · rename_i hn
      rw [if_pos hn] at h
      cases h
    · rename_i hn
      rw [if_neg hn] at h
      dsimp only at h ⊢
      have hmade : tree.makeDirectory (absolute cwd p.parent) =
        ((tree.makeDirectory (absolute cwd p.parent)).1, none) :=
        Prod.ext rfl (Option.map_eq_none_iff.1 h)
      exact FileTree.widened_of_makeDirectories (FileTree.isDirectory_iff.2 ⟨[], rfl, rfl⟩) hmade

/-- What stands at a path that is no directory is removed. -/
theorem fault_clear_eq_none (h : (clear tree cwd p).fault = none) :
    ¬ tooLong tree cwd p ∧ ¬ tree.isDirectory (absolute cwd p) ∧
      (clear tree cwd p).tree = tree.removeFile (absolute cwd p) := by
  unfold clear at h ⊢
  split at h
  · cases h
  · rename_i hlong
    split at h
    · cases h
    · rename_i hd
      refine ⟨hlong, hd, ?_⟩
      rw [if_neg hlong, if_neg hd]
      split
      · rfl
      · rename_i ho
        rw [FileTree.removeFile_of_not_occupied ho]

/-- A place that has been prepared: its directory is there, and what stood there has been
removed. -/
theorem prepared_of_fault_eq_none (h : (prepare tree cwd p).fault = none) :
    ∃ made, tree.Widened made (absolute cwd p).segments.dropLast ∧
      made.isDirectory (absolute cwd p).parent ∧ ¬ made.isDirectory (absolute cwd p) ∧
      ¬ tooLong made cwd p ∧ (prepare tree cwd p).tree = made.removeFile (absolute cwd p) := by
  unfold prepare at h ⊢
  split at h
  · cases h
  · rename_i hlong
    split at h
    · cases h
    · rename_i hd
      split at h
      · cases h
      · rename_i hb
        dsimp only at h
        rw [if_neg hlong, if_neg hd]
        dsimp only
        split at h
        · rename_i hm
          simp [h] at hm
        · rename_i hm
          rw [if_neg hm]
          have hmade : (makeParent tree cwd p).fault = none := by simpa using hm
          obtain ⟨hwide, hparent⟩ := fault_makeParent_eq_none hb hmade
          obtain ⟨hshort, hnot, hclear⟩ := fault_clear_eq_none h
          -- without segments the path would be its own parent, which is a directory
          have hne : p.segments ≠ [] := by
            intro hnil
            have hself : absolute cwd p.parent = absolute cwd p := by
              rw [Path.parent, hnil, List.dropLast_nil, ← hnil]
            exact hnot (hself ▸ hparent)
          rw [absolute_parent cwd hne] at hwide hparent
          exact ⟨_, hwide, hparent, hnot, hshort, hclear⟩

/-- The bytes of a text in the codec that a setting names. -/
def bytesIn (codecs : Codecs) (encoding : Setting) (t : Text) :
    Except EncodingFault (List UInt8) := do
  (← codecs.ofSetting encoding).bytes t

theorem bytesIn_eq {codecs : Codecs} {encoding : Setting} {name : Option Text}
    (h : Codecs.nameOf encoding = .ok name) (t : Text) :
    bytesIn codecs encoding t = (codecs.find name >>= (·.bytes t)) := by
  rw [bytesIn, Codecs.ofSetting, h]
  rfl

end Output

end Flattener
