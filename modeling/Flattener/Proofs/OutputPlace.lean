import Flattener.Proofs.Delivery

/-!
# A place for the output

Before an output is written its place is made ready, and that can be refused. A path is refused at
once, with nothing changed, if it is too long to be looked up, if it leads to a directory, if a file
stands where it needs a directory, or if a missing directory cannot be named (`Output.Refused`).
Otherwise directories are made as far as possible (`Output.Stops`).

If the path never climbs, in a tree whose entries all stand in directories (`FileTree.Grounded`),
none of the directories made for it can be in the way of another or of the file. Then only a long
name can stop the making of them, and for a path that is short enough (`Output.Fits`) nothing goes
wrong that was not seen at once.

* `FileTree.stopped_of_makeDirectories`: what stops the making of directories.
* `Output.prepare_of_not_refused`: how preparing a place that is not refused at once can end.
* `Output.prepare_clears_or_refuses`: when a place is made ready, and what changes then.
-/

namespace Flattener

namespace FileTree

variable {t t' : FileTree} {p : Path}

theorem segments_ne_nil_of_not_isDirectory (h : ¬ t.isDirectory p) : p.segments ≠ [] := fun hnil =>
  h (isDirectory_iff.2 ⟨[], by rw [hnil]; rfl, rfl⟩)

/-- What is found at a path stands at the place that the path leads to. -/
theorem find?_eq_some_iff {e : Entry} : t.find? p = some e ↔
    ∃ place, t.locate p = some place ∧ t.entryAt? place = some e :=
  Option.bind_eq_some_iff

theorem occupied_of_isDirectory (h : t.isDirectory p) : t.occupied p := by
  rw [occupied, of_decide_eq_true h]
  rfl

/-- A directory stands at the place to which its path leads in whatever tree. -/
theorem entryAt?_of_isDirectory {place : Place} (h : t.isDirectory p)
    (hlead : t'.follow [] p.segments = some place) : t.entryAt? place = some .directory := by
  obtain ⟨old, hold, hd⟩ := isDirectory_iff.1 h
  rwa [eq_land_of_follow hlead, ← eq_land_of_follow hold]

/-! ### Going down in a tree -/

/-- Every entry stands in a directory. -/
def Grounded (t : FileTree) : Prop :=
  ∀ x ∈ t.entries, t.entryAt? x.1.dropLast = some .directory

instance (t : FileTree) : Decidable t.Grounded :=
  inferInstanceAs (Decidable (∀ x ∈ t.entries, t.entryAt? x.1.dropLast = some .directory))

/-- An entry stands in a directory. -/
theorem Grounded.directory_above (hg : t.Grounded) {place : Place} {name : Text}
    (h : (t.entryAt? (place ++ [name])).isSome) : t.entryAt? place = some .directory := by
  obtain ⟨e, he⟩ := Option.isSome_iff_exists.1 h
  rw [entryAt?, if_neg (by simp)] at he
  obtain ⟨before, after, hsplit, -⟩ := List.lookup_eq_some_iff.1 he
  have hmem : (place ++ [name], e) ∈ t.entries := by simp [hsplit]
  simpa using hg _ hmem

/-- A start of two lists in a row lies in the first or runs on into the second. -/
theorem prefix_append_cases {a b c : List Text} (h : a <+: b ++ c) :
    a <+: b ∨ ∃ rest, rest <+: c ∧ a = b ++ rest := by
  rcases List.prefix_or_prefix_of_prefix h (List.prefix_append b c) with hin | ⟨rest, rfl⟩
  · exact .inl hin
  · exact .inr ⟨rest, (List.prefix_append_right_inj b).1 h, rfl⟩

/-- The segments lead to an existing directory and from there on they only go down. -/
def Descends (t : FileTree) (segments : List Text) : Prop :=
  ∃ start names, segments = start ++ names ∧ t.isDirectory ⟨.root, start⟩ ∧ Path.up ∉ names

theorem Descends.of_prefix {a b : List Text} (h : t.Descends b) (hab : a <+: b) :
    t.Descends a := by
  obtain ⟨start, names, rfl, hdir, hup⟩ := h
  obtain hin | ⟨rest, hrest, rfl⟩ := prefix_append_cases hab
  · exact ⟨a, [], by simp, isDirectory_of_prefix hdir hin, by simp⟩
  · exact ⟨start, rest, rfl, hdir, fun h => hup (hrest.subset h)⟩

/-- Below a directory there is a place for everything that is not a directory. -/
theorem exists_newPlace (hparent : t.isDirectory p.parent) (hp : ¬ t.isDirectory p) :
    ∃ place, t.newPlace p = some place := by
  obtain ⟨parent, hfollow, hd⟩ := isDirectory_iff.1 hparent
  rcases List.eq_nil_or_concat' p.segments with hnil | ⟨init, name, hseg⟩
  · exact absurd hnil (segments_ne_nil_of_not_isDirectory hp)
  · have hinit : p.parent.segments = init := by simp [Path.parent, hseg]
    rw [hinit] at hfollow
    have hname : name ≠ Path.up := by
      rintro rfl
      refine hp (isDirectory_iff.2 ⟨parent.dropLast, ?_,
        (Standing.root.of_follow hfollow).directory_dropLast hd⟩)
      rw [hseg, follow_append, hfollow, Option.bind_some, follow_cons_up hd]
      rfl
    exact ⟨parent ++ [name], by simp [newPlace, hseg, hname, hfollow, hd]⟩

/-- Below a directory a file can be written where no directory stands. -/
theorem exists_write (hparent : t.isDirectory p.parent) (hp : ¬ t.isDirectory p)
    (bytes : List UInt8) : ∃ t', t.write p bytes = some t' := by
  obtain ⟨place, hplace⟩ := exists_newPlace hparent hp
  obtain ⟨init, name, parent, hseg, hup, hinit, hd, rfl⟩ := newPlace_eq_some hplace
  have hfile : t.entryAt? (parent ++ [name]) ≠ some .directory := by
    intro hdir
    refine hp (isDirectory_iff.2 ⟨parent ++ [name], ?_, hdir⟩)
    rw [hseg]
    exact follow_append_name hinit hd hup (by rw [hdir]; rfl)
  exact ⟨_, by rw [write, hplace]; exact if_neg hfile⟩

/-- When the making of directories stops, it has gone well along the segments before, and the next
one leads to a file, or is missing and has a name that is too long or no place. -/
theorem makeDirectories_eq_some {done segments found : List Text}
    (h : t.makeDirectories done segments = (t', some found)) : ∃ start s,
      start ++ [s] <+: segments ∧ found = done ++ start ++ [s] ∧
      t.makeDirectories done start = (t', none) ∧
      (t'.isFile ⟨.root, found⟩ ∨ t'.find? ⟨.root, found⟩ = none ∧
        (isLongName s ∨ t'.newPlace ⟨.root, found⟩ = none)) := by
  induction segments generalizing t done with
  | nil => cases h
  | cons s segments ih =>
    rw [makeDirectories] at h
    split at h
    · rename_i hdir
      obtain ⟨start, name, hpre, hfound, hmade, hend⟩ := ih h
      refine ⟨s :: start, name, List.cons_prefix_cons.2 ⟨rfl, hpre⟩, by simp [hfound], ?_, hend⟩
      rw [makeDirectories, hdir]
      exact hmade
    · rename_i bytes hfile
      obtain ⟨rfl, hfound⟩ := Prod.mk.inj h
      obtain rfl := Option.some.inj hfound
      exact ⟨[], s, by simp, by simp, rfl, .inl (by simp [isFile, hfile])⟩
    · rename_i hnone
      split at h
      · rename_i hlong
        obtain ⟨rfl, hfound⟩ := Prod.mk.inj h
        obtain rfl := Option.some.inj hfound
        exact ⟨[], s, by simp, by simp, rfl, .inr ⟨hnone, .inl hlong⟩⟩
      · rename_i hshort
        split at h
        · rename_i hplace
          obtain ⟨rfl, hfound⟩ := Prod.mk.inj h
          obtain rfl := Option.some.inj hfound
          exact ⟨[], s, by simp, by simp, rfl, .inr ⟨hnone, .inr hplace⟩⟩
        · rename_i place hplace
          obtain ⟨start, name, hpre, hfound, hmade, hend⟩ := ih h
          refine ⟨s :: start, name, List.cons_prefix_cons.2 ⟨rfl, hpre⟩, by simp [hfound], ?_,
            hend⟩
          rw [makeDirectories, hnone]
          dsimp only
          rw [if_neg hshort, hplace]
          exact hmade

theorem Widened.mono {start segments : List Text} (h : t.Widened t' start)
    (hpre : start <+: segments) : t.Widened t' segments := by
  intro place
  rcases h place with heq | ⟨hnone, hdir, above, habove, hlead⟩
  · exact .inl heq
  · exact .inr ⟨hnone, hdir, above, habove.trans hpre, hlead⟩

/-- What stops the making of directories is a file that was there before, or a missing directory
whose name is too long. The segments lead to the file in the end; at first they may have led
nowhere, if they climb. -/
theorem stopped_of_makeDirectories {done segments found : List Text}
    (hdone : t.isDirectory ⟨.root, done⟩)
    (h : t.makeDirectories done segments = (t', some found)) :
    found <+: done ++ segments ∧ t.Widened t' (done ++ segments) ∧
      ((∃ place bytes, t'.follow [] found = some place ∧ t.entryAt? place = some (.file bytes)) ∨
        ∃ start s, found = start ++ [s] ∧ isLongName s ∧ t'.find? ⟨.root, found⟩ = none ∧
          t'.isDirectory ⟨.root, start⟩) := by
  obtain ⟨start, s, hpre, rfl, hmade, hend⟩ := makeDirectories_eq_some h
  obtain ⟨hwide, hdir⟩ := widened_of_makeDirectories hdone hmade
  have hfound : done ++ start ++ [s] <+: done ++ segments := by
    rw [List.append_assoc]
    exact (List.prefix_append_right_inj done).2 hpre
  refine ⟨hfound, hwide.mono ((List.prefix_append _ _).trans hfound), ?_⟩
  rcases hend with hfile | ⟨hnone, hlong | hplace⟩
  · obtain ⟨place, bytes, hplace, hbytes⟩ := isFile_iff.1 hfile
    refine .inl ⟨place, bytes, hplace, ?_⟩
    rcases hwide place with heq | ⟨-, hnew, -⟩
    · rw [← heq, hbytes]
    · rw [hbytes] at hnew
      cases hnew
  · exact .inr ⟨_, s, rfl, hlong, hnone, hdir⟩
  · -- below a directory there is a place for a missing one
    obtain ⟨place, hsome⟩ := exists_newPlace (p := ⟨.root, done ++ start ++ [s]⟩)
      (by simpa [Path.parent] using hdir) (by rw [isDirectory, hnone]; simp)
    rw [hplace] at hsome
    cases hsome

/-- What a path leads to is gone once it is removed. -/
theorem not_occupied_removeFile (hp : ¬ t.isDirectory p) : ¬ (t.removeFile p).occupied p := by
  by_cases ho : t.occupied p
  · obtain ⟨e, he⟩ := Option.isSome_iff_exists.1 ho
    obtain ⟨place, hplace, -⟩ := find?_eq_some_iff.1 he
    have hne : place ≠ [] := fun hnil => locate_ne_nil hp (hnil ▸ hplace)
    have herase : t.removeFile p = t.erase place := by rw [removeFile, hplace]
    intro hagain
    obtain ⟨e', he'⟩ := Option.isSome_iff_exists.1 hagain
    obtain ⟨place', hplace', hthere⟩ := find?_eq_some_iff.1 he'
    -- both ways end at the place that the segments name
    rw [eq_land_of_follow hplace', ← eq_land_of_follow hplace, herase, entryAt?_erase t hne,
      if_pos rfl] at hthere
    cases hthere
  · rwa [removeFile_of_not_occupied ho]

/-- In the second tree nothing is found at an absolute path and its directory is there. Apart from
directories above it that were missing before, every other place is as it was. -/
structure Cleared (t t' : FileTree) (p : Path) : Prop where
  vacant : ¬ t'.occupied p
  directory_parent : t'.isDirectory p.parent
  unchanged : ∀ place, place ≠ Path.land [] p.segments → t'.entryAt? place = t.entryAt? place ∨
    t.entryAt? place = none ∧ t'.entryAt? place = some .directory ∧
      ∃ q ∈ p.ancestors, t'.locate q = some place

/-- Directories have been made on the way to a path, and what stood there has been removed. -/
theorem cleared_of_removeFile (hwide : t.Widened t' p.segments.dropLast)
    (hparent : t'.isDirectory p.parent) (hp : ¬ t'.isDirectory p) :
    t.Cleared (t'.removeFile p) p := by
  have hkeeps := keeps_removeFile hp
  refine ⟨not_occupied_removeFile hp, isDirectory_of_keeps hkeeps hparent, fun place hne => ?_⟩
  rw [entryAt?_removeFile hp fun hlocate => hne (eq_land_of_follow hlocate)]
  rcases hwide place with heq | ⟨hnone, hdir, start, hstart, hlead⟩
  · exact .inl heq
  · exact .inr ⟨hnone, hdir, ⟨p.anchor, start⟩,
      mem_ancestors_iff.2 ⟨rfl, hstart, segments_ne_nil_of_not_isDirectory hp⟩,
      follow_of_keeps hkeeps hlead hdir⟩

end FileTree

/-! ### Paths that are refused at once -/

namespace Output

variable {tree : FileTree} {cwd p : Path}

/-- Seen from a working directory that exists, paths with one anchor continue an existing
directory. -/
theorem exists_start (hcwd : tree.isDirectory cwd) (anchor : Anchor) : ∃ start : List Text,
    tree.isDirectory ⟨.root, start⟩ ∧
      ∀ segments, (absolute cwd ⟨anchor, segments⟩).segments = start ++ segments := by
  cases anchor with
  | relative => exact ⟨cwd.segments, hcwd, fun _ => rfl⟩
  | root => exact ⟨[], rfl, fun _ => rfl⟩
  | doubleRoot => exact ⟨[], rfl, fun _ => rfl⟩

/-- A start of segments that is no directory runs on beyond an existing directory; without its last
segment it still starts there. -/
theorem exists_rest_of_missing {root start segments : List Text} {s : Text}
    (hroot : tree.isDirectory ⟨.root, root⟩) (hpre : start ++ [s] <+: root ++ segments)
    (hmissing : ¬ tree.isDirectory ⟨.root, start ++ [s]⟩) :
    ∃ rest, rest ++ [s] <+: segments ∧ root ++ rest = start := by
  obtain hin | ⟨rest, hrest, hseg⟩ := FileTree.prefix_append_cases hpre
  · exact absurd (FileTree.isDirectory_of_prefix hroot hin) hmissing
  · rcases List.eq_nil_or_concat' rest with rfl | ⟨init, name, rfl⟩
    · rw [List.append_nil] at hseg
      exact absurd (hseg ▸ hroot) hmissing
    · rw [← List.append_assoc] at hseg
      obtain ⟨rfl, hs⟩ := List.append_inj' hseg rfl
      obtain rfl := List.singleton_inj.1 hs
      exact ⟨init, hrest, rfl⟩

theorem segments_ne_nil (hcwd : tree.isDirectory cwd) (hp : ¬ tree.isDirectory (absolute cwd p)) :
    p.segments ≠ [] := by
  intro hnil
  obtain ⟨start, hstart, habs⟩ := exists_start hcwd p.anchor
  have hself : (absolute cwd p).segments = start ++ p.segments := habs p.segments
  rw [hnil, List.append_nil] at hself
  refine hp ?_
  exact FileTree.isDirectory_of_prefix hstart (hself ▸ List.prefix_rfl)

/-- A path and the paths above it are the starts of it. -/
theorem mem_cons_ancestors_iff {q : Path} : q ∈ p :: p.ancestors ↔
    q.anchor = p.anchor ∧ q.segments <+: p.segments := by
  obtain ⟨anchor, segments⟩ := q
  obtain ⟨anchor', segments'⟩ := p
  rw [List.mem_cons, FileTree.mem_ancestors_iff]
  simp only [Path.mk.injEq]
  rcases List.eq_nil_or_concat' segments' with rfl | ⟨init, name, rfl⟩
  · simp
  · simp only [List.dropLast_concat, List.prefix_concat_iff]
    constructor
    · rintro (⟨rfl, rfl⟩ | ⟨rfl, hpre, -⟩)
      · exact ⟨rfl, .inl rfl⟩
      · exact ⟨rfl, .inr hpre⟩
    · rintro ⟨rfl, rfl | hpre⟩
      · exact .inl ⟨rfl, rfl⟩
      · exact .inr ⟨rfl, hpre, by simp⟩

/-- Nothing is in the way just if no directory on it is too long to be looked up, and all that
exists on it, from the root on, is a directory. -/
theorem blockedBy_eq_none_iff (hcwd : tree.isDirectory cwd) : blockedBy tree cwd p = none ↔
    (∀ q ∈ p.parent :: p.parent.ancestors, ¬ tooLong tree cwd q) ∧
    ∀ q : Path, q.segments <+: (absolute cwd p.parent).segments → tree.occupied q →
      tree.isDirectory q := by
  obtain ⟨start, hstart, habs⟩ := exists_start hcwd p.anchor
  have hparent : (absolute cwd p.parent).segments = start ++ p.segments.dropLast := habs _
  constructor
  · intro h
    refine ⟨fun q hq => (blockedBy_eq_none h hq).1, fun q hpre ho => ?_⟩
    obtain hin | ⟨rest, hrest, hseg⟩ := FileTree.prefix_append_cases (hparent ▸ hpre)
    · exact FileTree.isDirectory_of_prefix hstart hin
    · have hfind : tree.find? q = tree.find? (absolute cwd ⟨p.anchor, rest⟩) := by
        rw [FileTree.find?, FileTree.find?, FileTree.locate, FileTree.locate, hseg, habs]
      rw [FileTree.isDirectory, hfind]
      have hrest' : ⟨p.anchor, rest⟩ ∈ p.parent :: p.parent.ancestors :=
        mem_cons_ancestors_iff.2 ⟨rfl, hrest⟩
      exact (blockedBy_eq_none h hrest').2 (by rwa [FileTree.occupied, ← hfind])
  · rintro ⟨hshort, hdirs⟩
    refine List.findSome?_eq_none_iff.2 fun q hq => obstacle_eq_none_iff.2 ⟨hshort q hq, ?_⟩
    obtain ⟨anchor, rest⟩ := q
    obtain ⟨rfl, hrest⟩ := mem_cons_ancestors_iff.1 hq
    refine hdirs _ ?_
    rw [show p.parent.anchor = p.anchor from rfl, habs, hparent]
    exact (List.prefix_append_right_inj start).2 hrest

/-- Where nothing is in the way, no file stands above the path. -/
theorem find?_ne_file_of_blockedBy (hcwd : tree.isDirectory cwd) (h : blockedBy tree cwd p = none)
    {found : List Text} (hpre : found <+: (absolute cwd p.parent).segments) (bytes : List UInt8) :
    tree.find? ⟨.root, found⟩ ≠ some (.file bytes) := by
  intro hfile
  have hdir := ((blockedBy_eq_none_iff hcwd).1 h).2 ⟨.root, found⟩ hpre
    (by rw [FileTree.occupied, hfile]; rfl)
  simp [FileTree.isDirectory, hfile] at hdir

/-- A path that is refused before anything is changed. -/
inductive Refused (tree : FileTree) (cwd p : Path) : Prop where
  | long (h : tooLong tree cwd p)
  | directory (h : tree.isDirectory (absolute cwd p))
  | blocked (e : Fault) (h : blockedBy tree cwd p = some e)
  | unnamed (ho : ¬ tree.occupied (absolute cwd p.parent)) (hn : hasNull p.parent)

/-- What has to be so for a path not to be refused at once. -/
theorem not_refused_iff : ¬ Refused tree cwd p ↔ ¬ tooLong tree cwd p ∧
    ¬ tree.isDirectory (absolute cwd p) ∧ blockedBy tree cwd p = none ∧
    (¬ tree.occupied (absolute cwd p.parent) → ¬ hasNull p.parent) := by
  constructor
  · intro h
    refine ⟨fun hl => h (.long hl), fun hd => h (.directory hd), ?_,
      fun ho hn => h (.unnamed ho hn)⟩
    exact Option.eq_none_iff_forall_ne_some.2 fun e he => h (.blocked e he)
  · rintro ⟨hl, hd, hb, hn⟩ (h | h | ⟨e, h⟩ | ⟨ho, h⟩)
    · exact hl h
    · exact hd h
    · cases hb.symm.trans h
    · exact hn ho h

/-- A path that is refused at once leaves everything as it was. -/
theorem prepare_of_refused (h : Refused tree cwd p) : (prepare tree cwd p).tree = tree ∧
    (prepare tree cwd p).fault.isSome := by
  unfold prepare
  split_ifs with hl hd
  · exact ⟨rfl, rfl⟩
  · exact ⟨rfl, rfl⟩
  · cases hb : blockedBy tree cwd p with
    | some e => exact ⟨rfl, rfl⟩
    | none =>
      cases h with
      | long h => exact absurd h hl
      | directory h => exact absurd h hd
      | blocked e h => cases hb.symm.trans h
      | unnamed ho hn =>
        have hmake : makeParent tree cwd p =
            ⟨tree, [makingRecord p.parent], some (.path .embeddedNull)⟩ := by
          simp [makeParent, ho, hn]
        rw [hmake]
        exact ⟨rfl, rfl⟩

theorem not_refused_of_fault_eq_none (h : (prepare tree cwd p).fault = none) :
    ¬ Refused tree cwd p := by
  intro hr
  have hsome := (prepare_of_refused hr).2
  rw [h] at hsome
  cases hsome

/-- How the making of directories for `p` stops: at a file that turns up on the way, or at a missing
directory whose name is too long. -/
inductive Stops (tree made : FileTree) (segments : List Text) : Prop where
  | file (found : List Text) (place : Place) (bytes : List UInt8) (hpre : found <+: segments)
    (hplace : made.follow [] found = some place) (hfile : tree.entryAt? place = some (.file bytes))
  | name (start : List Text) (s : Text) (hpre : start ++ [s] <+: segments)
    (hlong : FileTree.isLongName s) (hnone : made.find? ⟨.root, start ++ [s]⟩ = none)
    (hdir : made.isDirectory ⟨.root, start⟩)

/-- A path that is not refused at once. Directories have been made on the way to it. Either that has
stopped and the path is refused, or what stands at the path is removed then. -/
theorem prepare_of_not_refused (h : ¬ Refused tree cwd p) :
    ∃ made, tree.Widened made (absolute cwd p.parent).segments ∧
      ((Stops tree made (absolute cwd p.parent).segments ∧
          ¬ tree.occupied (absolute cwd p.parent) ∧ (prepare tree cwd p).tree = made ∧
          ∃ reason, (prepare tree cwd p).fault = some (refused p reason)) ∨
        made.isDirectory (absolute cwd p.parent) ∧
          (prepare tree cwd p).tree = (clear made cwd p).tree ∧
          (prepare tree cwd p).fault = (clear made cwd p).fault) := by
  obtain ⟨hl, hd, hb, hnull⟩ := not_refused_iff.1 h
  unfold prepare
  rw [if_neg hl, if_neg hd, hb]
  dsimp only
  by_cases hm : (makeParent tree cwd p).fault.isSome
  · rw [if_pos hm]
    unfold makeParent at hm ⊢
    dsimp only at hm ⊢
    split at hm
    · cases hm
    · rename_i ho
      rw [if_neg (hnull ho), Option.isSome_map] at hm
      rw [if_neg ho, if_neg (hnull ho)]
      obtain ⟨found, hfound⟩ := Option.isSome_iff_exists.1 hm
      obtain ⟨hpre, hwide, hstop⟩ := FileTree.stopped_of_makeDirectories
        (FileTree.isDirectory_iff.2 ⟨[], rfl, rfl⟩) (Prod.ext rfl hfound)
      have hfault : (tree.makeDirectory (absolute cwd p.parent)).2.map (fun found =>
          refused p (stopReason (writtenStart p.parent (absolute cwd p.parent) found))) =
          some (refused p (stopReason (writtenStart p.parent (absolute cwd p.parent) found))) := by
        simp only [hfound, Option.map_some]
      refine ⟨_, hwide, .inl ⟨?_, ho, rfl, _, hfault⟩⟩
      obtain ⟨place, bytes, hplace, hfile⟩ | ⟨start, s, rfl, hlong, hnone, hdir⟩ := hstop
      · exact .file found place bytes hpre hplace hfile
      · exact .name start s hpre hlong hnone hdir
  · rw [if_neg hm]
    obtain ⟨hwide, hparent⟩ := fault_makeParent_eq_none hb (by simpa using hm)
    exact ⟨_, hwide, .inr ⟨hparent, rfl, rfl⟩⟩

/-- Nothing is removed at a path that cannot be looked up or that is a directory. -/
theorem fault_clear_isSome (h : (clear tree cwd p).fault.isSome) :
    (tooLong tree cwd p ∨ tree.isDirectory (absolute cwd p)) ∧ (clear tree cwd p).tree = tree := by
  unfold clear at h ⊢
  split_ifs at h ⊢ with hl hd
  · exact ⟨.inl hl, rfl⟩
  · exact ⟨.inr hd, rfl⟩
  · cases h
  · cases h

/-! ### Paths that are short enough -/

/-- The text of the path and each of its names is short enough for the file system. -/
structure Fits (p : Path) : Prop where
  text_le : Utf8.length p.toText ≤ pathLimit
  name_le : ∀ s ∈ p.segments, ¬ FileTree.isLongName s

/-- Fewer pieces make a start of the glued text. -/
theorem intercalate_isPrefix (glue : Text) {ws vs : List Text} (h : ws <+: vs) :
    glue.intercalate ws <+: glue.intercalate vs := by
  induction ws generalizing vs with
  | nil => exact List.nil_prefix
  | cons w ws ih =>
    obtain ⟨v, vs, rfl⟩ : ∃ v vs', vs = v :: vs' := by
      cases vs with
      | nil => cases List.prefix_nil.1 h
      | cons v vs => exact ⟨v, vs, rfl⟩
    obtain ⟨rfl, hrest⟩ := List.cons_prefix_cons.1 h
    cases ws with
    | nil =>
      cases vs with
      | nil => exact List.prefix_rfl
      | cons v vs =>
        rw [List.intercalate_singleton, List.intercalate_cons_cons, List.append_assoc]
        exact List.prefix_append _ _
    | cons x ws =>
      obtain ⟨v, vs, rfl⟩ := List.exists_cons_of_ne_nil fun hnil : vs = [] =>
        List.cons_ne_nil x ws (List.prefix_nil.1 (hnil ▸ hrest))
      rw [List.intercalate_cons_cons, List.intercalate_cons_cons]
      exact (List.prefix_append_right_inj _).2 (ih hrest)

/-- A start of a text has no more bytes than the text. -/
theorem length_le_of_isPrefix {t u : Text} (h : t <+: u) : Utf8.length t ≤ Utf8.length u := by
  obtain ⟨rest, rfl⟩ := h
  simp [Utf8.length, Utf8.encode]

/-- What leads to a path is not written longer than it; the path of no segments is one point. -/
theorem length_toText_le {q : Path} (hanchor : q.anchor = p.anchor)
    (hpre : q.segments <+: p.segments) :
    Utf8.length q.toText ≤ 1 ∨ Utf8.length q.toText ≤ Utf8.length p.toText := by
  have hraw : q.anchor.text ++ ['/'].intercalate q.segments <+:
      p.anchor.text ++ ['/'].intercalate p.segments := by
    rw [hanchor]
    exact (List.prefix_append_right_inj _).2 (intercalate_isPrefix _ hpre)
  unfold Path.toText
  cases hq : q.anchor.text ++ ['/'].intercalate q.segments with
  | nil => exact .inl (by decide)
  | cons c t =>
    obtain ⟨d, u, hp⟩ := List.exists_cons_of_ne_nil fun hnil =>
      List.cons_ne_nil c t (List.prefix_nil.1 (hnil ▸ hq ▸ hraw))
    rw [hq, hp] at hraw
    rw [hp]
    exact .inr (length_le_of_isPrefix hraw)

theorem Fits.of_prefix {q : Path} (h : Fits p) (hanchor : q.anchor = p.anchor)
    (hpre : q.segments <+: p.segments) : Fits q := by
  refine ⟨?_, fun s hs => h.name_le s (hpre.subset hs)⟩
  rcases length_toText_le hanchor hpre with hone | hle
  · exact Nat.le_trans hone (by decide)
  · exact Nat.le_trans hle h.text_le

/-- A path is too long if the way to a name on it that is too long is there. -/
theorem tooLong_of_name {tree : FileTree} {start : List Text} {s : Text}
    (hnull : hasNull p = false) (hlong : FileTree.isLongName s)
    (hpre : start ++ [s] <+: p.segments)
    (hdir : tree.isDirectory (absolute cwd ⟨p.anchor, start⟩)) : tooLong tree cwd p := by
  have hmem : ⟨p.anchor, start ++ [s]⟩ ∈ p :: p.ancestors := mem_cons_ancestors_iff.2 ⟨rfl, hpre⟩
  have hname : hasLongName ⟨p.anchor, start ++ [s]⟩ := by simpa [hasLongName] using hlong
  have hparent : tree.isDirectory (absolute cwd (Path.parent ⟨p.anchor, start ++ [s]⟩)) := by
    simpa [Path.parent] using hdir
  simp only [tooLong, Bool.and_eq_true, Bool.or_eq_true, Bool.not_eq_true', List.any_eq_true]
  exact ⟨hnull, .inr ⟨_, hmem, hname, hparent⟩⟩

/-- At a place that is ready nothing is left. -/
theorem cleared_of_prepare (h : (prepare tree cwd p).fault = none) :
    tree.Cleared (prepare tree cwd p).tree (absolute cwd p) := by
  obtain ⟨made, hwide, hparent, hnot, -, htree⟩ := prepared_of_fault_eq_none h
  rw [htree]
  exact FileTree.cleared_of_removeFile hwide hparent hnot

/-- A tree with a file `old` and an empty directory `d` in the directory `w`. -/
def workTree : FileTree :=
  ⟨[([['w']], .directory), ([['w'], ['o', 'l', 'd']], .file [111]), ([['w'], ['d']], .directory)]⟩

/-- The directory `w` of that tree. -/
def workDir : Path := ⟨.root, [['w']]⟩

end Output

end Flattener
