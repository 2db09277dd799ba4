import Flattener.Proofs.FinishOrder
import Mathlib.Data.Fintype.Card
import Mathlib.Data.List.Lex
import Mathlib.Data.Set.Finite.Basic
import Mathlib.Order.WellFounded

/-!
# The outcomes of ordering any graph

A graph may have edges that name labels which are no files, and it may have cycles. Ordering it
takes one label after the other, always the ready one of least rank (`Graph.Next`), until a stray
label is ready or nothing is (`Graph.Stuck`). The invariant is that each label that has been taken
was the next one in its turn (`Graph.Taken`).

What is taken never lies on a cycle, and neither does anything it imports. Conversely, where the
order is stuck, all labels without a cycle behind them (`Graph.Founded`) have been taken, since a
finite set of labels each of which waits for another one of them holds a cycle
(`exists_cycle_of_forall_exists`). So the outcome can be read off the edges.

* `Graph.orderAfter_cases` is the step and `Graph.exists_taken` the run.
* `Graph.Taken.eq_or_lt` compares the order with any other one that puts imports first: where they
  part, the order has the smaller rank.
* `arrange_outcomes` says which outcome a graph has.
-/

namespace Flattener

open Relation (TransGen ReflTransGen)

/-- Where each label of a finite set is reached in one step from another one of them, one of them
lies on a cycle. -/
theorem exists_cycle_of_forall_exists {α : Type} {R : α → α → Prop} {s : List α} {x : α}
    (hx : x ∈ s) (h : ∀ b ∈ s, ∃ a ∈ s, R a b) : ∃ a ∈ s, TransGen R a a := by
  by_contra hno
  push Not at hno
  let before : {a // a ∈ s} → {a // a ∈ s} → Prop := fun a b => TransGen R a b
  have : IsTrans _ before := ⟨fun _ _ _ => TransGen.trans⟩
  have : Std.Irrefl before := ⟨fun a => hno a.1 a.2⟩
  have : Finite {a // a ∈ s} := s.finite_toSet
  obtain ⟨m, -, hm⟩ := (Finite.wellFounded_of_trans_of_irrefl before).has_min Set.univ
    ⟨⟨x, hx⟩, trivial⟩
  obtain ⟨a, ha, ham⟩ := h m.1 m.2
  exact hm ⟨a, ha⟩ trivial (TransGen.single ham)

namespace Graph

variable {g : Graph} {done : List Text}

/-! ### Ranks -/

/-- The rank of a file: how many files were discovered before it. -/
def rank (g : Graph) (path : Text) : Nat := g.labels.idxOf path

theorem rank_lt_of_sublist {a b : Text} (h : [a, b].Sublist g.labels) : g.rank a < g.rank b := by
  have hranks : g.labels.Pairwise fun a b => g.rank a < g.rank b := by
    rw [List.pairwise_iff_getElem]
    intro i j hi hj hij
    rw [rank, rank, g.labels_nodup.idxOf_getElem, g.labels_nodup.idxOf_getElem]
    exact hij
  simpa using List.Pairwise.sublist h hranks

theorem eq_of_rank_eq {a b : Text} (ha : a ∈ g) (h : g.rank a = g.rank b) : a = b :=
  (List.idxOf_inj ha).1 h

/-! ### Labels -/

/-- An edge names the label, which is no file. -/
def NamedOnly (g : Graph) (path : Text) : Prop :=
  path ∉ g ∧ ∃ other, g.ImportedBy path other ∨ g.ImportedBy other path

/-- Nothing that the label needs, directly or through others, lies on a cycle, nor does it lie on
one itself. -/
def Founded (g : Graph) (path : Text) : Prop :=
  ∀ a, ReflTransGen g.ImportedBy a path → ¬ TransGen g.ImportedBy a a

theorem mem_stray {path : Text} : path ∈ g.stray ↔ g.NamedOnly path := by
  simp only [stray, List.mem_filter, List.mem_flatMap, List.mem_pair, decide_eq_true_eq, NamedOnly,
    ImportedBy]
  constructor
  · rintro ⟨⟨e, he, rfl | rfl⟩, hpath⟩
    · exact ⟨hpath, e.dependent, .inl he⟩
    · exact ⟨hpath, e.dependency, .inr he⟩
  · rintro ⟨hpath, other, he | he⟩
    · exact ⟨⟨_, he, .inl rfl⟩, hpath⟩
    · exact ⟨⟨_, he, .inr rfl⟩, hpath⟩

/-- What an edge names is a file or stray. -/
theorem mem_or_mem_stray_of_importedBy {a b : Text} (h : g.ImportedBy a b) :
    a ∈ g.labels ++ g.stray := by
  by_cases ha : a ∈ g
  · exact List.mem_append_left _ ha
  · exact List.mem_append_right _ (mem_stray.2 ⟨ha, b, .inl h⟩)

/-! ### The step -/

/-- Everything that the label imports has been taken. -/
def Ready (g : Graph) (done : List Text) (path : Text) : Prop :=
  ∀ a, g.ImportedBy a path → a ∈ done

/-- The file that is to be taken after those in `done`: it is ready, and those that are left and
were discovered before it are not. -/
structure Next (g : Graph) (done : List Text) (path : Text) : Prop where
  mem : path ∈ g
  notMem : path ∉ done
  ready : g.Ready done path
  least : ∀ q ∈ g, q ∉ done → g.rank q < g.rank path → ¬ g.Ready done q

/-- Nothing that is left is ready. -/
def Stuck (g : Graph) (done : List Text) : Prop :=
  ∀ path ∈ g.labels ++ g.stray, path ∉ done → ¬ g.Ready done path

/-- The first ready one of the files that are left is the next one. -/
theorem next_of_filter {before after : List Text} {path : Text}
    (h : g.labels.filter (· ∉ done) = before ++ path :: after) (hready : g.Ready done path)
    (hlate : ∀ q ∈ before, ¬ g.Ready done q) : g.Next done path := by
  have hmem : path ∈ g.labels.filter (· ∉ done) := by
    rw [h]
    simp
  obtain ⟨hpath, hdone⟩ := List.mem_filter.1 hmem
  refine ⟨hpath, by simpa using hdone, hready, fun q hq hqd hrank => ?_⟩
  have hleft : q ∈ before ++ path :: after := by
    rw [← h]
    exact List.mem_filter.2 ⟨hq, by simpa using hqd⟩
  rcases List.mem_append.1 hleft with hb | ha
  · exact hlate q hb
  · rcases List.mem_cons.1 ha with rfl | ha
    · exact absurd hrank (lt_irrefl _)
    · -- what stands behind the file was discovered later
      have hsub : [path, q].Sublist g.labels := by
        refine List.Sublist.trans ?_ (List.filter_sublist (p := (· ∉ done)))
        rw [h]
        exact (List.Sublist.cons_cons path (List.singleton_sublist.2 ha)).trans
          (List.sublist_append_right before _)
      exact absurd hrank (rank_lt_of_sublist hsub).asymm

/-- The order of what is left after `done`. -/
def orderAfter (g : Graph) (done : List Text) : Except OrderFault (List Text) :=
  orderFrom ((g.labels.filter (!done.contains ·)).map (g.waitingAfter done))
    (g.stray.map (g.waitingAfter done))

theorem orderAfter_eq (g : Graph) (done : List Text) : g.orderAfter done =
    orderFrom ((g.labels.filter (· ∉ done)).map (g.waitingAfter done))
      (g.stray.map (g.waitingAfter done)) := by
  simp only [orderAfter, List.contains_eq_mem, decide_not]

theorem order_eq_orderAfter (g : Graph) : g.order = g.orderAfter [] := by
  simp [order, orderAfter, waitingAfter_nil]

/-- The step: a stray label is ready, or the next file is taken, or nothing is ready. -/
theorem orderAfter_cases (g : Graph) (done : List Text) :
    (∃ path ∈ g.stray, g.Ready done path ∧ g.orderAfter done = .error (.unranked path)) ∨
    (∃ path, g.Next done path ∧
      g.orderAfter done = (g.orderAfter (done ++ [path])).map (path :: ·)) ∨
    (g.Stuck done ∧ g.orderAfter done =
      if g.labels ⊆ done ∧ g.stray = [] then .ok [] else .error .cyclic) := by
  simp only [orderAfter_eq]
  rw [orderFrom]
  split
  · rename_i w hw
    obtain ⟨path, hpath, rfl⟩ := List.mem_map.1 (List.mem_of_find?_eq_some hw)
    exact .inl ⟨path, hpath, isReady_waitingAfter.1 (List.find?_some hw), rfl⟩
  · rename_i hstray
    have hstuck : ∀ path ∈ g.stray, ¬ g.Ready done path := by
      intro path hpath hready
      exact List.find?_eq_none.1 hstray _ (List.mem_map_of_mem hpath)
        (isReady_waitingAfter.2 hready)
    split
    · rename_i w hw
      obtain ⟨hready, front, back, hsplit, hfront⟩ := List.find?_eq_some_iff_append.1 hw
      obtain ⟨before, rest, hfilter, rfl, hrest⟩ := List.map_eq_append_iff.1 hsplit
      obtain ⟨p, after, rfl, rfl, rfl⟩ := List.map_eq_cons_iff.1 hrest
      have hlate : ∀ q ∈ before, ¬ (g.waitingAfter done q).isReady := fun q hq => by
        simpa using hfront _ (List.mem_map_of_mem hq)
      refine .inr (.inl ⟨p, next_of_filter hfilter (isReady_waitingAfter.1 hready) fun q hq hr =>
        hlate q hq (isReady_waitingAfter.2 hr), ?_⟩)
      rw [hfilter, path_waitingAfter, map_release_eraseP hready hlate, filter_notMem_concat hfilter,
        List.map_map]
      congr 3
      exact funext (release_waitingAfter g done p)
    · rename_i hnone
      refine .inr (.inr ⟨?_, ?_⟩)
      · intro path hpath hdone hready
        rcases List.mem_append.1 hpath with hfile | hpath
        · have hleft : path ∈ g.labels.filter (· ∉ done) := by simpa [hdone] using hfile
          exact List.find?_eq_none.1 hnone _ (List.mem_map_of_mem hleft)
            (isReady_waitingAfter.2 hready)
        · exact hstuck path hpath hready
      · simp [List.filter_eq_nil_iff, List.subset_def]

/-! ### The run -/

/-- Each label that has been taken was the next one in its turn. -/
def Taken (g : Graph) (done : List Text) : Prop :=
  ∀ before path after, done = before ++ path :: after → g.Next before path

namespace Taken

theorem nil : g.Taken [] := fun before path after h => absurd h.symm (by simp)

theorem concat (h : g.Taken done) {path : Text} (hp : g.Next done path) :
    g.Taken (done ++ [path]) := by
  intro before q after hsplit
  rcases concat_eq_append_cons hsplit with ⟨rfl, rfl⟩ | ⟨after', hdone⟩
  · exact hp
  · exact h before q after' hdone

theorem of_append {later : List Text} (h : g.Taken (done ++ later)) : g.Taken done := by
  rintro before path after rfl
  exact h before path (after ++ later) (by simp)

theorem mem (h : g.Taken done) {path : Text} (hp : path ∈ done) : path ∈ g := by
  obtain ⟨before, after, hsplit⟩ := List.append_of_mem hp
  exact (h before path after hsplit).mem

theorem nodup (h : g.Taken done) : done.Nodup := by
  induction done using List.reverseRecOn with
  | nil => exact List.nodup_nil
  | append_singleton done path ih =>
    have hpath : path ∉ done := (h done path [] rfl).notMem
    have hdone : done.Nodup := ih h.of_append
    exact List.nodup_middle.2 (List.nodup_cons.2 ⟨by simpa using hpath, by simpa using hdone⟩)

/-- What a taken label needs, directly or through others, has been taken. -/
theorem mem_of_reflTransGen (h : g.Taken done) {a b : Text} (hb : b ∈ done)
    (hab : ReflTransGen g.ImportedBy a b) : a ∈ done := by
  induction hab using ReflTransGen.head_induction_on with
  | refl => exact hb
  | head hac _ ih =>
    obtain ⟨before, after, hsplit⟩ := List.append_of_mem ih
    have ha := (h before _ after hsplit).ready _ hac
    exact hsplit ▸ List.mem_append_left _ ha

/-- A taken label lies on no cycle: what it needs was taken before it. -/
theorem not_transGen (h : g.Taken done) {a : Text} (ha : a ∈ done) :
    ¬ TransGen g.ImportedBy a a := by
  intro hcycle
  obtain ⟨before, after, rfl⟩ := List.append_of_mem ha
  have hnext := h before a after rfl
  obtain ⟨c, hac, hca⟩ := TransGen.tail'_iff.1 hcycle
  exact hnext.notMem (h.of_append.mem_of_reflTransGen (hnext.ready c hca) hac)

/-- A label that is ready but not taken has no cycle behind it. -/
theorem founded (h : g.Taken done) {path : Text} (hready : g.Ready done path)
    (hpath : path ∉ done) : g.Founded path := by
  intro a hap hcycle
  rcases ReflTransGen.cases_tail hap with rfl | ⟨c, hac, hc⟩
  · obtain ⟨c, hpc, hc⟩ := TransGen.tail'_iff.1 hcycle
    exact hpath (h.mem_of_reflTransGen (hready c hc) hpc)
  · exact h.not_transGen (h.mem_of_reflTransGen (hready c hc) hac) hcycle

end Taken

/-- Where nothing is ready, everything without a cycle behind it has been taken. -/
theorem Stuck.mem_of_founded (h : g.Stuck done) {path : Text} (hpath : path ∈ g.labels ++ g.stray)
    (hf : g.Founded path) : path ∈ done := by
  classical
  by_contra hdone
  -- what the label needs and is still left: each of these waits for another one
  let left := (g.labels ++ g.stray).filter fun a => a ∉ done ∧ ReflTransGen g.ImportedBy a path
  have hmem : ∀ a, a ∈ left ↔ a ∈ g.labels ++ g.stray ∧ a ∉ done ∧
      ReflTransGen g.ImportedBy a path := fun a => by
    simp only [left, List.mem_filter, decide_eq_true_eq]
  have hwaits : ∀ b ∈ left, ∃ a ∈ left, g.ImportedBy a b := by
    intro b hb
    obtain ⟨hb, hbdone, hbpath⟩ := (hmem b).1 hb
    have hnot := h b hb hbdone
    simp only [Ready, not_forall] at hnot
    obtain ⟨a, hab, ha⟩ := hnot
    exact ⟨a, (hmem a).2 ⟨mem_or_mem_stray_of_importedBy hab, ha, hbpath.head hab⟩, hab⟩
  obtain ⟨a, ha, hcycle⟩ :=
    exists_cycle_of_forall_exists ((hmem path).2 ⟨hpath, hdone, .refl⟩) hwaits
  exact hf a ((hmem a).1 ha).2.2 hcycle

/-- The run: files are taken until a stray label is ready or nothing is. -/
theorem exists_taken (done : List Text) (h : g.Taken done) : ∃ later, g.Taken (done ++ later) ∧
    ((∃ path ∈ g.stray, g.Ready (done ++ later) path ∧
      g.orderAfter done = .error (.unranked path)) ∨
    (g.Stuck (done ++ later) ∧ g.orderAfter done =
      if g.labels ⊆ done ++ later ∧ g.stray = [] then .ok later else .error .cyclic)) := by
  rcases g.orderAfter_cases done with ⟨path, hpath, hready, horder⟩ | ⟨path, hnext, horder⟩ |
    ⟨hstuck, horder⟩
  · exact ⟨[], by simpa using h, .inl ⟨path, hpath, by simpa using hready, horder⟩⟩
  · obtain ⟨later, htaken, houtcome⟩ := exists_taken (done ++ [path]) (h.concat hnext)
    rw [List.append_assoc, List.singleton_append] at htaken houtcome
    refine ⟨path :: later, htaken, ?_⟩
    rcases houtcome with ⟨x, hx, hready, herror⟩ | ⟨hstuck, hend⟩
    · exact .inl ⟨x, hx, hready, by rw [horder, herror]; rfl⟩
    · refine .inr ⟨hstuck, ?_⟩
      rw [horder, hend]
      split <;> rfl
  · exact ⟨[], by simpa using h, .inr ⟨by simpa using hstuck, by simpa using horder⟩⟩
termination_by (g.labels.filter (· ∉ done)).length
decreasing_by
  have hleft : path ∈ g.labels.filter (· ∉ done) :=
    List.mem_filter.2 ⟨hnext.mem, by simpa using hnext.notMem⟩
  obtain ⟨before, after, hsplit⟩ := List.append_of_mem hleft
  rw [filter_notMem_concat hsplit, hsplit]
  simp

/-! ### The outcomes -/

/-- An order of the files in which every edge points forward. -/
structure Forward (g : Graph) (files : List Text) : Prop where
  perm : files.Perm g.labels
  imports_first : ∀ a b, g.ImportedBy a b → [a, b].Sublist files

/-- The order that has been taken, when it comes to all files and there is no cycle. -/
theorem Taken.forward {files : List Text} (h : g.Taken files) (hall : g.labels ⊆ files)
    (hmem : ∀ a b, g.ImportedBy a b → b ∈ g) : g.Forward files where
  perm := (List.perm_ext_iff_of_nodup h.nodup g.labels_nodup).2
    fun _ => ⟨fun ha => h.mem ha, fun ha => hall ha⟩
  imports_first a b hab := by
    obtain ⟨before, after, hsplit⟩ := List.append_of_mem (hall (hmem a b hab))
    have ha := (h before b after hsplit).ready a hab
    rw [hsplit]
    exact (List.singleton_sublist.2 ha).append (List.singleton_sublist.2 List.mem_cons_self)

namespace Forward

variable {later : List Text} {path : Text}

theorem notMem (h : g.Forward (done ++ path :: later)) : path ∉ done ++ later :=
  (List.nodup_cons.1 (List.nodup_middle.1 (h.perm.nodup_iff.2 g.labels_nodup))).1

/-- In an order in which every edge points forward, each file is ready in its turn. -/
theorem ready (h : g.Forward (done ++ path :: later)) : g.Ready done path := by
  intro a ha
  have hlater : path ∉ later := fun hp => h.notMem (List.mem_append_right _ hp)
  obtain ⟨front, back, hsplit, hfront, hback⟩ :=
    List.sublist_append_iff.1 (h.imports_first a path ha)
  match front, hsplit with
  | [], hsplit =>
    obtain rfl : [a, path] = back := hsplit
    cases hback with
    | cons _ hback => exact absurd (hback.subset (by simp)) hlater
    | cons_cons _ hback => exact absurd (hback.subset (by simp)) hlater
  | b :: front, hsplit =>
    obtain ⟨rfl, -⟩ := List.cons.inj hsplit
    exact hfront.subset List.mem_cons_self

end Forward

/-- The order that has been taken comes before every other one in which each edge points forward:
where the two part, it takes the ready file of least rank. -/
theorem Taken.eq_or_lt (done : List Text) {later other : List Text} (h : g.Taken (done ++ later))
    (ho : g.Forward (done ++ other)) (hlength : later.length = other.length) :
    other = later ∨ later.map g.rank < other.map g.rank := by
  induction later generalizing done other with
  | nil => exact .inl (List.length_eq_zero_iff.1 hlength.symm)
  | cons p later ih =>
    obtain ⟨q, other, rfl⟩ := List.exists_cons_of_length_eq_add_one hlength.symm
    rw [List.map_cons, List.map_cons, List.cons_lt_cons_iff]
    by_cases hpq : q = p
    · subst hpq
      have htail := ih (done ++ [q]) (by simpa using h) (by simpa using ho)
        (by simpa using hlength)
      exact htail.imp (congrArg _) fun hlt => .inr ⟨rfl, hlt⟩
    · have hnext := h done p later rfl
      have hq : q ∈ g := ho.perm.mem_iff.1 (by simp)
      have hqdone : q ∉ done := fun hd => ho.notMem (List.mem_append_left _ hd)
      have hle : ¬ g.rank q < g.rank p := fun hlt => hnext.least q hq hqdone hlt ho.ready
      have hne : g.rank q ≠ g.rank p := fun heq => hpq (eq_of_rank_eq hq heq)
      exact .inr (.inl (by omega))

/-- Which outcome a graph has. -/
theorem order_cases (g : Graph) :
    (∃ path, g.NamedOnly path ∧ g.Founded path ∧ g.order = .error (.unranked path)) ∨
    ((∀ path, g.NamedOnly path → ¬ g.Founded path) ∧ g.Cyclic ∧ g.order = .error .cyclic) ∨
    ((∀ path, g.NamedOnly path → ¬ g.Founded path) ∧ ¬ g.Cyclic ∧
      ∃ files, g.order = .ok files ∧ g.Taken files ∧ g.Forward files) := by
  obtain ⟨files, htaken, houtcome⟩ := exists_taken [] (@Taken.nil g)
  rw [List.nil_append] at htaken houtcome
  rw [order_eq_orderAfter]
  have hoff : ∀ path, g.NamedOnly path → path ∉ files := fun path hp hf => hp.1 (htaken.mem hf)
  rcases houtcome with ⟨path, hpath, hready, horder⟩ | ⟨hstuck, horder⟩
  · have hnamed := mem_stray.1 hpath
    exact .inl ⟨path, hnamed, htaken.founded hready (hoff path hnamed), horder⟩
  · have hnone : ∀ path, g.NamedOnly path → ¬ g.Founded path := fun path hp hf =>
      hoff path hp (hstuck.mem_of_founded (List.mem_append_right _ (mem_stray.2 hp)) hf)
    refine .inr ?_
    by_cases hc : g.Cyclic
    · refine .inl ⟨hnone, hc, ?_⟩
      obtain ⟨a, hcycle⟩ := hc
      obtain ⟨b, hab, -⟩ := TransGen.head'_iff.1 hcycle
      rw [horder, if_neg]
      rintro ⟨hall, hstray⟩
      have ha := mem_or_mem_stray_of_importedBy hab
      rw [hstray, List.append_nil] at ha
      exact htaken.not_transGen (hall ha) hcycle
    · have hfounded : ∀ path, g.Founded path := fun path a _ hcycle => hc ⟨a, hcycle⟩
      have hstray : ∀ path, ¬ g.NamedOnly path := fun path hp => hnone path hp (hfounded path)
      have hall : g.labels ⊆ files := fun path hp =>
        hstuck.mem_of_founded (List.mem_append_left _ hp) (hfounded path)
      refine .inr ⟨hnone, hc, files, ?_, htaken, htaken.forward hall fun a b hab => ?_⟩
      · rw [horder, if_pos ⟨hall, List.eq_nil_iff_forall_not_mem.2 fun path hp =>
          hstray path (mem_stray.1 hp)⟩]
      · by_contra hb
        exact hstray b ⟨hb, a, .inr hab⟩

end Graph

/-- The files of any graph are arranged with exactly these outcomes. A label that is no file is in
the way just if one is named that has no cycle behind it. Otherwise the files are refused, with the
files in order of discovery, just if the edges contain a cycle. Otherwise they are put in an order
in which every edge points forward, and its sequence of ranks is less than that of any other such
order. -/
theorem arrange_outcomes (g : Graph) :
    ((∃ path, (Bundle.arrange g).result = .error (.unknownFile path)) ↔
      ∃ path, g.NamedOnly path ∧ g.Founded path) ∧
    ((Bundle.arrange g).result = .error (.failure (.cyclic g.labels)) ↔
      (¬ ∃ path, g.NamedOnly path ∧ g.Founded path) ∧ g.Cyclic) ∧
    ((∃ files, (Bundle.arrange g).result = .ok files) ↔
      (¬ ∃ path, g.NamedOnly path ∧ g.Founded path) ∧ ¬ g.Cyclic) ∧
    ∀ files, (Bundle.arrange g).result = .ok files → g.Forward files ∧
      ∀ other, g.Forward other → other ≠ files → files.map g.rank < other.map g.rank := by
  have hresult := @result_arrange g
  rcases g.order_cases with ⟨path, hnamed, hfounded, horder⟩ | ⟨hnone, hc, horder⟩ |
    ⟨hnone, hc, files, horder, htaken, hforward⟩
  · have hsome : ∃ path, g.NamedOnly path ∧ g.Founded path := ⟨path, hnamed, hfounded⟩
    rw [hresult, horder]
    exact ⟨⟨fun _ => hsome, fun _ => ⟨path, rfl⟩⟩, ⟨nofun, fun h => absurd hsome h.1⟩,
      ⟨nofun, fun h => absurd hsome h.1⟩, nofun⟩
  · have hno : ¬ ∃ path, g.NamedOnly path ∧ g.Founded path := fun ⟨path, hp, hf⟩ => hnone path hp hf
    rw [hresult, horder]
    exact ⟨⟨nofun, fun h => absurd h hno⟩, ⟨fun _ => ⟨hno, hc⟩, fun _ => rfl⟩,
      ⟨nofun, fun h => absurd hc h.2⟩, nofun⟩
  · have hno : ¬ ∃ path, g.NamedOnly path ∧ g.Founded path := fun ⟨path, hp, hf⟩ => hnone path hp hf
    rw [hresult, horder]
    refine ⟨⟨nofun, fun h => absurd h hno⟩, ⟨nofun, fun h => absurd h.2 hc⟩,
      ⟨fun _ => ⟨hno, hc⟩, fun _ => ⟨files, rfl⟩⟩, fun l hl => ?_⟩
    obtain rfl : files = l := Except.ok.inj hl
    refine ⟨hforward, fun other hother hne => ?_⟩
    have hlength := (hforward.perm.trans hother.perm.symm).length_eq
    exact (Graph.Taken.eq_or_lt [] htaken hother hlength).resolve_left hne

end Flattener
