import Flattener.Graph.Order
import Mathlib.Data.List.Nodup
import Mathlib.Data.List.Perm.Basic
import Mathlib.Logic.Relation

/-!
# What the dependency order is

`Graph.order` repeatedly takes the ready label of least rank. Two facts about it are proved here
for graphs whose edges join files (`Graph.Closed`), so that no stray label can get in the way.

* `Graph.order_eq_cyclic`: where imports form a cycle, the order is refused as cyclic.
* `Graph.order_eq_ok`: a list in which every label follows its imports, and in which a label that
  was discovered earlier than its turn still waits for something (`Graph.Serves`), *is* the order.

The second fact says nothing about how such a list is found; that a depth-first walk finds one is
the subject of `Flattener.Proofs.FinishOrder`.
-/

namespace Flattener

namespace Graph

variable {g : Graph}

/-- The file labelled `a` is imported by the one labelled `b`. -/
def ImportedBy (g : Graph) (a b : Text) : Prop := (⟨a, b⟩ : Edge) ∈ g.edges

/-- Some file imports itself, directly or through others. -/
def Cyclic (g : Graph) : Prop := ∃ path, Relation.TransGen g.ImportedBy path path

/-- Every edge joins two files of the graph. -/
def Closed (g : Graph) : Prop := ∀ e ∈ g.edges, e.dependency ∈ g ∧ e.dependent ∈ g

theorem labels_nodup (g : Graph) : g.labels.Nodup := g.files_nodup

/-- More edges keep a cycle. -/
theorem Cyclic.mono {g' : Graph} (h : g.edges ⊆ g'.edges) (hc : g.Cyclic) : g'.Cyclic := by
  obtain ⟨path, hp⟩ := hc
  exact ⟨path, hp.lift id fun _ _ he => h he⟩

/-- No label of a closed graph is stray. -/
theorem Closed.stray_eq_nil (h : g.Closed) : g.stray = [] := by
  unfold stray
  rw [List.filter_eq_nil_iff]
  intro path hp
  obtain ⟨e, he, hm⟩ := List.mem_flatMap.1 hp
  obtain ⟨hd, ht⟩ := h e he
  rcases List.mem_pair.1 hm with rfl | rfl
  · simpa using hd
  · simpa using ht

/-! ### Waiting labels -/

/-- A label with those of its imports that are not in the list `done`. -/
def waitingAfter (g : Graph) (done : List Text) (path : Text) : Waiting :=
  ⟨path, ((g.edges.filter (·.dependent = path)).map Edge.dependency).filter (!done.contains ·)⟩

@[simp]
theorem path_waitingAfter (g : Graph) (done : List Text) (path : Text) :
    (g.waitingAfter done path).path = path := rfl

theorem waitingAfter_nil : g.waitingAfter [] = g.waiting := by
  funext path
  simp [waitingAfter, waiting]

/-- A label waits for the imports that are not done. -/
theorem mem_needs_waitingAfter {done : List Text} {a b : Text} :
    a ∈ (g.waitingAfter done b).needs ↔ g.ImportedBy a b ∧ a ∉ done := by
  simp only [waitingAfter, List.mem_filter, List.mem_map, decide_eq_true_eq, ImportedBy,
    Bool.not_eq_true', List.contains_eq_mem, decide_eq_false_iff_not]
  constructor
  · rintro ⟨⟨e, ⟨he, rfl⟩, rfl⟩, hd⟩
    exact ⟨he, hd⟩
  · rintro ⟨he, hd⟩
    exact ⟨⟨⟨a, b⟩, ⟨he, rfl⟩, rfl⟩, hd⟩

theorem isReady_waitingAfter {done : List Text} {path : Text} :
    (g.waitingAfter done path).isReady ↔ ∀ a, g.ImportedBy a path → a ∈ done := by
  unfold Waiting.isReady
  rw [List.isEmpty_iff, List.eq_nil_iff_forall_not_mem]
  refine forall_congr' fun a => ?_
  rw [mem_needs_waitingAfter, not_and_not_right]

/-- Taking one more label releases those that waited for it. -/
theorem release_waitingAfter (g : Graph) (done : List Text) (p path : Text) :
    (g.waitingAfter done path).release p = g.waitingAfter (done ++ [p]) path := by
  simp only [waitingAfter, Waiting.release, List.filter_filter]
  congr 2
  funext a
  simp [Bool.and_comm]

/-- Once one more label is taken, the others are left. -/
theorem filter_notMem_concat {done before after : List Text} {p : Text}
    (h : g.labels.filter (· ∉ done) = before ++ p :: after) :
    g.labels.filter (· ∉ done ++ [p]) = before ++ after := by
  have hnodup : (before ++ p :: after).Nodup := h ▸ g.labels_nodup.filter _
  have hp : p ∉ before ++ after := (List.nodup_middle.1 hnodup).notMem
  calc g.labels.filter (· ∉ done ++ [p])
      = (g.labels.filter (· ∉ done)).filter (· ≠ p) := by
        rw [List.filter_filter]
        refine List.filter_congr fun a _ => ?_
        simp [and_comm]
    _ = (before ++ after).filter (· ≠ p) := by
        rw [h]
        simp
    _ = before ++ after := List.filter_eq_self.2 fun a ha => by
        simpa using fun h : a = p => hp (h ▸ ha)

section

variable {done before after : List Text} {p : Text}

/-- A ready label is found if none before it is ready. -/
theorem find?_map_waitingAfter (hready : (g.waitingAfter done p).isReady)
    (hlate : ∀ q ∈ before, ¬ (g.waitingAfter done q).isReady) :
    ((before ++ p :: after).map (g.waitingAfter done)).find? Waiting.isReady =
      some (g.waitingAfter done p) := by
  rw [List.find?_eq_some_iff_append]
  refine ⟨hready, before.map (g.waitingAfter done), after.map (g.waitingAfter done), by simp, ?_⟩
  intro w hw
  obtain ⟨q, hq, rfl⟩ := List.mem_map.1 hw
  simpa using hlate q hq

/-- Those that are left when a ready label is taken, and none before it is ready. -/
theorem map_release_eraseP (hready : (g.waitingAfter done p).isReady)
    (hlate : ∀ q ∈ before, ¬ (g.waitingAfter done q).isReady) :
    (((before ++ p :: after).map (g.waitingAfter done)).eraseP Waiting.isReady).map (.release p) =
      (before ++ after).map (g.waitingAfter (done ++ [p])) := by
  have hnone : ∀ w ∈ before.map (g.waitingAfter done), ¬ w.isReady := by
    intro w hw
    obtain ⟨q, hq, rfl⟩ := List.mem_map.1 hw
    exact hlate q hq
  have hrel : Waiting.release p ∘ g.waitingAfter done = g.waitingAfter (done ++ [p]) :=
    funext (release_waitingAfter g done p)
  rw [List.map_append, List.map_cons, List.eraseP_append_right _ hnone,
    List.eraseP_cons_of_pos hready, ← List.map_append, List.map_map, hrel]

end

/-! ### Steps of the order -/

/-- The first ready label is taken. -/
theorem orderFrom_of_ready {ranked : List Waiting} {w : Waiting}
    (h : ranked.find? Waiting.isReady = some w) :
    orderFrom ranked [] =
      (orderFrom ((ranked.eraseP Waiting.isReady).map (.release w.path)) []).map (w.path :: ·) := by
  rw [orderFrom]
  simp only [List.find?_nil, List.map_nil]
  split
  · rename_i v hv
    obtain rfl : w = v := Option.some.inj (h.symm.trans hv)
    rfl
  · rename_i hv
    exact absurd (h.symm.trans hv) (by simp)

/-- Without a ready label the order ends. -/
theorem orderFrom_of_stuck {ranked : List Waiting} (h : ranked.find? Waiting.isReady = none) :
    orderFrom ranked [] = if ranked.isEmpty then .ok [] else .error .cyclic := by
  rw [orderFrom]
  simp only [List.find?_nil]
  split
  · rename_i v hv
    exact absurd (h.symm.trans hv) (by simp)
  · simp

/-! ### Cycles -/

/-- As long as each label of `cycle` waits for another one of them, none of them gets ready, so the
order does not come to an end. -/
theorem orderFrom_eq_cyclic {cycle : List Text} (hne : cycle ≠ []) (ranked : List Waiting)
    (hin : ∀ path ∈ cycle, ∃ w ∈ ranked, w.path = path)
    (hwait : ∀ w ∈ ranked, w.path ∈ cycle → ∃ a ∈ w.needs, a ∈ cycle) :
    orderFrom ranked [] = .error .cyclic := by
  cases hw : ranked.find? Waiting.isReady with
  | some w =>
    have hready : w.isReady := List.find?_some hw
    -- The label that is taken lies outside the cycle, so the cycle keeps waiting for itself.
    have hout : w.path ∉ cycle := by
      intro hc
      obtain ⟨a, ha, -⟩ := hwait w (List.mem_of_find?_eq_some hw) hc
      rw [List.isEmpty_iff.1 hready] at ha
      exact List.not_mem_nil ha
    rw [orderFrom_of_ready hw,
      orderFrom_eq_cyclic hne ((ranked.eraseP Waiting.isReady).map (.release w.path)) ?_ ?_]
    · rfl
    · intro path hp
      obtain ⟨v, hv, rfl⟩ := hin path hp
      have hnot : ¬ v.isReady := by
        intro hr
        obtain ⟨a, ha, -⟩ := hwait v hv hp
        rw [List.isEmpty_iff.1 hr] at ha
        exact List.not_mem_nil ha
      exact ⟨v.release w.path,
        List.mem_map_of_mem ((List.mem_eraseP_of_neg hnot).2 hv), rfl⟩
    · intro v hv hc
      obtain ⟨u, hu, rfl⟩ := List.mem_map.1 hv
      obtain ⟨a, ha, hac⟩ := hwait u (List.mem_of_mem_eraseP hu) hc
      refine ⟨a, List.mem_filter.2 ⟨ha, ?_⟩, hac⟩
      exact decide_eq_true fun h : a = w.path => hout (h ▸ hac)
  | none =>
    obtain ⟨path, hp⟩ := List.exists_mem_of_ne_nil cycle hne
    obtain ⟨w, hmem, -⟩ := hin path hp
    have hempty : ranked.isEmpty = false := List.isEmpty_eq_false_iff.2 (List.ne_nil_of_mem hmem)
    rw [orderFrom_of_stuck hw, hempty]
    rfl
termination_by ranked.length
decreasing_by
  have hm := List.mem_of_find?_eq_some hw
  have hp := List.length_pos_of_mem hm
  rw [List.length_map, List.length_eraseP_of_mem hm hready]
  omega

/-- Where imports form a cycle there is no order. -/
theorem order_eq_cyclic (hclosed : g.Closed) (hc : g.Cyclic) : g.order = .error .cyclic := by
  classical
  obtain ⟨path, hp⟩ := hc
  unfold order
  rw [hclosed.stray_eq_nil, List.map_nil]
  -- The labels that lie on a cycle: each of them imports one of them.
  let onCycle := g.labels.filter fun a => Relation.TransGen g.ImportedBy a a
  have hmem : ∀ a, Relation.TransGen g.ImportedBy a a → a ∈ onCycle := by
    intro a ha
    refine List.mem_filter.2 ⟨?_, by simpa using ha⟩
    obtain ⟨b, -, hb⟩ := Relation.TransGen.tail'_iff.1 ha
    exact (hclosed _ hb).2
  refine orderFrom_eq_cyclic (List.ne_nil_of_mem (hmem path hp)) _ ?_ ?_
  · intro a ha
    exact ⟨g.waiting a, List.mem_map_of_mem (List.mem_filter.1 ha).1, rfl⟩
  · intro w hw hc
    obtain ⟨a, -, rfl⟩ := List.mem_map.1 hw
    have ha : Relation.TransGen g.ImportedBy a a := of_decide_eq_true (List.mem_filter.1 hc).2
    obtain ⟨b, hab, hb⟩ := Relation.TransGen.tail'_iff.1 ha
    refine ⟨b, ?_, hmem b (Relation.TransGen.head'_iff.2 ⟨a, hb, hab⟩)⟩
    rw [← waitingAfter_nil]
    exact mem_needs_waitingAfter.2 ⟨hb, List.not_mem_nil⟩

/-! ### The order of an acyclic graph -/

/-- A list of labels serves as an order of the graph by rank: every label stands behind its
imports, and at the turn of a label, those that were discovered before it and are still to come
wait for something that is still to come. -/
structure Serves (g : Graph) (files : List Text) : Prop where
  perm : files.Perm g.labels
  imports_before : ∀ done p later, files = done ++ p :: later → ∀ a, g.ImportedBy a p → a ∈ done
  earlier_waits : ∀ done p later, files = done ++ p :: later → ∀ q ∉ done, [q, p].Sublist g.labels →
    ∃ a ∉ done, g.ImportedBy a q

/-- The label whose turn it is stands first among those that are left and ready. -/
theorem Serves.exists_split {files done later : List Text} {p : Text} (h : g.Serves files)
    (hf : files = done ++ p :: later) :
    ∃ before after, g.labels.filter (· ∉ done) = before ++ p :: after ∧
      (g.waitingAfter done p).isReady ∧ (∀ q ∈ before, ¬ (g.waitingAfter done q).isReady) ∧
      g.labels.filter (· ∉ done ++ [p]) = before ++ after := by
  have hp : p ∈ g.labels.filter (· ∉ done) := by
    have hnodup : files.Nodup := h.perm.nodup_iff.2 g.labels_nodup
    have hpf : p ∈ files := by simp [hf]
    have hpd : p ∉ done := by
      rw [hf] at hnodup
      exact fun hc => (List.disjoint_of_nodup_append hnodup) hc List.mem_cons_self
    simpa [hpd] using h.perm.mem_iff.1 hpf
  obtain ⟨before, after, hsplit⟩ := List.append_of_mem hp
  refine ⟨before, after, hsplit, isReady_waitingAfter.2 (h.imports_before done p later hf), ?_, ?_⟩
  · -- what was discovered earlier and is still to come waits for something that is still to come
    intro q hq hr
    have hqd : q ∉ done := by
      have hqf : q ∈ g.labels.filter (· ∉ done) := hsplit ▸ List.mem_append_left _ hq
      exact of_decide_eq_true (List.mem_filter.1 hqf).2
    have hsub : [q, p].Sublist g.labels := by
      refine List.Sublist.trans ?_ (List.filter_sublist (p := (· ∉ done)))
      rw [hsplit]
      exact (List.singleton_sublist.2 hq).append (List.singleton_sublist.2 List.mem_cons_self)
    obtain ⟨a, had, ha⟩ := h.earlier_waits done p later hf q hqd hsub
    exact had (isReady_waitingAfter.1 hr a ha)
  · exact filter_notMem_concat hsplit

/-- The labels that are left after `done` are put in the order in which they stand. -/
theorem orderFrom_eq_ok {files : List Text} (h : g.Serves files) (done later : List Text)
    (hf : files = done ++ later) :
    orderFrom ((g.labels.filter (· ∉ done)).map (g.waitingAfter done)) [] = .ok later := by
  induction later generalizing done with
  | nil =>
    have hall : g.labels.filter (· ∉ done) = [] := by
      rw [List.filter_eq_nil_iff]
      intro a ha
      have : a ∈ files := h.perm.mem_iff.2 ha
      simpa [hf] using this
    rw [hall]
    exact orderFrom_of_stuck rfl
  | cons p later ih =>
    obtain ⟨before, after, hsplit, hready, hlate, hrest⟩ := h.exists_split hf
    rw [hsplit, orderFrom_of_ready (find?_map_waitingAfter hready hlate), path_waitingAfter,
      map_release_eraseP hready hlate, ← hrest, ih (done ++ [p]) (by simp [hf])]
    rfl

/-- A list that serves as an order is the order. -/
theorem order_eq_ok {files : List Text} (hclosed : g.Closed) (h : g.Serves files) :
    g.order = .ok files := by
  have := orderFrom_eq_ok h [] files rfl
  unfold order
  rw [hclosed.stray_eq_nil, List.map_nil, ← waitingAfter_nil]
  simpa using this

end Graph

end Flattener
