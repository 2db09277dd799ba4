import Flattener.Bundle
import Flattener.Proofs.Order

/-!
# Files are arranged in the order in which their imports are exhausted

The walk over the imports opens a file when it is discovered and leaves it when all its imports
have been followed. `Graph.Explored g opened done` is what holds in between: `opened` are the files
on the stack, the innermost first, and `done` those that have been left, in order.

The arrangement does not look at the walk. It takes ready files by rank of discovery, yet it comes
to the same list: a file that was discovered before another one, but is left after it, imports
something that is left no earlier than the other one, and so is not ready in its turn
(`Graph.Explored.earlier_waits`). This needs nothing of the resolver.

* `Graph.Explored.discover`, `Graph.Explored.link` and `Graph.Explored.leave` are the steps.
* `explored_of_walk` and `explored_of_buildFrom` are the runs.
* `arrange_of_build` puts the two sides together.
-/

namespace Flattener

open Relation (TransGen ReflTransGen)

/-! ### Lists -/

/-- Cutting a list with one more element at its end: before that element, or at it. -/
theorem concat_eq_append_cons {α : Type} {l before after : List α} {u p : α}
    (h : l ++ [u] = before ++ p :: after) :
    (before = l ∧ p = u) ∨ ∃ after', l = before ++ p :: after' := by
  rcases List.eq_nil_or_concat after with rfl | ⟨after', z, rfl⟩
  · obtain ⟨rfl, hu⟩ := List.append_inj' h rfl
    exact Or.inl ⟨rfl, (List.cons.inj hu).1.symm⟩
  · have h' : l ++ [u] = (before ++ p :: after') ++ [z] := by simpa using h
    exact Or.inr ⟨after', (List.append_inj' h' rfl).1⟩

/-- In a chain, what stands right before a later element is reached from the first one. -/
private theorem exists_step_of_isChain {α : Type} {R : α → α → Prop} {u q : α} {l : List α}
    (h : (u :: l).IsChain R) (hq : q ∈ l) : ∃ a ∈ u :: l, R a q ∧ ReflTransGen R u a := by
  induction l generalizing u with
  | nil => exact absurd hq List.not_mem_nil
  | cons v l ih =>
    rw [List.isChain_cons_cons] at h
    rcases List.mem_cons.1 hq with rfl | hq
    · exact ⟨u, List.mem_cons_self, h.1, .refl⟩
    · obtain ⟨a, ha, haq, hva⟩ := ih h.2 hq
      exact ⟨a, List.mem_cons_of_mem _ ha, haq, hva.head h.1⟩

namespace Graph

variable {g : Graph}

theorem importedBy_addEdge {a b c d : Text} :
    (g.addEdge ⟨c, d⟩).ImportedBy a b ↔ g.ImportedBy a b ∨ a = c ∧ b = d := by
  unfold ImportedBy
  rw [edges_addEdge]
  split
  · rename_i hmem
    constructor
    · exact Or.inl
    · rintro (h | ⟨rfl, rfl⟩)
      · exact h
      · exact hmem
  · simp

theorem importedBy_addFile {f : SourceFile} {a b : Text} :
    (g.addFile f).ImportedBy a b ↔ g.ImportedBy a b := by
  unfold ImportedBy
  rw [edges_addFile]

theorem labels_addFile_of_new {f : SourceFile} (h : f.path ∉ g) :
    (g.addFile f).labels = g.labels ++ [f.path] := by
  rw [labels_addFile, if_neg h]

/-! ### The invariant -/

/-- The state of a walk: the files that are open, the innermost first, and those that have been
left, in order. As long as there is no cycle, a file that has been left stands behind its imports,
and an open one still needs at most the file that was opened from it. -/
structure Explored (g : Graph) (opened done : List Text) : Prop where
  labels_perm : (done ++ opened).Perm g.labels
  closed : g.Closed
  opened_chain : opened.IsChain g.ImportedBy
  opened_needs : ¬ g.Cyclic → ∀ a b, g.ImportedBy a b → b ∈ opened → a ∈ done ∨ [a, b] <:+: opened
  done_needs : ¬ g.Cyclic → ∀ before p after, done = before ++ p :: after →
    ∀ a, g.ImportedBy a p → a ∈ before
  earlier_waits : ∀ before p after, done = before ++ p :: after → ∀ q ∉ before,
    [q, p].Sublist g.labels → ∃ a ∉ before, g.ImportedBy a q ∧ ReflTransGen g.ImportedBy p a

namespace Explored

variable {opened done : List Text}

theorem nodup (h : g.Explored opened done) : (done ++ opened).Nodup :=
  h.labels_perm.nodup_iff.2 g.labels_nodup

theorem notMem_done (h : g.Explored opened done) {a : Text} (ha : a ∈ opened) : a ∉ done :=
  fun hd => List.disjoint_of_nodup_append h.nodup hd ha

theorem mem_iff (h : g.Explored opened done) {a : Text} : a ∈ g ↔ a ∈ done ∨ a ∈ opened := by
  rw [← List.mem_append]
  exact h.labels_perm.mem_iff.symm

/-- Nothing is open or left in the graph without files. -/
theorem empty : Graph.empty.Explored [] [] where
  labels_perm := List.Perm.refl _
  closed := fun _ he => absurd he List.not_mem_nil
  opened_chain := List.IsChain.nil
  opened_needs := fun _ _ _ _ hb => absurd hb List.not_mem_nil
  done_needs := fun _ before p after h => absurd h.symm (by simp)
  earlier_waits := fun before p after h => absurd h.symm (by simp)

/-- A new file is opened from the innermost open one, or as an entry when none is open. -/
theorem discover (h : g.Explored opened done) {g' : Graph} {f : Text} (hf : f ∉ g)
    (hlabels : g'.labels = g.labels ++ [f])
    (hedges : ∀ a b, g'.ImportedBy a b ↔ g.ImportedBy a b ∨ a = f ∧ opened.head? = some b) :
    g'.Explored (f :: opened) done := by
  have hmono : ∀ a b, g.ImportedBy a b → g'.ImportedBy a b :=
    fun a b hab => (hedges a b).2 (.inl hab)
  have hacyclic : ¬ g'.Cyclic → ¬ g.Cyclic := mt (Cyclic.mono fun e he => hmono e.1 e.2 he)
  have hhead : ∀ b, opened.head? = some b → b ∈ opened := fun b => List.mem_of_head?
  refine ⟨?_, ?_, ?_, fun hc a b hab hb => ?_, fun hc before p after hd a hap => ?_,
    fun before p after hd q hq hqp => ?_⟩
  · -- the new file is the last one discovered and the first one open
    rw [hlabels]
    refine List.perm_middle.trans ((h.labels_perm.cons f).trans ?_)
    exact (List.perm_append_singleton f _).symm
  · intro e he
    have hin : ∀ a, a ∈ g → a ∈ g' := fun a ha => by
      change a ∈ g'.labels
      rw [hlabels]
      exact List.mem_append_left _ ha
    rcases (hedges e.dependency e.dependent).1 he with hold | ⟨hd, hb⟩
    · exact ⟨hin _ (h.closed e hold).1, hin _ (h.closed e hold).2⟩
    · refine ⟨?_, hin _ (h.mem_iff.2 (.inr (hhead _ hb)))⟩
      change e.dependency ∈ g'.labels
      simp [hlabels, hd]
  · have hchain : opened.IsChain g'.ImportedBy := h.opened_chain.imp hmono
    cases opened with
    | nil => exact List.IsChain.singleton f
    | cons u opened => exact List.isChain_cons_cons.2 ⟨(hedges f u).2 (.inr ⟨rfl, rfl⟩), hchain⟩
  · -- the one new need is that for `f`, which was opened from the file that needs it
    rcases (hedges a b).1 hab with hold | ⟨rfl, hbhead⟩
    · have hbo : b ∈ opened := by
        refine (List.mem_cons.1 hb).resolve_left ?_
        rintro rfl
        exact hf (h.closed _ hold).2
      rcases h.opened_needs (hacyclic hc) a b hold hbo with ha | ha
      · exact .inl ha
      · exact .inr (ha.trans (List.suffix_cons f opened).isInfix)
    · obtain ⟨rest, rfl⟩ : ∃ rest, opened = b :: rest := List.head?_eq_some_iff.1 hbhead
      exact .inr ⟨[], rest, rfl⟩
  · rcases (hedges a p).1 hap with hold | ⟨-, hp⟩
    · exact h.done_needs (hacyclic hc) before p after hd a hold
    · exact absurd (by simp [hd]) (h.notMem_done (hhead p hp))
  · have hpd : p ∈ done := by simp [hd]
    have hpf : p ≠ f := by
      rintro rfl
      exact hf (h.mem_iff.2 (.inl hpd))
    -- What has been left was discovered before `f`, so `f` is not the earlier one.
    have hold : [q, p].Sublist g.labels := by
      rw [hlabels, List.sublist_append_iff] at hqp
      obtain ⟨l₁, l₂, hl, hl₁, hl₂⟩ := hqp
      rcases List.sublist_singleton.1 hl₂ with rfl | rfl
      · simpa [hl] using hl₁
      · have := congrArg List.getLast? hl
        simp [hpf] at this
    obtain ⟨a, ha, haq, hpa⟩ := h.earlier_waits before p after hd q hq hold
    exact ⟨a, ha, hmono a q haq, hpa.lift id hmono⟩

/-- The innermost open file imports one that is already known. -/
theorem link {u f : Text} (h : g.Explored (u :: opened) done) (hf : f ∈ g) :
    (g.addEdge ⟨f, u⟩).Explored (u :: opened) done := by
  have hmono : ∀ a b, g.ImportedBy a b → (g.addEdge ⟨f, u⟩).ImportedBy a b :=
    fun a b hab => importedBy_addEdge.2 (.inl hab)
  have hacyclic : ¬ (g.addEdge ⟨f, u⟩).Cyclic → ¬ g.Cyclic :=
    mt (Cyclic.mono fun e he => hmono e.1 e.2 he)
  have hlabels : (g.addEdge ⟨f, u⟩).labels = g.labels := labels_addEdge g _
  have hu : u ∈ u :: opened := List.mem_cons_self
  refine ⟨by rw [hlabels]; exact h.labels_perm, fun e he => ?_, h.opened_chain.imp hmono,
    fun hc a b hab hb => ?_, fun hc before p after hd a hap => ?_,
    fun before p after hd q hq hqp => ?_⟩
  · change e.dependency ∈ (g.addEdge _).labels ∧ e.dependent ∈ (g.addEdge _).labels
    rw [hlabels]
    rcases importedBy_addEdge.1 he with hold | ⟨hd, hb⟩
    · exact h.closed e hold
    · rw [hd, hb]
      exact ⟨hf, h.mem_iff.2 (.inr hu)⟩
  · rcases importedBy_addEdge.1 hab with hold | ⟨rfl, rfl⟩
    · exact h.opened_needs (hacyclic hc) a b hold hb
    · refine .inl ((h.mem_iff.1 hf).resolve_right fun ha => hc ⟨a, ?_⟩)
      -- An import of an open file closes a cycle through the stack.
      have hback : (g.addEdge ⟨a, b⟩).ImportedBy a b := importedBy_addEdge.2 (.inr ⟨rfl, rfl⟩)
      rcases List.mem_cons.1 ha with rfl | ha
      · exact .single hback
      · obtain ⟨c, -, hca, hbc⟩ := exists_step_of_isChain h.opened_chain ha
        exact (TransGen.head' hback (hbc.lift id hmono)).tail (hmono c a hca)
  · rcases importedBy_addEdge.1 hap with hold | ⟨-, rfl⟩
    · exact h.done_needs (hacyclic hc) before p after hd a hold
    · exact absurd (by simp [hd]) (h.notMem_done hu)
  · obtain ⟨a, ha, haq, hpa⟩ := h.earlier_waits before p after hd q hq (hlabels ▸ hqp)
    exact ⟨a, ha, hmono a q haq, hpa.lift id hmono⟩

/-- The innermost open file is left. -/
theorem leave {u : Text} (h : g.Explored (u :: opened) done) :
    g.Explored opened (done ++ [u]) := by
  have hnodup : (u :: opened).Nodup := h.nodup.of_append_right
  have hu : u ∉ opened := (List.nodup_cons.1 hnodup).1
  refine ⟨by simpa using h.labels_perm, h.closed, h.opened_chain.of_cons, fun hc a b hab hb => ?_,
    fun hc before p after hd a hap => ?_, fun before p after hd q hq hqp => ?_⟩
  · -- a need for what was opened next is met now, since that is `u`
    rcases h.opened_needs hc a b hab (List.mem_cons_of_mem _ hb) with ha | ha
    · exact .inl (List.mem_append_left _ ha)
    · rcases List.infix_cons_iff.1 ha with hpre | hin
      · obtain rfl : a = u := (List.cons_prefix_cons.1 hpre).1
        exact .inl (by simp)
      · exact .inr hin
  · rcases concat_eq_append_cons hd with ⟨rfl, rfl⟩ | ⟨after', hd'⟩
    · refine (h.opened_needs hc a p hap List.mem_cons_self).resolve_right fun hin => ?_
      -- Nothing was opened from `p` without having been left.
      rcases List.infix_cons_iff.1 hin with hpre | hin
      · have hp : [p] <+: opened := (List.cons_prefix_cons.1 hpre).2
        exact hu (hp.subset List.mem_cons_self)
      · exact hu (hin.subset (by simp))
    · exact h.done_needs hc before p after' hd' a hap
  · rcases concat_eq_append_cons hd with ⟨rfl, rfl⟩ | ⟨after', hd'⟩
    · have hqg : q ∈ g := hqp.subset List.mem_cons_self
      have hne : q ≠ p := by
        rintro rfl
        exact absurd (hqp.nodup g.labels_nodup) (by simp)
      have hqo : q ∈ opened := by
        rcases List.mem_cons.1 ((h.mem_iff.1 hqg).resolve_left hq) with hqp' | hqo
        · exact absurd hqp' hne
        · exact hqo
      -- `q` is still open, and the stack leads from `p` down to what `q` waits for
      obtain ⟨a, ha, haq, hpa⟩ := exists_step_of_isChain h.opened_chain hqo
      exact ⟨a, h.notMem_done ha, haq, hpa⟩
    · exact h.earlier_waits before p after' hd' q hq hqp

/-- When all files have been left and there is no cycle, the order in which they were left serves
as an order by rank. -/
theorem serves (h : g.Explored [] done) (hc : ¬ g.Cyclic) : g.Serves done where
  perm := by simpa using h.labels_perm
  imports_before := h.done_needs hc
  earlier_waits := fun before p after hd q hq hqp =>
    let ⟨a, ha, haq, _⟩ := h.earlier_waits before p after hd q hq hqp
    ⟨a, ha, haq⟩

/-- A file is left after everything that it imports. -/
theorem sublist_of_importedBy (h : g.Explored [] done) (hc : ¬ g.Cyclic) {a b : Text}
    (hab : g.ImportedBy a b) : [a, b].Sublist done := by
  have hb : b ∈ done := by simpa using h.mem_iff.1 (h.closed _ hab).2
  obtain ⟨before, after, hd⟩ := List.append_of_mem hb
  have ha : a ∈ before := h.done_needs hc before b after hd a hab
  rw [hd]
  exact (List.singleton_sublist.2 ha).append (List.singleton_sublist.2 List.mem_cons_self)

/-- Files that do not import each other are left in the order in which they were discovered. -/
theorem sublist_of_unrelated (h : g.Explored [] done) {a b : Text} (hab : [a, b].Sublist g.labels)
    (hba : ¬ TransGen g.ImportedBy b a) : [a, b].Sublist done := by
  have hmem : ∀ c ∈ [a, b], c ∈ done := fun c hc => by simpa using h.mem_iff.1 (hab.subset hc)
  obtain ⟨before, after, hd⟩ := List.append_of_mem (hmem b (by simp))
  by_cases ha : a ∈ before
  · rw [hd]
    exact (List.singleton_sublist.2 ha).append (List.singleton_sublist.2 List.mem_cons_self)
  · obtain ⟨c, -, hca, hbc⟩ := h.earlier_waits before b after hd a ha hab
    exact absurd (TransGen.tail' hbc hca) hba

end Explored

end Graph

/-! ### Runs -/

namespace Session

@[simp]
theorem exhausted_note_exhausted (s : Session) (path : Text) :
    (s.note (.exhausted path)).exhausted = s.exhausted ++ [path] := by
  simp [exhausted, note, List.filterMap_append]

@[simp]
theorem exhausted_note_linked (s : Session) (e : Edge) :
    (s.note (.linked e)).exhausted = s.exhausted := by
  simp [exhausted, note, List.filterMap_append]

@[simp]
theorem exhausted_note_asked (s : Session) (name : Text) :
    (s.note (.asked name)).exhausted = s.exhausted := by
  simp [exhausted, note, List.filterMap_append]

@[simp]
theorem exhausted_remember (s : Session) (name : Text) (f : SourceFile) :
    (s.remember name f).exhausted = s.exhausted := rfl

end Session

section

variable {ε : Type} {resolver : Resolver ε} {limit : Nat}

/-- Looking a file up leaves no file. -/
theorem exhausted_load (resolver : Resolver ε) (s : Session) (name : Text) :
    (load resolver s name).1.exhausted = s.exhausted := by
  unfold load
  split
  · rfl
  · dsimp only
    split
    · simp
    · split
      · simp
      · split <;> simp

/-- A walk leaves every file on its stack and every file that it discovers. -/
theorem explored_of_walk {s s' : Session} {g g' : Graph} {stack : List (Text × List Text)}
    (h : walk resolver limit s g stack = (s', .ok g')) {done : List Text}
    (he : g.Explored (stack.map Prod.fst) done) :
    ∃ left, s'.exhausted = s.exhausted ++ left ∧ g'.Explored [] (done ++ left) := by
  fun_induction walk resolver limit s g stack generalizing done with
  | case1 s g =>
    obtain ⟨rfl, hg⟩ := Prod.mk.inj h
    cases hg
    exact ⟨[], by simp, by simpa using he⟩
  | case2 s g path stack ih =>
    obtain ⟨left, hs, hg⟩ := ih h he.leave
    refine ⟨path :: left, ?_, by simpa using hg⟩
    simpa using hs
  | case3 s g path specifier pending stack s₁ e hl =>
    exact absurd (Prod.mk.inj h).2 (by simp)
  | case4 s g path specifier pending stack s₁ f hl edge s₂ hf =>
    rename_i ih
    obtain ⟨left, hs, hg⟩ := ih h (he.link (Graph.mem_addEdge.1 hf))
    have hload := exhausted_load resolver s (Specifier.target path specifier)
    rw [hl] at hload
    refine ⟨left, ?_, hg⟩
    rw [hs, Session.exhausted_note_linked, hload]
  | case5 s g path specifier pending stack s₁ f hl edge s₂ hf hlt =>
    rename_i ih
    have hopen :
        ((g.addEdge edge).addFile f).Explored (f.path :: path :: stack.map Prod.fst) done := by
      refine he.discover (mt Graph.mem_addEdge.2 hf) ?_ fun a b => ?_
      · rw [Graph.labels_addFile_of_new hf, Graph.labels_addEdge]
      · rw [Graph.importedBy_addFile, Graph.importedBy_addEdge]
        simp [eq_comm]
    obtain ⟨left, hs, hg⟩ := ih h hopen
    have hload := exhausted_load resolver s (Specifier.target path specifier)
    rw [hl] at hload
    refine ⟨left, ?_, hg⟩
    rw [hs, Session.exhausted_note_linked, hload]
  | case6 s g path specifier pending stack s₁ f hl edge hf hlt =>
    exact absurd (Prod.mk.inj h).2 (by simp)

/-- Entry after entry, everything that is discovered is left. -/
theorem explored_of_buildFrom {s s' : Session} {g g' : Graph} {entries : List Text}
    (h : buildFrom resolver limit s g entries = (s', .ok g')) {done : List Text}
    (he : g.Explored [] done) :
    ∃ left, s'.exhausted = s.exhausted ++ left ∧ g'.Explored [] (done ++ left) := by
  induction entries generalizing s g done with
  | nil =>
    obtain ⟨rfl, hg⟩ := Prod.mk.inj h
    cases hg
    exact ⟨[], by simp, by simpa using he⟩
  | cons entry entries ih =>
    have hload := exhausted_load resolver s (Path.slashed entry)
    rw [buildFrom] at h
    split at h
    · exact absurd (Prod.mk.inj h).2 (by simp)
    · rename_i s₁ f hl
      rw [hl] at hload
      split at h
      · rw [← hload]
        exact ih h he
      · rename_i hf
        split at h
        · split at h
          · exact absurd (Prod.mk.inj h).2 (by simp)
          · rename_i s₂ g₂ hw
            have hopen : (g.addFile f).Explored [f.path] done := by
              refine he.discover hf (Graph.labels_addFile_of_new hf) fun a b => ?_
              rw [Graph.importedBy_addFile]
              simp
            obtain ⟨left₁, hs₁, hg₁⟩ := explored_of_walk hw hopen
            obtain ⟨left₂, hs₂, hg₂⟩ := ih h hg₁
            refine ⟨left₁ ++ left₂, ?_, by simpa using hg₂⟩
            rw [hs₂, hs₁, hload, List.append_assoc]
        · exact absurd (Prod.mk.inj h).2 (by simp)

end

/-! ### The arrangement -/

theorem result_arrange {g : Graph} :
    (Bundle.arrange g).result = g.order.mapError (OrderFault.toFault g) := by
  unfold Bundle.arrange
  rcases g.order with (path | _) | files <;> rfl

/-- The files of a graph that was built are either refused, with the files in order of discovery,
because some file imports itself directly or through others; or they are arranged in the order in
which the walk exhausted their imports, entry after entry. In that order each file stands once and
behind everything that it imports, and two files of which neither imports the other, directly or
through others, stand as they were discovered. No other outcome is possible, whatever the resolver
answers and whatever the session remembers from earlier builds. -/
theorem arrange_of_build {ε : Type} (resolver : Resolver ε) (limit : Nat) (s : Session)
    (entries : List Text) {s' : Session} {g : Graph}
    (h : build resolver limit s entries = (s', .ok g)) :
    (g.Cyclic ∧ (Bundle.arrange g).result = .error (.failure (.cyclic g.labels))) ∨
    (¬ g.Cyclic ∧ ∃ files, (Bundle.arrange g).result = .ok files ∧
      s'.exhausted = s.exhausted ++ files ∧ files.Nodup ∧ files.Perm g.labels ∧
      (∀ a b, g.ImportedBy a b → [a, b].Sublist files) ∧
      ∀ a b, [a, b].Sublist g.labels → ¬ TransGen g.ImportedBy a b →
        ¬ TransGen g.ImportedBy b a → [a, b].Sublist files) := by
  obtain ⟨files, hs, hg⟩ := explored_of_buildFrom h Graph.Explored.empty
  rw [List.nil_append] at hg
  by_cases hc : g.Cyclic
  · refine .inl ⟨hc, ?_⟩
    rw [result_arrange, Graph.order_eq_cyclic hg.closed hc]
    rfl
  · refine .inr ⟨hc, files, ?_, hs, ?_, (hg.serves hc).perm, fun a b => hg.sublist_of_importedBy hc,
      fun a b hab _ => hg.sublist_of_unrelated hab⟩
    · rw [result_arrange, Graph.order_eq_ok hg.closed (hg.serves hc)]
      rfl
    · simpa using hg.nodup

/-! ### A file and its import -/

/-- A file `b` that imports a file `a`. -/
def importPair : Resolver Unit := fun name =>
  if name = ['b'] then .ok ⟨"import 'a';".toList, ['b']⟩ else .ok ⟨[], ['a']⟩

/-- The graph of the file `b` and its import. -/
def importPairGraph : Graph :=
  ((Graph.empty.addFile ⟨['b'], "import 'a';".toList, [['a']], []⟩).addEdge ⟨['a'], ['b']⟩).addFile
    ⟨['a'], [], [], []⟩

theorem build_importPair : ∃ s, build importPair 2 {} [['b']] = (s, .ok importPairGraph) := by
  have hb : load importPair {} ['b'] = ((load importPair {} ['b']).1,
      .ok ⟨['b'], "import 'a';".toList, [['a']], []⟩) := Prod.ext rfl (by decide +kernel)
  have ha : load importPair (load importPair {} ['b']).1 ['a'] =
      ((load importPair (load importPair {} ['b']).1 ['a']).1, .ok ⟨['a'], [], [], []⟩) :=
    Prod.ext rfl (by decide +kernel)
  exact ⟨_, (buildFrom_of_new hb (by decide) (by decide) (by
    rw [walk_of_new ha (by decide) (by decide), walk_exhausted, walk_exhausted, walk_nil]
    rfl)).trans rfl⟩

theorem arrange_of_build_importPair :
    ∃ s, build importPair 2 {} [['b']] = (s, .ok importPairGraph) ∧
      importPairGraph.labels = [['b'], ['a']] ∧
      (Bundle.arrange importPairGraph).result = .ok [['a'], ['b']] ∧
      s.exhausted = [['a'], ['b']] := by
  obtain ⟨s, hs⟩ := build_importPair
  have horder : (Bundle.arrange importPairGraph).result = .ok [['a'], ['b']] := by decide +kernel
  refine ⟨s, hs, by decide +kernel, horder, ?_⟩
  rcases arrange_of_build importPair 2 {} [['b']] hs with ⟨-, hcyclic⟩ | ⟨-, files, hfiles, hex, -⟩
  · exact absurd (horder.symm.trans hcyclic) (by simp)
  · obtain rfl : [['a'], ['b']] = files := Except.ok.inj (horder.symm.trans hfiles)
    exact hex

end Flattener
