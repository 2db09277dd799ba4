import Flattener.Graph.Walk
import Mathlib.Data.List.Nodup
import Mathlib.Data.List.Perm.Subperm

/-!
# A build follows the imports recursively

What a build collects can be said without a memory and without a stack: follow the names in order;
fetch the file behind each one; note the import; and, if the file is new, follow its own imports
before the next name. `Follows` says this as an evaluation relation over plain lists (`Findings`),
in which an import that occurs twice is noted twice.

A session remembers files under specifiers and labels, and what it remembers survives failed
builds. If the resolver answers every label that it gives with the same file (`Resolver.Stable`),
then a session never knows more than the resolver would say (`Session.Faithful`), so looking up is
the same as fetching.

* `result_load`: what a faithful session answers.
* `exists_follows`: with finitely many labels the recursion comes to an end.
* `walk_of_follows`, `buildFrom_of_follows`: the stack does what the recursion says.
* `mem_files_iff_reached`: the files are those that the entries lead to.
* `build_eq_follows` puts these together.
-/

namespace Flattener

variable {ε : Type}

/-! ### Resolvers -/

namespace Resolver

/-- Every label that the resolver gives stands for the same file when it is looked up itself. -/
def Stable (resolver : Resolver ε) : Prop :=
  ∀ name r, resolver name = .ok r → resolver r.path = .ok r

/-- All labels that the resolver gives are among the given ones. -/
def Within (resolver : Resolver ε) (labels : List Text) : Prop :=
  ∀ name r, resolver name = .ok r → r.path ∈ labels

end Resolver

/-- The file behind a name, asked of the resolver and read. -/
def fetch (resolver : Resolver ε) (name : Text) : Except (WalkFault ε) SourceFile :=
  match resolver name with
  | .error e => .error (.lookup e)
  | .ok r =>
    match SourceFile.read r with
    | .error e => .error (.unparsable r.path e)
    | .ok f => .ok f

/-- A file keeps the text and the label that it was read from. -/
theorem eq_of_read {r : Resolved} {f : SourceFile} (h : SourceFile.read r = .ok f) :
    r = ⟨f.content, f.path⟩ := by
  unfold SourceFile.read at h
  cases hd : Directive.findAll r.content with
  | error e => rw [hd] at h; cases h
  | ok ds => rw [hd] at h; cases h; rfl

theorem path_of_read {r : Resolved} {f : SourceFile} (h : SourceFile.read r = .ok f) :
    f.path = r.path := by
  rw [eq_of_read h]

/-- A fetched file is an answer of the resolver that can be read. -/
theorem fetch_eq_ok_iff {resolver : Resolver ε} {name : Text} {f : SourceFile} :
    fetch resolver name = .ok f ↔ ∃ r, resolver name = .ok r ∧ SourceFile.read r = .ok f := by
  unfold fetch
  cases resolver name with
  | error e => simp
  | ok r => cases hr : SourceFile.read r <;> simp [hr]

/-- Fetching never fails for the number of files. -/
theorem fetch_ne_tooManyFiles (resolver : Resolver ε) (name : Text) :
    fetch resolver name ≠ .error .tooManyFiles := by
  unfold fetch
  cases resolver name with
  | error e => simp
  | ok r => cases hr : SourceFile.read r <;> simp [hr]

section

variable {resolver : Resolver ε}

theorem fetch_path (hs : resolver.Stable) {name : Text} {f : SourceFile}
    (h : fetch resolver name = .ok f) : fetch resolver f.path = .ok f := by
  obtain ⟨r, hr, hf⟩ := fetch_eq_ok_iff.1 h
  rw [path_of_read hf]
  exact fetch_eq_ok_iff.2 ⟨r, hs name r hr, hf⟩

/-- Two files that are fetched under the same label are the same. -/
theorem fetch_unique (hs : resolver.Stable) {name name' : Text} {f f' : SourceFile}
    (h : fetch resolver name = .ok f) (h' : fetch resolver name' = .ok f') (hp : f.path = f'.path) :
    f = f' := by
  have hf := fetch_path hs h
  rw [hp, fetch_path hs h'] at hf
  exact (Except.ok.inj hf).symm

theorem path_mem_of_fetch {labels : List Text} (hl : resolver.Within labels) {name : Text}
    {f : SourceFile} (h : fetch resolver name = .ok f) : f.path ∈ labels := by
  obtain ⟨r, hr, hf⟩ := fetch_eq_ok_iff.1 h
  rw [path_of_read hf]
  exact hl name r hr

end

/-! ### Sessions -/

namespace Session

/-- What the session remembers under a name is what would be fetched under it. -/
def Faithful (resolver : Resolver ε) (s : Session) : Prop :=
  ∀ name f, s.known? name = some f → fetch resolver name = .ok f

/-- The sessions that builds leave behind, one after the other, whether they fail or not. -/
inductive Reachable (resolver : Resolver ε) : Session → Prop where
  | fresh : Reachable resolver {}
  | build {s : Session} (limit : Nat) (entries : List Text) (h : Reachable resolver s) :
      Reachable resolver (build resolver limit s entries).1

variable {resolver : Resolver ε} {s : Session}

theorem faithful_fresh : Faithful resolver {} := fun _ _ h => absurd h (by simp [known?])

theorem Faithful.note (h : s.Faithful resolver) (e : WalkEvent) : (s.note e).Faithful resolver := h

theorem known?_remember (s : Session) (name name' : Text) (f : SourceFile) :
    (s.remember name f).known? name' = if name' = name then some f else s.known? name' := by
  unfold remember known?
  rw [List.lookup_cons]
  by_cases h : name' = name
  · simp [h]
  · simp [h, beq_eq_false_iff_ne.2 h]

theorem Faithful.remember (h : s.Faithful resolver) {name : Text} {f : SourceFile}
    (hf : fetch resolver name = .ok f) : (s.remember name f).Faithful resolver := by
  intro name' f' hk
  rw [known?_remember] at hk
  split at hk
  · rename_i heq
    rw [heq, hf]
    exact congrArg _ (Option.some.inj hk)
  · exact h name' f' hk

end Session

section

variable {resolver : Resolver ε} {limit : Nat} {s : Session}

/-- A faithful session answers what would be fetched, and stays faithful. -/
theorem result_load (hs : resolver.Stable) (h : s.Faithful resolver) (name : Text) :
    (load resolver s name).2 = fetch resolver name ∧
      (load resolver s name).1.Faithful resolver := by
  unfold load
  split
  · rename_i f hk
    exact ⟨(h name f hk).symm, h⟩
  · dsimp only
    cases hr : resolver name with
    | error e =>
      refine ⟨?_, h.note _⟩
      unfold fetch
      rw [hr]
    | ok r =>
      dsimp only
      split
      · -- The label is remembered: it stands for the same answer, so for the same file.
        rename_i f hk
        obtain ⟨r', hr', hf⟩ := fetch_eq_ok_iff.1 (h r.path f hk)
        rw [hs name r hr] at hr'
        obtain rfl : r = r' := Except.ok.inj hr'
        have hfetch : fetch resolver name = .ok f := fetch_eq_ok_iff.2 ⟨r, hr, hf⟩
        exact ⟨hfetch.symm, (h.note _).remember hfetch⟩
      · split
        · rename_i e he
          refine ⟨?_, h.note _⟩
          unfold fetch
          rw [hr]
          dsimp only
          rw [he]
        · rename_i f hf
          have hfetch : fetch resolver name = .ok f := fetch_eq_ok_iff.2 ⟨r, hr, hf⟩
          have hlabel : fetch resolver r.path = .ok f :=
            fetch_eq_ok_iff.2 ⟨r, hs name r hr, hf⟩
          exact ⟨hfetch.symm, ((h.note _).remember hlabel).remember hfetch⟩

theorem faithful_of_load (hs : resolver.Stable) (h : s.Faithful resolver) {name : Text}
    {s' : Session} {r : Except (WalkFault ε) SourceFile} (hl : load resolver s name = (s', r)) :
    s'.Faithful resolver := by
  have := (result_load hs h name).2
  rwa [hl] at this

/-- The answer of a faithful session together with the session that it leaves. -/
theorem exists_load_eq (hs : resolver.Stable) (h : s.Faithful resolver) (name : Text) :
    ∃ s' : Session, s'.Faithful resolver ∧ load resolver s name = (s', fetch resolver name) := by
  obtain ⟨hres, hf⟩ := result_load hs h name
  exact ⟨_, hf, Prod.ext rfl hres⟩

theorem faithful_walk (hs : resolver.Stable) (limit : Nat) (h : s.Faithful resolver) (g : Graph)
    (stack : List (Text × List Text)) : (walk resolver limit s g stack).1.Faithful resolver := by
  fun_induction walk resolver limit s g stack with
  | case1 s g => exact h
  | case2 s g path stack ih => exact ih (h.note _)
  | case3 s g path specifier pending stack s₁ e hl => exact faithful_of_load hs h hl
  | case4 s g path specifier pending stack s₁ f hl edge s₂ hf =>
    rename_i ih
    exact ih ((faithful_of_load hs h hl).note _)
  | case5 s g path specifier pending stack s₁ f hl edge s₂ hf hlt =>
    rename_i ih
    exact ih ((faithful_of_load hs h hl).note _)
  | case6 s g path specifier pending stack s₁ f hl edge hf hlt =>
    exact (faithful_of_load hs h hl).note _

theorem faithful_buildFrom (hs : resolver.Stable) {g : Graph} {entries : List Text}
    (h : s.Faithful resolver) : (buildFrom resolver limit s g entries).1.Faithful resolver := by
  induction entries generalizing s g with
  | nil => exact h
  | cons entry entries ih =>
    obtain ⟨s₁, h₁, hl⟩ := exists_load_eq hs h (Path.slashed entry)
    rw [buildFrom, hl]
    cases fetch resolver (Path.slashed entry) with
    | error e => exact h₁
    | ok f =>
      dsimp only
      split
      · exact ih h₁
      · split
        · have h₂ := faithful_walk hs limit h₁ (g.addFile f) [(f.path, f.imports)]
          split
          · rename_i s₂ e hw
            rwa [hw] at h₂
          · rename_i s₂ g₂ hw
            rw [hw] at h₂
            exact ih h₂
        · exact h₁

/-- Every session that builds leave behind is faithful. -/
theorem Session.Reachable.faithful (hs : resolver.Stable) (h : Session.Reachable resolver s) :
    s.Faithful resolver := by
  induction h with
  | fresh => exact Session.faithful_fresh
  | build limit entries _ ih => exact faithful_buildFrom hs ih

end

/-! ### The recursion -/

/-- What following imports has found: the files in order of discovery, and the imports in the order
in which they were followed, repetitions included. -/
structure Findings where
  files : List SourceFile := []
  links : List Edge := []

namespace Findings

/-- The labels of the files that were found. -/
def labels (t : Findings) : List Text := t.files.map SourceFile.path

/-- The findings with one more import of the file labelled `dependency`; entries are not imported
by anything. -/
def link (t : Findings) (dependency : Text) : Option Text → Findings
  | none => t
  | some dependent => { t with links := t.links ++ [⟨dependency, dependent⟩] }

/-- The findings with one more file. -/
def add (t : Findings) (f : SourceFile) : Findings := { t with files := t.files ++ [f] }

@[simp]
theorem files_link (t : Findings) (a : Text) (b : Option Text) : (t.link a b).files = t.files := by
  cases b <;> rfl

@[simp]
theorem labels_link (t : Findings) (a : Text) (b : Option Text) :
    (t.link a b).labels = t.labels := by
  cases b <;> rfl

@[simp]
theorem files_add (t : Findings) (f : SourceFile) : (t.add f).files = t.files ++ [f] := rfl

@[simp]
theorem labels_add (t : Findings) (f : SourceFile) : (t.add f).labels = t.labels ++ [f.path] := by
  simp [labels, add]

end Findings

/-- The name to ask the resolver for: an entry with plain slashes, or the target of an import. -/
def address : Option Text → Text → Text
  | none, entry => Path.slashed entry
  | some dependent, specifier => Specifier.target dependent specifier

/-- Following `names` from what has been found on comes to the given outcome. The names are imports
of the file labelled `dependent`, or entries when there is no such file. -/
inductive Follows (resolver : Resolver ε) :
    Findings → Option Text → List Text → Except (WalkFault ε) Findings → Prop where
  | done (t : Findings) (dependent : Option Text) : Follows resolver t dependent [] (.ok t)
  /-- The first file that cannot be fetched ends everything. -/
  | failed {t : Findings} {dependent : Option Text} {name : Text} {names : List Text}
      {e : WalkFault ε} (h : fetch resolver (address dependent name) = .error e) :
      Follows resolver t dependent (name :: names) (.error e)
  /-- The import of a known file is noted. -/
  | known {t : Findings} {dependent : Option Text} {name : Text} {names : List Text}
      {f : SourceFile} {r : Except (WalkFault ε) Findings}
      (h : fetch resolver (address dependent name) = .ok f) (hf : f.path ∈ t.labels)
      (hnext : Follows resolver (t.link f.path dependent) dependent names r) :
      Follows resolver t dependent (name :: names) r
  /-- The import of a new file is noted, and the imports of that file are followed first. -/
  | new {t t' : Findings} {dependent : Option Text} {name : Text} {names : List Text}
      {f : SourceFile} {r : Except (WalkFault ε) Findings}
      (h : fetch resolver (address dependent name) = .ok f) (hf : f.path ∉ t.labels)
      (hin : Follows resolver ((t.link f.path dependent).add f) (some f.path) f.imports (.ok t'))
      (hnext : Follows resolver t' dependent names r) :
      Follows resolver t dependent (name :: names) r
  /-- A failure among the imports of a new file ends everything. -/
  | aborted {t : Findings} {dependent : Option Text} {name : Text} {names : List Text}
      {f : SourceFile} {e : WalkFault ε}
      (h : fetch resolver (address dependent name) = .ok f) (hf : f.path ∉ t.labels)
      (hin : Follows resolver ((t.link f.path dependent).add f) (some f.path) f.imports
        (.error e)) :
      Follows resolver t dependent (name :: names) (.error e)

section

variable {resolver : Resolver ε} {t : Findings} {dependent : Option Text} {names : List Text}
  {r r' : Except (WalkFault ε) Findings}

/-- Following names has at most one outcome. -/
theorem Follows.unique (h : Follows resolver t dependent names r)
    (h' : Follows resolver t dependent names r') : r = r' := by
  induction h generalizing r' with
  | done => cases h'; rfl
  | failed h =>
    cases h' with
    | failed h₂ => exact congrArg _ (Except.error.inj (h.symm.trans h₂))
    | known h₂ => exact absurd (h.symm.trans h₂) (by simp)
    | new h₂ => exact absurd (h.symm.trans h₂) (by simp)
    | aborted h₂ => exact absurd (h.symm.trans h₂) (by simp)
  | known h hf _ ih =>
    cases h' with
    | failed h₂ => exact absurd (h.symm.trans h₂) (by simp)
    | known h₂ _ hnext =>
      obtain rfl := Except.ok.inj (h.symm.trans h₂)
      exact ih hnext
    | new h₂ hf₂ => exact absurd (Except.ok.inj (h.symm.trans h₂) ▸ hf) hf₂
    | aborted h₂ hf₂ => exact absurd (Except.ok.inj (h.symm.trans h₂) ▸ hf) hf₂
  | new h hf _ _ ihin ih =>
    cases h' with
    | failed h₂ => exact absurd (h.symm.trans h₂) (by simp)
    | known h₂ hf₂ => exact absurd (Except.ok.inj (h.symm.trans h₂) ▸ hf₂) hf
    | new h₂ _ hin hnext =>
      obtain rfl := Except.ok.inj (h.symm.trans h₂)
      obtain rfl := Except.ok.inj (ihin hin)
      exact ih hnext
    | aborted h₂ _ hin =>
      obtain rfl := Except.ok.inj (h.symm.trans h₂)
      exact absurd (ihin hin) (by simp)
  | aborted h hf _ ihin =>
    cases h' with
    | failed h₂ => exact absurd (h.symm.trans h₂) (by simp)
    | known h₂ hf₂ => exact absurd (Except.ok.inj (h.symm.trans h₂) ▸ hf₂) hf
    | new h₂ _ hin =>
      obtain rfl := Except.ok.inj (h.symm.trans h₂)
      exact absurd (ihin hin) (by simp)
    | aborted h₂ _ hin =>
      obtain rfl := Except.ok.inj (h.symm.trans h₂)
      exact ihin hin

/-- What was found stays found. -/
theorem Follows.files_prefix {t' : Findings} (h : Follows resolver t dependent names (.ok t')) :
    t.files <+: t'.files := by
  generalize hr : Except.ok t' = r at h
  induction h generalizing t' with
  | done => cases hr; exact List.prefix_refl _
  | failed => exact absurd hr (by simp)
  | known h hf _ ih =>
    have := ih hr
    rwa [Findings.files_link] at this
  | new h hf _ _ ihin ih =>
    have hin := ihin rfl
    rw [Findings.files_add, Findings.files_link] at hin
    exact (List.prefix_append _ _).trans (hin.trans (ih hr))
  | aborted => exact absurd hr (by simp)

/-- No outcome blames the number of files. -/
theorem Follows.ne_tooManyFiles (h : Follows resolver t dependent names r) :
    r ≠ .error .tooManyFiles := by
  induction h with
  | done => simp
  | failed h =>
    intro hr
    exact fetch_ne_tooManyFiles resolver _ (h.trans (congrArg _ (Except.error.inj hr)))
  | known _ _ _ ih => exact ih
  | new _ _ _ _ _ ih => exact ih
  | aborted _ _ _ ih => exact ih

/-! ### Ending -/

/-- The labels that have not been found yet. -/
def Findings.missing (t : Findings) (labels : List Text) : Nat :=
  (labels.filter (!t.labels.contains ·)).length

theorem Findings.missing_le {t t' : Findings} (h : t.files <+: t'.files) (labels : List Text) :
    t'.missing labels ≤ t.missing labels := by
  refine List.Sublist.length_le (List.monotone_filter_right _ fun a ha => ?_)
  have hsub : t.labels ⊆ t'.labels := List.map_subset _ h.subset
  simpa using mt (@hsub a) (by simpa using ha)

theorem Findings.missing_add_lt {t : Findings} {f : SourceFile} {labels : List Text}
    (hl : f.path ∈ labels) (hf : f.path ∉ t.labels) :
    (t.add f).missing labels < t.missing labels := by
  have hfilter : labels.filter (!(t.add f).labels.contains ·) =
      (labels.filter (!t.labels.contains ·)).filter (· ≠ f.path) := by
    rw [List.filter_filter, Findings.labels_add]
    refine List.filter_congr fun a _ => ?_
    simp [Bool.and_comm]
  unfold missing
  rw [hfilter, List.length_filter_lt_length_iff_exists]
  exact ⟨f.path, List.mem_filter.2 ⟨hl, by simpa using hf⟩, by simp⟩

/-- With finitely many labels, following names comes to an end: only a new file leads deeper, and
there are only so many of them. -/
theorem exists_follows {labels : List Text} (hl : resolver.Within labels) (t : Findings)
    (dependent : Option Text) (names : List Text) : ∃ r, Follows resolver t dependent names r := by
  suffices hbound : ∀ n t dependent names, t.missing labels ≤ n →
      ∃ r, Follows resolver t dependent names r from
    hbound _ t dependent names (Nat.le_refl _)
  -- the number of missing labels goes down where the recursion goes deeper, and within one list
  -- of names it never goes up
  intro n
  induction n using Nat.strongRecOn with
  | _ n ihn =>
    intro t dependent names hn
    induction names generalizing t with
    | nil => exact ⟨_, .done t dependent⟩
    | cons name names ih =>
      cases hfetch : fetch resolver (address dependent name) with
      | error e => exact ⟨_, .failed hfetch⟩
      | ok f =>
        by_cases hf : f.path ∈ t.labels
        · have hlink : (t.link f.path dependent).missing labels ≤ n := by
            simpa [Findings.missing] using hn
          obtain ⟨r, hr⟩ := ih _ hlink
          exact ⟨r, .known hfetch hf hr⟩
        · have hlt : ((t.link f.path dependent).add f).missing labels < t.missing labels := by
            have := Findings.missing_add_lt (t := t.link f.path dependent)
              (path_mem_of_fetch hl hfetch) (by simpa using hf)
            simpa [Findings.missing] using this
          obtain ⟨r₁, hr₁⟩ :=
            ihn _ (Nat.lt_of_lt_of_le hlt hn) _ (some f.path) f.imports (Nat.le_refl _)
          cases r₁ with
          | error e => exact ⟨_, .aborted hfetch hf hr₁⟩
          | ok t' =>
            have hle := Findings.missing_le hr₁.files_prefix labels
            obtain ⟨r, hr⟩ := ih t' (by omega)
            exact ⟨r, .new hfetch hf hr₁ hr⟩

/-! ### The stack does what the recursion says -/

/-- A label that no file has yet leaves room for one more file. -/
theorem Graph.size_lt (g : Graph) {labels : List Text} (hg : g.labels ⊆ labels) {path : Text}
    (hp : path ∈ labels) (hn : path ∉ g) : g.size < labels.length := by
  have hnodup : (path :: g.labels).Nodup := List.nodup_cons.2 ⟨hn, g.files_nodup⟩
  have hle := (hnodup.subperm (List.cons_subset.2 ⟨hp, hg⟩)).length_le
  rw [List.length_cons, Graph.labels, List.length_map] at hle
  exact hle

/-- The graph holds what was found: the same files in the same order, and of the imports the first
occurrence of each. -/
structure Graph.Records (g : Graph) (t : Findings) : Prop where
  files_eq : g.files = t.files
  edges_eq : g.edges = t.links.eraseDups

namespace Graph.Records

variable {g : Graph}

theorem labels_eq (h : g.Records t) : g.labels = t.labels := congrArg _ h.files_eq

theorem mem_iff (h : g.Records t) {path : Text} : path ∈ g ↔ path ∈ t.labels := by
  rw [← h.labels_eq]
  rfl

theorem link (h : g.Records t) (a b : Text) :
    (g.addEdge ⟨a, b⟩).Records (t.link a (some b)) where
  files_eq := by
    rw [Findings.files_link, ← h.files_eq]
    unfold addEdge
    split <;> rfl
  edges_eq := by
    rw [edges_addEdge, Findings.link, List.eraseDups_append, ← h.edges_eq]
    have hmem : (⟨a, b⟩ : Edge) ∈ t.links ↔ (⟨a, b⟩ : Edge) ∈ g.edges := by
      rw [h.edges_eq, List.mem_eraseDups]
    by_cases he : (⟨a, b⟩ : Edge) ∈ g.edges <;> simp [List.removeAll, List.eraseDups_cons, hmem, he]

theorem add (h : g.Records t) {f : SourceFile} (hf : f.path ∉ g) :
    (g.addFile f).Records (t.add f) where
  files_eq := by
    rw [Findings.files_add, ← h.files_eq]
    simp [addFile, hf]
  edges_eq := by
    rw [edges_addFile]
    exact h.edges_eq

/-- There is room for one more file as long as it has one of the labels. -/
theorem size_lt {labels : List Text} (h : g.Records t) (ht : t.labels ⊆ labels) {path : Text}
    (hp : path ∈ labels) (hn : path ∉ t.labels) : g.size < labels.length :=
  g.size_lt (h.labels_eq ▸ ht) hp (mt h.mem_iff.1 hn)

end Graph.Records

variable {labels : List Text} {limit : Nat}

/-- What is found lies among the labels. -/
theorem Follows.labels_subset (hl : resolver.Within labels) {t' : Findings}
    (h : Follows resolver t dependent names (.ok t')) (ht : t.labels ⊆ labels) :
    t'.labels ⊆ labels := by
  generalize hr : Except.ok t' = r at h
  induction h generalizing t' with
  | done => cases hr; exact ht
  | failed => exact absurd hr (by simp)
  | known _ _ _ ih => exact ih (by simpa using ht) hr
  | new h hf _ _ ihin ih =>
    refine ih (ihin ?_ rfl) hr
    simpa using ⟨ht, path_mem_of_fetch hl h⟩
  | aborted => exact absurd hr (by simp)

/-- A file that is new to the findings is new to the graph, and there is room for it. -/
theorem Graph.Records.room (hl : resolver.Within labels) (hlimit : labels.length ≤ limit)
    {g : Graph} (hg : g.Records t) (ht : t.labels ⊆ labels) {name : Text} {f : SourceFile}
    (h : fetch resolver name = .ok f) (hnew : f.path ∉ t.labels) :
    (t.add f).labels ⊆ labels ∧ g.size < limit ∧ f.path ∉ g := by
  have hpath : f.path ∈ labels := path_mem_of_fetch hl h
  refine ⟨by simpa using ⟨ht, hpath⟩, ?_, mt hg.mem_iff.1 hnew⟩
  exact Nat.lt_of_lt_of_le (hg.size_lt ht hpath hnew) hlimit

/-- A walk agrees with an outcome of the recursion: it fails in the same way, or goes on from the
same findings with what is left on the stack. -/
def Agrees (resolver : Resolver ε) (limit : Nat) (stack : List (Text × List Text))
    (x : Session × Except (WalkFault ε) Graph) (r : Except (WalkFault ε) Findings) : Prop :=
  ∃ s : Session, s.Faithful resolver ∧
    match r with
    | .ok t => ∃ g : Graph, g.Records t ∧ x = walk resolver limit s g stack
    | .error e => x = (s, .error e)

/-- Following the imports on top of the stack agrees with the recursion. -/
theorem walk_of_follows (hs : resolver.Stable) (hl : resolver.Within labels)
    (hlimit : labels.length ≤ limit) {path : Text} {pending : List Text}
    (h : Follows resolver t (some path) pending r) (ht : t.labels ⊆ labels) {s : Session}
    (hf : s.Faithful resolver) {g : Graph} (hg : g.Records t) (stack : List (Text × List Text)) :
    Agrees resolver limit stack (walk resolver limit s g ((path, pending) :: stack)) r := by
  generalize hd : some path = dependent at h
  induction h generalizing path s g stack with
  | done t =>
    exact ⟨_, hf.note (.exhausted path), g, hg, walk_exhausted resolver limit s g path stack⟩
  | @failed t dependent name names e h =>
    subst hd
    obtain ⟨s₁, hf₁, hload⟩ := exists_load_eq hs hf (Specifier.target path name)
    exact ⟨s₁, hf₁, walk_of_error (hload.trans (congrArg _ h))⟩
  | @known t dependent name names f r h hmem _ ih =>
    subst hd
    obtain ⟨s₁, hf₁, hload⟩ := exists_load_eq hs hf (Specifier.target path name)
    rw [walk_of_known (hload.trans (congrArg _ h)) (hg.mem_iff.2 hmem)]
    exact ih (by simpa using ht) (hf₁.note _) (hg.link _ _) stack rfl
  | @new t t' dependent name names f r h hnew hin _ ihin ih =>
    subst hd
    obtain ⟨s₁, hf₁, hload⟩ := exists_load_eq hs hf (Specifier.target path name)
    obtain ⟨hsub, hroom, hg'⟩ := hg.room hl hlimit ht h hnew
    have hsub : ((t.link f.path (some path)).add f).labels ⊆ labels := by simpa using hsub
    have hrec := (hg.link f.path path).add (mt Graph.mem_addEdge.1 hg')
    rw [walk_of_new (hload.trans (congrArg _ h)) hg' hroom]
    -- the imports of the new file are followed with the rest of this one put on the stack
    obtain ⟨s₂, hf₂, g₂, hg₂, hw₂⟩ := ihin hsub (hf₁.note _) hrec ((path, names) :: stack) rfl
    rw [hw₂]
    exact ih (hin.labels_subset hl hsub) hf₂ hg₂ stack rfl
  | @aborted t dependent name names f e h hnew hin ihin =>
    subst hd
    obtain ⟨s₁, hf₁, hload⟩ := exists_load_eq hs hf (Specifier.target path name)
    obtain ⟨hsub, hroom, hg'⟩ := hg.room hl hlimit ht h hnew
    have hsub : ((t.link f.path (some path)).add f).labels ⊆ labels := by simpa using hsub
    have hrec := (hg.link f.path path).add (mt Graph.mem_addEdge.1 hg')
    rw [walk_of_new (hload.trans (congrArg _ h)) hg' hroom]
    exact ihin hsub (hf₁.note _) hrec ((path, names) :: stack) rfl

/-- Visiting entries agrees with the recursion. -/
theorem buildFrom_of_follows (hs : resolver.Stable) (hl : resolver.Within labels)
    (hlimit : labels.length ≤ limit) {entries : List Text}
    (h : Follows resolver t none entries r) (ht : t.labels ⊆ labels) {s : Session}
    (hf : s.Faithful resolver) {g : Graph} (hg : g.Records t) :
    Agrees resolver limit [] (buildFrom resolver limit s g entries) r := by
  generalize hd : none = dependent at h
  induction h generalizing s g with
  | done t => exact ⟨s, hf, g, hg, (walk_nil resolver limit s g).symm⟩
  | @failed t dependent name names e h =>
    subst hd
    obtain ⟨s₁, hf₁, hload⟩ := exists_load_eq hs hf (Path.slashed name)
    exact ⟨s₁, hf₁, buildFrom_of_error (hload.trans (congrArg _ h))⟩
  | @known t dependent name names f r h hmem _ ih =>
    subst hd
    obtain ⟨s₁, hf₁, hload⟩ := exists_load_eq hs hf (Path.slashed name)
    rw [buildFrom_of_known (hload.trans (congrArg _ h)) (hg.mem_iff.2 hmem)]
    exact ih ht hf₁ hg rfl
  | @new t t' dependent name names f r h hnew hin _ _ ih =>
    subst hd
    obtain ⟨s₁, hf₁, hload⟩ := exists_load_eq hs hf (Path.slashed name)
    obtain ⟨hsub, hroom, hnew'⟩ := hg.room hl hlimit ht h hnew
    obtain ⟨s₂, hf₂, g₂, hg₂, hw₂⟩ :=
      walk_of_follows hs hl hlimit hin hsub hf₁ (hg.add hnew') []
    rw [walk_nil] at hw₂
    rw [buildFrom_of_new (hload.trans (congrArg _ h)) hnew' hroom hw₂]
    exact ih (hin.labels_subset hl hsub) hf₂ hg₂ rfl
  | @aborted t dependent name names f e h hnew hin _ =>
    subst hd
    obtain ⟨s₁, hf₁, hload⟩ := exists_load_eq hs hf (Path.slashed name)
    obtain ⟨hsub, hroom, hnew'⟩ := hg.room hl hlimit ht h hnew
    obtain ⟨s₂, hf₂, hw₂⟩ := walk_of_follows hs hl hlimit hin hsub hf₁ (hg.add hnew') []
    exact ⟨s₂, hf₂, buildFrom_of_new_error (hload.trans (congrArg _ h)) hnew' hroom hw₂⟩

/-! ### The files that entries lead to -/

/-- The files that the entries lead to, themselves included. -/
inductive Reached (resolver : Resolver ε) (entries : List Text) : SourceFile → Prop where
  | entry {entry : Text} {f : SourceFile} (he : entry ∈ entries)
      (h : fetch resolver (Path.slashed entry) = .ok f) : Reached resolver entries f
  | imported {f f' : SourceFile} {specifier : Text} (hf : Reached resolver entries f)
      (hi : specifier ∈ f.imports)
      (h : fetch resolver (Specifier.target f.path specifier) = .ok f') :
      Reached resolver entries f'

/-- A property that imports hand on holds of everything that is found. -/
theorem Follows.forall_files {P : SourceFile → Prop} {t' : Findings}
    (h : Follows resolver t dependent names (.ok t'))
    (himports : ∀ f, P f → ∀ specifier ∈ f.imports, ∀ f',
      fetch resolver (Specifier.target f.path specifier) = .ok f' → P f')
    (hnames : ∀ name ∈ names, ∀ f, fetch resolver (address dependent name) = .ok f → P f)
    (ht : ∀ f ∈ t.files, P f) : ∀ f ∈ t'.files, P f := by
  generalize hr : Except.ok t' = r at h
  induction h generalizing t' with
  | done => cases hr; exact ht
  | failed => exact absurd hr (by simp)
  | known _ _ _ ih =>
    exact ih (fun n hn => hnames n (List.mem_cons_of_mem _ hn)) (by simpa using ht) hr
  | @new t t₁ dependent name names f r h _ _ _ ihin ih =>
    have hf : P f := hnames name List.mem_cons_self f h
    have hadd : ∀ f' ∈ ((t.link f.path dependent).add f).files, P f' := by
      intro f' hf'
      rw [Findings.files_add, Findings.files_link, List.mem_append, List.mem_singleton] at hf'
      rcases hf' with hf' | rfl
      · exact ht f' hf'
      · exact hf
    exact ih (fun n hn => hnames n (List.mem_cons_of_mem _ hn))
      (ihin (fun n hn => himports f hf n hn) hadd rfl) hr
  | aborted => exact absurd hr (by simp)

/-- Nothing is left out: every name leads to a file that is found, and so does every import of a
file that was not there before. -/
theorem Follows.closed {t' : Findings} (h : Follows resolver t dependent names (.ok t')) :
    (∀ name ∈ names, ∃ f, fetch resolver (address dependent name) = .ok f ∧ f.path ∈ t'.labels) ∧
      ∀ f ∈ t'.files, f ∈ t.files ∨ ∀ specifier ∈ f.imports, ∃ f',
        fetch resolver (Specifier.target f.path specifier) = .ok f' ∧ f'.path ∈ t'.labels := by
  generalize hr : Except.ok t' = r at h
  induction h generalizing t' with
  | done =>
    cases hr
    exact ⟨fun _ hn => absurd hn List.not_mem_nil, fun _ hf => .inl hf⟩
  | failed => exact absurd hr (by simp)
  | @known t dependent name names f r h hf hnext ih =>
    subst hr
    obtain ⟨hnames, hfiles⟩ := ih rfl
    have hsub : t.labels ⊆ t'.labels := by
      simpa [Findings.labels] using List.map_subset SourceFile.path hnext.files_prefix.subset
    refine ⟨fun n hn => ?_, fun f' hf' => by simpa using hfiles f' hf'⟩
    rcases List.mem_cons.1 hn with rfl | hn
    · exact ⟨f, h, hsub hf⟩
    · exact hnames n hn
  | @new t t₁ dependent name names f r h _ hin hnext ihin ih =>
    subst hr
    obtain ⟨hnames, hfiles⟩ := ih rfl
    obtain ⟨himports, hfiles₁⟩ := ihin rfl
    have hsub : t₁.labels ⊆ t'.labels := List.map_subset _ hnext.files_prefix.subset
    have hf : f.path ∈ t'.labels := by
      refine hsub (List.map_subset SourceFile.path hin.files_prefix.subset ?_)
      simp
    refine ⟨fun n hn => ?_, fun f' hf' => ?_⟩
    · rcases List.mem_cons.1 hn with rfl | hn
      · exact ⟨f, h, hf⟩
      · exact hnames n hn
    · rcases hfiles f' hf' with hold | himp
      · rcases hfiles₁ f' hold with hold | himp
        · rw [Findings.files_add, Findings.files_link, List.mem_append, List.mem_singleton] at hold
          rcases hold with hold | rfl
          · exact .inl hold
          · exact .inr fun n hn => (himports n hn).imp fun _ hx => ⟨hx.1, hsub hx.2⟩
        · exact .inr fun n hn => (himp n hn).imp fun _ hx => ⟨hx.1, hsub hx.2⟩
      · exact .inr himp
  | aborted => exact absurd hr (by simp)

/-- What is found from the entries is what they lead to. -/
theorem mem_files_iff_reached (hs : resolver.Stable) {entries : List Text} {t : Findings}
    (h : Follows resolver {} none entries (.ok t)) {f : SourceFile} :
    f ∈ t.files ↔ Reached resolver entries f := by
  have hnone : ∀ P : SourceFile → Prop, ∀ f ∈ ({} : Findings).files, P f :=
    fun _ _ hf => absurd hf List.not_mem_nil
  obtain ⟨hentries, hfiles⟩ := h.closed
  -- A file is known by its label, so a label that was found stands for the file that is meant.
  have hmem : ∀ {name f'}, fetch resolver name = .ok f' → f'.path ∈ t.labels → f' ∈ t.files := by
    intro name f' hf' hp
    obtain ⟨f'', hf'', hpath⟩ := List.mem_map.1 hp
    obtain ⟨name', hname'⟩ : ∃ name', fetch resolver name' = .ok f'' :=
      h.forall_files (P := fun f => ∃ n, fetch resolver n = .ok f) (fun _ _ _ _ _ hf => ⟨_, hf⟩)
        (fun _ _ _ hf => ⟨_, hf⟩) (hnone _) f'' hf''
    exact fetch_unique hs hname' hf' hpath ▸ hf''
  constructor
  · exact h.forall_files (fun f hf n hn f' hf' => .imported hf hn hf')
      (fun n hn f hf => .entry hn hf) (hnone _) f
  · intro hreach
    induction hreach with
    | @entry entry f he hf =>
      obtain ⟨f', hf', hp⟩ := hentries entry he
      obtain rfl := Except.ok.inj (hf.symm.trans hf')
      exact hmem hf hp
    | @imported f f' specifier _ hi hf' ih =>
      obtain ⟨f'', hf'', hp⟩ :=
        (hfiles f ih).resolve_left (fun hold => absurd hold List.not_mem_nil) specifier hi
      obtain rfl := Except.ok.inj (hf'.symm.trans hf'')
      exact hmem hf' hp

end

/-! ### Builds -/

/-- Let a resolver answer every label that it gives with the same file, and let it give finitely
many labels. Then, from every session that earlier builds leave behind, failed ones included, a
build comes to the one outcome that following the entries recursively and without memory has: the
same files in the same order of discovery, the same imports, each where it occurs first, and no
other files than those that the entries lead to; or the same first failure. The number of files is
never to blame, provided that the limit does not exclude any label. -/
theorem build_eq_follows {resolver : Resolver ε} (hs : resolver.Stable) {labels : List Text}
    (hl : resolver.Within labels) {s : Session} (hr : Session.Reachable resolver s)
    (entries : List Text) {limit : Nat} (hlimit : labels.length ≤ limit) :
    ∃ r, (∀ r', Follows resolver {} none entries r' ↔ r' = r) ∧
      match r with
      | .ok t => ∃ g, (build resolver limit s entries).2 = .ok g ∧ g.files = t.files ∧
          g.edges = t.links.eraseDups ∧ ∀ f, f ∈ g.files ↔ Reached resolver entries f
      | .error e => (build resolver limit s entries).2 = .error e ∧ e ≠ .tooManyFiles := by
  obtain ⟨r, hfollows⟩ := exists_follows hl {} none entries
  have hempty : Graph.empty.Records {} := ⟨rfl, rfl⟩
  have hagree := buildFrom_of_follows hs hl hlimit hfollows (List.nil_subset _) (hr.faithful hs)
    hempty
  refine ⟨r, fun r' => ⟨fun h' => h'.unique hfollows, fun h' => h' ▸ hfollows⟩, ?_⟩
  cases r with
  | error e =>
    obtain ⟨s', -, hbuild⟩ := hagree
    refine ⟨congrArg Prod.snd hbuild, fun he => ?_⟩
    exact hfollows.ne_tooManyFiles (congrArg _ he)
  | ok t =>
    obtain ⟨s', -, g, hg, hbuild⟩ := hagree
    rw [walk_nil] at hbuild
    refine ⟨g, congrArg Prod.snd hbuild, hg.files_eq, hg.edges_eq, fun f => ?_⟩
    rw [hg.files_eq]
    exact mem_files_iff_reached hs hfollows

/-- Two files that import each other. -/
def importCycle : Resolver Unit := fun name =>
  if name = ['a'] then .ok ⟨"import 'b';".toList, ['a']⟩
  else if name = ['b'] then .ok ⟨"import 'a';".toList, ['b']⟩
  else .error ()

theorem importCycle_eq_ok {name : Text} {r : Resolved} (h : importCycle name = .ok r) :
    r = ⟨"import 'b';".toList, ['a']⟩ ∨ r = ⟨"import 'a';".toList, ['b']⟩ := by
  unfold importCycle at h
  split at h
  · exact .inl (Except.ok.inj h).symm
  · split at h
    · exact .inr (Except.ok.inj h).symm
    · exact absurd h (by simp)

/-- The session of a failed build, which knows one of the two files under its label, builds the
graph of the other one. -/
theorem build_eq_follows_importCycle :
    importCycle.Stable ∧ importCycle.Within [['a'], ['b']] ∧
    Session.Reachable importCycle (build importCycle 2 {} [['a'], ['c']]).1 ∧
    ∃ g, (build importCycle 2 (build importCycle 2 {} [['a'], ['c']]).1 [['b']]).2 = .ok g ∧
      g.labels = [['b'], ['a']] ∧ g.edges = [⟨['a'], ['b']⟩, ⟨['b'], ['a']⟩] := by
  have hs : importCycle.Stable := by
    intro name r h
    rcases importCycle_eq_ok h with rfl | rfl <;> rfl
  have hl : importCycle.Within [['a'], ['b']] := by
    intro name r h
    rcases importCycle_eq_ok h with rfl | rfl <;> simp
  have hr : Session.Reachable importCycle (build importCycle 2 {} [['a'], ['c']]).1 :=
    .build 2 _ .fresh
  let a : SourceFile := ⟨['a'], "import 'b';".toList, [['b']], []⟩
  let b : SourceFile := ⟨['b'], "import 'a';".toList, [['a']], []⟩
  have ha : fetch importCycle ['a'] = .ok a := by decide +kernel
  have hb : fetch importCycle ['b'] = .ok b := by decide +kernel
  have hfollows : Follows importCycle {} none [['b']]
      (.ok ⟨[b, a], [⟨['a'], ['b']⟩, ⟨['b'], ['a']⟩]⟩) := by
    refine .new hb (by decide) (.new ha (by decide) ?_ (.done _ _)) (.done _ _)
    exact .known hb (by decide) (.done _ _)
  obtain ⟨r, hiff, hbuild⟩ := build_eq_follows hs hl hr [['b']] (Nat.le_refl 2)
  obtain rfl := (hiff _).1 hfollows
  obtain ⟨g, hg, hfiles, hedges, -⟩ := hbuild
  refine ⟨hs, hl, hr, g, hg, ?_, ?_⟩
  · rw [Graph.labels, hfiles]
    rfl
  · rw [hedges]
    decide

end Flattener
