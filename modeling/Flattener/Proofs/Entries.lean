import Flattener.Proofs.Memory
import Flattener.Proofs.Rescan

/-!
# More entries

Entries are visited one after the other, and each one starts from what the earlier ones have left:
a graph and a session. So the files of the first entries come first, whatever entries follow,
although the files are put in order only when all of them are known.

An entry whose file is in the graph already adds nothing to the graph. It may leave a trace in the
session, as one more name for the file. No later lookup depends on such a trace if the resolver
gives every label for itself: then an answer depends only on what is remembered under labels
(`Loads.eq_answer`), and builds cannot tell sessions apart that remember the same files under labels
(`Session.Alike`).

* `buildFrom_append`: the later entries start from what the earlier ones have left.
* `Session.Alike.walk` and `Session.Alike.buildFrom`: from sessions that are alike, the same graph
  is built.
* `Bundle.exists_prefix_of_sortedFiles`: the files of the first entries come first.
* `Bundle.result_discover_of_known`: an entry that is known already changes nothing.
* `Bundle.more_entries` puts these together.
-/

namespace Flattener

section

variable {ε : Type} {resolver : Resolver ε} {limit : Nat}

/-! ### Entries one after the other -/

/-- The later entries start from what the earlier ones have left. -/
theorem buildFrom_append (s : Session) (g : Graph) (first rest : List Text) :
    buildFrom resolver limit s g (first ++ rest) =
      match buildFrom resolver limit s g first with
      | (s', .error e) => (s', .error e)
      | (s', .ok g') => buildFrom resolver limit s' g' rest := by
  induction first generalizing s g with
  | nil => rfl
  | cons entry first ih =>
    rw [List.cons_append]
    rcases hl : load resolver s (Path.slashed entry) with ⟨s₁, e | f⟩
    · rw [buildFrom_of_error hl, buildFrom_of_error hl]
    · by_cases hf : f.path ∈ g
      · rw [buildFrom_of_known hl hf, buildFrom_of_known hl hf, ih]
      · by_cases hlimit : g.size < limit
        · rcases hw : walk resolver limit s₁ (g.addFile f) [(f.path, f.imports)] with ⟨s₂, e | g₂⟩
          · rw [buildFrom_of_new_error hl hf hlimit hw, buildFrom_of_new_error hl hf hlimit hw]
          · rw [buildFrom_of_new hl hf hlimit hw, buildFrom_of_new hl hf hlimit hw, ih]
        · have hfull := Nat.le_of_not_lt hlimit
          rw [buildFrom_of_full hl hf hfull, buildFrom_of_full hl hf hfull]

/-! ### Growing graphs -/

/-- The graph `g'` has the files and edges of `g`, and perhaps more behind them. -/
structure Graph.Extends (g g' : Graph) : Prop where
  files : g.files <+: g'.files
  edges : g.edges <+: g'.edges

namespace Graph.Extends

variable {g₀ g : Graph}

theorem refl (g : Graph) : g.Extends g := ⟨List.prefix_rfl, List.prefix_rfl⟩

theorem addEdge (h : g₀.Extends g) (e : Edge) : g₀.Extends (g.addEdge e) := by
  refine ⟨by simpa using h.files, h.edges.trans ?_⟩
  rw [edges_addEdge]
  split
  · exact List.prefix_rfl
  · exact List.prefix_append _ _

theorem addFile (h : g₀.Extends g) {f : SourceFile} (hf : f.path ∉ g) :
    g₀.Extends (g.addFile f) := by
  refine ⟨h.files.trans ?_, by simpa using h.edges⟩
  rw [files_addFile_of_new hf]
  exact List.prefix_append _ _

theorem mem (h : g₀.Extends g) {path : Text} (hp : path ∈ g₀) : path ∈ g :=
  (h.files.map SourceFile.path).subset hp

/-- The steps of a build only add to the graph. -/
theorem invariant (resolver : Resolver ε) (limit : Nat) (g₀ : Graph) :
    BuildInvariant resolver limit (fun _ _ g _ => g₀.Extends g) fun _ _ => True where
  walk _ :=
    { leave := fun h => h
      failed := fun _ _ => trivial
      known := fun h _ _ => h.addEdge _
      new := fun h _ hf _ => (h.addEdge _).addFile (mt Graph.mem_addEdge.1 hf)
      full := fun _ _ _ _ => trivial }
  failed _ _ := trivial
  known h _ _ := h
  new h _ hf _ := h.addFile hf
  full _ _ _ _ := trivial

end Graph.Extends

theorem extends_of_buildFrom {s s' : Session} {g g' : Graph} {entries : List Text}
    (h : buildFrom resolver limit s g entries = (s', .ok g')) : g.Extends g' := by
  have hends := @BuildInvariant.ends_buildFrom _ _ _ _ _ (Graph.Extends.invariant resolver limit g)
    [] entries s g (.refl g)
  rwa [h] at hends

/-! ### Answers that depend on labels alone -/

/-- What a session answers if it remembers nothing but labels. -/
def Session.answer (resolver : Resolver ε) (s : Session) (name : Text) :
    Except (WalkFault ε) SourceFile :=
  match resolver name with
  | .error e => .error (.lookup e)
  | .ok r =>
    match s.known? r.path with
    | some f => .ok f
    | none => (SourceFile.read r).mapError (.unparsable r.path)

section

variable {s s' : Session} {name label : Text} {f : SourceFile}

theorem Session.Sound.gives (hi : resolver.Idempotent) (hs : s.Sound resolver)
    (hk : s.known? name = some f) : resolver.Gives name f.path :=
  hi.leads_iff.1 (hs.leads hk)

namespace Loads

variable {r : Except (WalkFault ε) SourceFile}

/-- The answer to a name is the answer to its label. -/
theorem eq_answer (hi : resolver.Idempotent) (hs : s.Sound resolver)
    (h : Loads resolver s name s' r) : r = s.answer resolver name := by
  cases h with
  | known hk =>
    obtain ⟨a, ha, hpath⟩ := hs.gives hi hk
    simp only [Session.answer, ha, hpath, hs.own_label _ _ hk]
  | missing _ h => simp only [Session.answer, h]
  | labelled _ h hf => simp only [Session.answer, h, hf]
  | unreadable _ h hpath he => simp only [Session.answer, h, hpath, he, Except.mapError]
  | read _ h hpath hf => simp only [Session.answer, h, hpath, hf, Except.mapError]

/-- A name that finds a file changes what is remembered under labels only for the label of that
file. -/
theorem known?_label (hi : resolver.Idempotent) (hs : s.Sound resolver)
    (h : Loads resolver s name s' (.ok f)) (hl : resolver.Gives label label) :
    s'.known? label = if label = f.path then some f else s.known? label := by
  cases h with
  | known hk =>
    split
    · rename_i hlabel
      rw [hlabel, hs.own_label _ _ hk]
    · rfl
  | @labelled a _ hname h hf =>
    have hpath : a.path = f.path := (hi _ _ ⟨a, h, rfl⟩).unique (hs.gives hi hf)
    -- the name is no label, or its file would have been remembered under it
    have hne : label ≠ name := by
      rintro rfl
      have hlabel : label = a.path := hl.unique ⟨a, h, rfl⟩
      rw [hlabel, hf] at hname
      cases hname
    rw [Session.known?_remember, if_neg hne]
    split
    · rename_i hlabel
      rw [hlabel, ← hpath]
      exact hf
    · rfl
  | @read a _ hname h hpath hf =>
    have hown : f.path = a.path := path_of_read hf
    rw [Session.known?_remember, Session.known?_remember, hown]
    by_cases hlabel : label = a.path
    · simp [hlabel]
    · have hne : label ≠ name := by
        rintro rfl
        exact hlabel (hl.unique ⟨a, h, rfl⟩)
      rw [if_neg hne, if_neg hlabel, if_neg hlabel]
      rfl

/-- A name that finds none changes nothing. -/
theorem known?_of_error {e : WalkFault ε} (h : Loads resolver s name s' (.error e)) (other : Text) :
    s'.known? other = s.known? other := by
  cases h with
  | missing => rfl
  | unreadable => rfl

end Loads

/-! ### Sessions that are alike -/

/-- Two sessions that follow the resolver and remember the same files under labels. -/
structure Session.Alike (resolver : Resolver ε) (s s' : Session) : Prop where
  left : s.Sound resolver
  right : s'.Sound resolver
  known?_eq : ∀ label, resolver.Gives label label → s.known? label = s'.known? label

namespace Session.Alike

theorem note (h : s.Alike resolver s') (e : WalkEvent) :
    (s.note e).Alike resolver (s'.note e) :=
  ⟨h.left.note e, h.right.note e, h.known?_eq⟩

theorem answer_eq (hi : resolver.Idempotent) (h : s.Alike resolver s') (name : Text) :
    s.answer resolver name = s'.answer resolver name := by
  unfold answer
  split
  · rfl
  · rename_i a ha
    rw [h.known?_eq a.path (hi _ _ ⟨a, ha, rfl⟩)]

/-- Sessions that are alike give the same answer and stay alike. -/
theorem load (hi : resolver.Idempotent) (h : s.Alike resolver s') {t : Session}
    {r : Except (WalkFault ε) SourceFile} (hl : Flattener.load resolver s name = (t, r)) :
    ∃ t', Flattener.load resolver s' name = (t', r) ∧ t.Alike resolver t' := by
  rcases hl' : Flattener.load resolver s' name with ⟨t', r'⟩
  have hload := loads_of_load hl
  have hload' := loads_of_load hl'
  obtain rfl : r' = r := by
    rw [hload.eq_answer hi h.left, hload'.eq_answer hi h.right, h.answer_eq hi]
  refine ⟨t', rfl, hload.sound h.left, hload'.sound h.right, fun label hlabel => ?_⟩
  cases r' with
  | error e =>
    rw [hload.known?_of_error, hload'.known?_of_error, h.known?_eq label hlabel]
  | ok f =>
    rw [hload.known?_label hi h.left hlabel, hload'.known?_label hi h.right hlabel,
      h.known?_eq label hlabel]

/-- A walk keeps its session like one from which the walk has the outcome `x`. -/
theorem walkInvariant (hi : resolver.Idempotent) (x : Session × Except (WalkFault ε) Graph) :
    WalkInvariant resolver limit
      (fun s g stack => ∃ s', s.Alike resolver s' ∧ Flattener.walk resolver limit s' g stack = x)
      fun s e => ∃ s', s.Alike resolver s' ∧ (s', .error e) = x where
  leave := by
    rintro s g path stack ⟨s', h, hx⟩
    exact ⟨_, h.note _, (walk_exhausted ..).symm.trans hx⟩
  failed := by
    rintro s t g path specifier pending stack e ⟨s', h, hx⟩ hl
    obtain ⟨t', hl', ht⟩ := h.load hi hl
    exact ⟨t', ht, (walk_of_error hl').symm.trans hx⟩
  known := by
    rintro s t g path specifier pending stack f ⟨s', h, hx⟩ hl hf
    obtain ⟨t', hl', ht⟩ := h.load hi hl
    exact ⟨_, ht.note _, (walk_of_known hl' hf).symm.trans hx⟩
  new := by
    rintro s t g path specifier pending stack f ⟨s', h, hx⟩ hl hf hlimit
    obtain ⟨t', hl', ht⟩ := h.load hi hl
    exact ⟨_, ht.note _, (walk_of_new hl' hf hlimit).symm.trans hx⟩
  full := by
    rintro s t g path specifier pending stack f ⟨s', h, hx⟩ hl hf hlimit
    obtain ⟨t', hl', ht⟩ := h.load hi hl
    exact ⟨_, ht.note _, (walk_of_full hl' hf hlimit).symm.trans hx⟩

/-- From sessions that are alike, walks come to the same outcome. -/
theorem walk (hi : resolver.Idempotent) (h : s.Alike resolver s') {g : Graph}
    {stack : List (Text × List Text)} {t : Session} {r : Except (WalkFault ε) Graph}
    (hw : Flattener.walk resolver limit s g stack = (t, r)) :
    ∃ t', Flattener.walk resolver limit s' g stack = (t', r) ∧ t.Alike resolver t' := by
  have hends := (walkInvariant hi (Flattener.walk resolver limit s' g stack)).ends_walk ⟨s', h, rfl⟩
  rw [hw] at hends
  cases r with
  | error e =>
    obtain ⟨t', ht, hx⟩ := hends
    exact ⟨t', hx.symm, ht⟩
  | ok g' =>
    obtain ⟨t', ht, hx⟩ := hends
    rw [walk_nil] at hx
    exact ⟨t', hx.symm, ht⟩

/-- From sessions that are alike, the same graph is built. -/
theorem buildFrom (hi : resolver.Idempotent) (h : s.Alike resolver s') (g : Graph)
    (entries : List Text) :
    (Flattener.buildFrom resolver limit s g entries).2 =
      (Flattener.buildFrom resolver limit s' g entries).2 := by
  induction entries generalizing s s' g with
  | nil => rfl
  | cons entry entries ih =>
    rcases hl : Flattener.load resolver s (Path.slashed entry) with ⟨t, e | f⟩
    · obtain ⟨t', hl', -⟩ := h.load hi hl
      rw [buildFrom_of_error hl, buildFrom_of_error hl']
    · obtain ⟨t', hl', ht⟩ := h.load hi hl
      by_cases hf : f.path ∈ g
      · rw [buildFrom_of_known hl hf, buildFrom_of_known hl' hf]
        exact ih ht g
      · by_cases hlimit : g.size < limit
        · rcases hw : Flattener.walk resolver limit t (g.addFile f) [(f.path, f.imports)] with
            ⟨u, e | g₂⟩
          · obtain ⟨u', hw', -⟩ := ht.walk hi hw
            rw [buildFrom_of_new_error hl hf hlimit hw, buildFrom_of_new_error hl' hf hlimit hw']
          · obtain ⟨u', hw', hu⟩ := ht.walk hi hw
            rw [buildFrom_of_new hl hf hlimit hw, buildFrom_of_new hl' hf hlimit hw']
            exact ih hu g₂
        · have hfull := Nat.le_of_not_lt hlimit
          rw [buildFrom_of_full hl hf hfull, buildFrom_of_full hl' hf hfull]

end Session.Alike

/-- Looking up a name whose label is remembered leaves a session that is alike. -/
theorem load_of_known_label (hi : resolver.Idempotent) (hs : s.Sound resolver)
    {a : Resolved} (ha : resolver name = .ok a) (hk : s.known? a.path = some f) :
    ∃ t, load resolver s name = (t, .ok f) ∧ t.Alike resolver s := by
  rcases hl : load resolver s name with ⟨t, r⟩
  have hload := loads_of_load hl
  have hr : r = .ok f := by
    rw [hload.eq_answer hi hs]
    simp only [Session.answer, ha, hk]
  subst hr
  refine ⟨t, rfl, hload.sound hs, hs, fun label hlabel => ?_⟩
  rw [hload.known?_label hi hs hlabel]
  split
  · rename_i heq
    rw [heq, hs.own_label _ _ hk]
  · rfl

end

/-- An entry whose file is in the graph of a build changes nothing for the later ones. -/
theorem buildFrom_known_entry (hi : resolver.Idempotent) {s s' : Session} {g : Graph}
    {entries : List Text} (hs : s.Sound resolver)
    (h : build resolver limit s entries = (s', .ok g)) {entry : Text} {a : Resolved}
    (ha : resolver (Path.slashed entry) = .ok a) (hmem : a.path ∈ g) (rest : List Text) :
    (buildFrom resolver limit s' g (entry :: rest)).2 = (buildFrom resolver limit s' g rest).2 := by
  have hrec := recorded_of_build hs h
  obtain ⟨f, hf, hpath⟩ := List.mem_map.1 hmem
  -- the files of the graph are remembered under their labels, so the entry is not read again
  have hk : s'.known? a.path = some f := hpath ▸ hrec.remembered f hf
  obtain ⟨t, hl, hlike⟩ := load_of_known_label hi hrec.sound ha hk
  rw [buildFrom_of_known hl (hpath ▸ hmem)]
  exact hlike.buildFrom hi g rest

end

/-! ### Runs -/

namespace Bundle

variable {finder : Finder}

theorem result_discover (finder : Finder) (entries : List Text) :
    (discover finder entries).result =
      (build finder.resolver finder.limit {} entries).2.mapError WalkFault.toFault := by
  unfold discover
  rcases build finder.resolver finder.limit {} entries with ⟨s, e | g⟩ <;> rfl

theorem exists_build_of_discover {entries : List Text} {g : Graph}
    (h : (discover finder entries).result = .ok g) :
    ∃ s, build finder.resolver finder.limit {} entries = (s, .ok g) := by
  rw [result_discover] at h
  rcases hb : build finder.resolver finder.limit {} entries with ⟨s, e | g'⟩
  · rw [hb] at h
    cases h
  · rw [hb] at h
    cases h
    exact ⟨s, rfl⟩

/-- The files of a graph that was built are refused where imports form a cycle, and else put in the
order in which the walk has left them. -/
theorem arrange_cases {s : Session} {g : Graph} {entries : List Text}
    (h : build finder.resolver finder.limit {} entries = (s, .ok g)) :
    (g.Cyclic ∧ (arrange g).result = .error (.failure (.cyclic g.labels))) ∨
      ¬ g.Cyclic ∧ (arrange g).result = .ok s.exhausted ∧ s.exhausted.Perm g.labels := by
  obtain ⟨left, hleft, hexplored⟩ := explored_of_buildFrom h Graph.Explored.empty
  obtain rfl : s.exhausted = left := hleft
  rw [List.nil_append] at hexplored
  rw [result_arrange]
  by_cases hc : g.Cyclic
  · rw [Graph.order_eq_cyclic hexplored.closed hc]
    exact .inl ⟨hc, rfl⟩
  · have hserves := hexplored.serves hc
    rw [Graph.order_eq_ok hexplored.closed hserves]
    exact .inr ⟨hc, rfl, hserves.perm⟩

/-- The files that a graph is arranged to are those that the walk has left. -/
theorem exhausted_of_arrange {s : Session} {g : Graph} {entries files : List Text}
    (h : build finder.resolver finder.limit {} entries = (s, .ok g))
    (hfiles : (arrange g).result = .ok files) :
    ¬ g.Cyclic ∧ s.exhausted = files ∧ files.Perm g.labels := by
  rcases arrange_cases h with ⟨-, hrefused⟩ | ⟨hc, harranged, hperm⟩
  · rw [hrefused] at hfiles
    cases hfiles
  · obtain rfl := Except.ok.inj (harranged.symm.trans hfiles)
    exact ⟨hc, rfl, hperm⟩

/-- The files of the first entries come first. -/
theorem exists_prefix_of_sortedFiles {first more files : List Text}
    (h : (sortedFiles finder (first ++ more)).result = .ok files) :
    ∃ start, (sortedFiles finder first).result = .ok start ∧ start <+: files := by
  obtain ⟨g, hg, hfiles⟩ := Logged.result_bind_eq_ok_iff.1 h
  obtain ⟨s, hb⟩ := exists_build_of_discover hg
  obtain ⟨hacyclic, rfl, -⟩ := exhausted_of_arrange hb hfiles
  rw [build, buildFrom_append] at hb
  rcases hb₁ : build finder.resolver finder.limit {} first with ⟨s₁, e | g₁⟩
  · rw [← build, hb₁] at hb
    cases hb
  · rw [← build, hb₁] at hb
    have hdiscover : (discover finder first).result = .ok g₁ := by
      rw [result_discover, hb₁]
      rfl
    -- a cycle of the smaller graph would be one of the larger graph
    have hacyclic₁ : ¬ g₁.Cyclic := mt (Graph.Cyclic.mono (extends_of_buildFrom hb).edges.subset)
      hacyclic
    refine ⟨s₁.exhausted, Logged.result_bind_eq_ok_iff.2 ⟨g₁, hdiscover, ?_⟩, ?_⟩
    · exact ((arrange_cases hb₁).resolve_left fun hc => hacyclic₁ hc.1).2.1
    · obtain ⟨done, -, hexplored⟩ := explored_of_buildFrom hb₁ Graph.Explored.empty
      obtain ⟨left, hleft, -⟩ := explored_of_buildFrom hb hexplored
      exact ⟨left, hleft.symm⟩

/-- An entry whose file was discovered from earlier entries changes nothing. -/
theorem result_discover_of_known (hi : finder.resolver.Idempotent) {first : List Text}
    {entry : Text} {g : Graph} {a : Resolved} (hg : (discover finder first).result = .ok g)
    (ha : finder.resolver (Path.slashed entry) = .ok a) (hmem : a.path ∈ g)
    (between rest : List Text) :
    (discover finder (first ++ between ++ entry :: rest)).result =
      (discover finder (first ++ between ++ rest)).result := by
  obtain ⟨s₁, hb₁⟩ := exists_build_of_discover hg
  rw [result_discover, result_discover, build, build, buildFrom_append, buildFrom_append _ _ _ rest]
  rcases hb : buildFrom finder.resolver finder.limit {} .empty (first ++ between) with ⟨s, e | g'⟩
  · rfl
  · have hmem' : a.path ∈ g' := by
      have hmore := hb
      rw [buildFrom_append, ← build, hb₁] at hmore
      exact (extends_of_buildFrom hmore).mem hmem
    exact congrArg _ (buildFrom_known_entry hi Session.sound_fresh hb ha hmem' rest)

/-- What is discovered decides about a run. -/
theorem result_congr_of_discover {entries entries' : List Text}
    (h : (discover finder entries).result = (discover finder entries').result) :
    (sortedFiles finder entries).result = (sortedFiles finder entries').result ∧
      ∀ template, (run finder template entries).result = (run finder template entries').result := by
  refine ⟨?_, fun template => ?_⟩
  · rw [sortedFiles, sortedFiles, Logged.result_bind, Logged.result_bind, h]
  · rw [result_run, result_run, h]

/-- More entries only add files behind those of the first ones. If the resolver gives every label
for itself, an entry whose file was discovered from the first entries changes nothing, wherever
behind them it stands: the graph, the order of the files, the version and the text are the same, or
the same fault. -/
theorem more_entries (hi : finder.resolver.Idempotent) (first : List Text) :
    (∀ more files, (sortedFiles finder (first ++ more)).result = .ok files →
      ∃ start, (sortedFiles finder first).result = .ok start ∧ start <+: files) ∧
    ∀ g entry a, (discover finder first).result = .ok g →
      finder.resolver (Path.slashed entry) = .ok a → a.path ∈ g → ∀ between rest,
        (discover finder (first ++ between ++ entry :: rest)).result =
          (discover finder (first ++ between ++ rest)).result ∧
        (sortedFiles finder (first ++ between ++ entry :: rest)).result =
          (sortedFiles finder (first ++ between ++ rest)).result ∧
        ∀ template, (run finder template (first ++ between ++ entry :: rest)).result =
          (run finder template (first ++ between ++ rest)).result := by
  refine ⟨fun more files => exists_prefix_of_sortedFiles,
    fun g entry a hg ha hmem between rest => ?_⟩
  have hdiscover := result_discover_of_known hi hg ha hmem between rest
  exact ⟨hdiscover, result_congr_of_discover hdiscover⟩

/-- The import `a` of the entry `b` may be named as an entry, too. -/
theorem more_entries_declaredPair :
    declaredPair.resolver.Idempotent ∧
      (run declaredPair Marker.standard [['b'], ['a']]).result =
        (run declaredPair Marker.standard [['b']]).result ∧
      ∃ start, (sortedFiles declaredPair [['b']]).result = .ok start ∧
        start <+: [['a'], ['b']] := by
  have hi : declaredPair.resolver.Idempotent := by
    rintro name label ⟨r, hr, rfl⟩
    by_cases hname : name = ['b']
    · subst hname
      cases hr
      exact ⟨_, rfl, rfl⟩
    · have ha : declaredPair.resolver name = .ok ⟨"z;".toList, ['a']⟩ := if_neg hname
      obtain rfl := Except.ok.inj (ha.symm.trans hr)
      exact ⟨_, rfl, rfl⟩
  obtain ⟨hstart, hknown⟩ := more_entries hi [['b']]
  obtain ⟨-, hfiles, hrun⟩ := hknown _ ['a'] ⟨"z;".toList, ['a']⟩ discover_declaredPair rfl
    (by decide) [] []
  refine ⟨hi, hrun Marker.standard, hstart [['a']] [['a'], ['b']] (hfiles.trans ?_)⟩
  exact Logged.result_bind_eq_ok_iff.2 ⟨_, discover_declaredPair, by decide +kernel⟩

end Bundle

end Flattener
