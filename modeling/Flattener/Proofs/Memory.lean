import Flattener.Proofs.FinishOrder
import Flattener.Proofs.Traversal

/-!
# What a session remembers

A session has one table for specifiers and labels. A name that is looked up may be a label that was
given for another name, and a label that is given may be a name that was looked up before. In both
cases the table answers for the resolver, and nothing is known about the resolver but that it
answers alike when it is asked alike.

What can be said is that the table follows the resolver (`Session.Sound`): a name is tied to a file
that the resolver gave, and asking the resolver for the name, for the label that it gives, for the
label that it gives for that one, and so on, comes to the label of the file (`Resolver.Leads`). A
resolver that gives every label for itself (`Resolver.Idempotent`) is not led on: then the label is
the one that it gives for the name.

* `WalkInvariant.ends_walk`, `BuildInvariant.ends_buildFrom`: what every step keeps is kept by a
  build.
* `recorded_of_build`: what a build keeps, and which faults it ends in.
* `build_leads`: the imports and entries of a graph lead to the files that they are recorded with.
-/

namespace Flattener

open Relation (ReflTransGen)

variable {ε : Type}

/-! ### Labels that names lead to -/

namespace Resolver

variable {resolver : Resolver ε} {name label label' : Text}

/-- The resolver gives the label for the name. -/
def Gives (resolver : Resolver ε) (name label : Text) : Prop :=
  ∃ r, resolver name = .ok r ∧ r.path = label

/-- The label is given for some name, and it is the name itself or what the resolver comes to when
it is asked for the name, for the label given for it, and so on. -/
structure Leads (resolver : Resolver ε) (name label : Text) : Prop where
  given : ∃ other, resolver.Gives other label
  reached : ReflTransGen resolver.Gives name label

/-- Every label that the resolver gives is given for itself. -/
def Idempotent (resolver : Resolver ε) : Prop :=
  ∀ name label, resolver.Gives name label → resolver.Gives label label

theorem Gives.unique (h : resolver.Gives name label) (h' : resolver.Gives name label') :
    label = label' := by
  obtain ⟨r, hr, rfl⟩ := h
  obtain ⟨r', hr', rfl⟩ := h'
  rw [Except.ok.inj (hr.symm.trans hr')]

theorem gives_of_fetch {f : SourceFile} (h : fetch resolver name = .ok f) :
    resolver.Gives name f.path := by
  obtain ⟨r, hr, hf⟩ := fetch_eq_ok_iff.1 h
  exact ⟨r, hr, (path_of_read hf).symm⟩

/-- A resolver that gives labels for themselves leads to what it gives. -/
theorem Idempotent.leads_iff (hi : resolver.Idempotent) :
    resolver.Leads name label ↔ resolver.Gives name label := by
  constructor
  · rintro ⟨⟨other, hother⟩, hreach⟩
    induction hreach using ReflTransGen.head_induction_on with
    | refl => exact hi other label hother
    | head hgives _ ih =>
      -- what is given is a label already, so it leads no further than to itself
      exact (hi _ _ hgives).unique ih ▸ hgives
  · intro h
    exact ⟨⟨name, h⟩, .single h⟩

end Resolver

/-! ### Looking up -/

/-- The ways in which a name is looked up: what the session is afterwards, and the answer. -/
inductive Loads (resolver : Resolver ε) (s : Session) (name : Text) :
    Session → Except (WalkFault ε) SourceFile → Prop where
  /-- The name is remembered. -/
  | known {f : SourceFile} (h : s.known? name = some f) : Loads resolver s name s (.ok f)
  /-- The resolver does not find it. -/
  | missing {e : ε} (hname : s.known? name = none) (h : resolver name = .error e) :
    Loads resolver s name (s.note (.asked name)) (.error (.lookup e))
  /-- The label that the resolver gives is remembered. -/
  | labelled {r : Resolved} {f : SourceFile} (hname : s.known? name = none)
    (h : resolver name = .ok r) (hf : s.known? r.path = some f) :
    Loads resolver s name ((s.note (.asked name)).remember name f) (.ok f)
  /-- The file that the resolver gives cannot be read. -/
  | unreadable {r : Resolved} {e : SyntaxError} (hname : s.known? name = none)
    (h : resolver name = .ok r) (hpath : s.known? r.path = none)
    (he : SourceFile.read r = .error e) :
    Loads resolver s name (s.note (.asked name)) (.error (.unparsable r.path e))
  /-- The file that the resolver gives is read. -/
  | read {r : Resolved} {f : SourceFile} (hname : s.known? name = none)
    (h : resolver name = .ok r) (hpath : s.known? r.path = none)
    (hf : SourceFile.read r = .ok f) :
    Loads resolver s name (((s.note (.asked name)).remember r.path f).remember name f) (.ok f)

section

variable {resolver : Resolver ε} {s s' : Session} {name : Text}

theorem loads_of_load {r : Except (WalkFault ε) SourceFile}
    (h : load resolver s name = (s', r)) : Loads resolver s name s' r := by
  unfold load at h
  split at h
  · cases h
    exact .known ‹_›
  · rename_i hname
    dsimp only at h
    split at h
    · cases h
      exact .missing hname ‹_›
    · rename_i hr
      split at h
      · cases h
        exact .labelled hname hr ‹_›
      · rename_i hpath
        split at h
        · cases h
          exact .unreadable hname hr hpath ‹_›
        · cases h
          exact .read hname hr hpath ‹_›

/-! ### Sound sessions -/

namespace Session

/-- The session `s'` remembers everything that `s` does. -/
def Grows (s s' : Session) : Prop := ∀ name f, s.known? name = some f → s'.known? name = some f

/-- A session follows its resolver: what it remembers under a name was fetched, is remembered under
its own label too, and has a label that the name leads to. -/
structure Sound (resolver : Resolver ε) (s : Session) : Prop where
  own_label : ∀ name f, s.known? name = some f → s.known? f.path = some f
  reached : ∀ name f, s.known? name = some f → ReflTransGen resolver.Gives name f.path
  fetched : ∀ name f, s.known? name = some f → ∃ other, fetch resolver other = .ok f

theorem sound_fresh : Sound resolver {} where
  own_label _ _ h := absurd h (by simp [known?])
  reached _ _ h := absurd h (by simp [known?])
  fetched _ _ h := absurd h (by simp [known?])

theorem Sound.note (h : s.Sound resolver) (e : WalkEvent) : (s.note e).Sound resolver :=
  ⟨h.own_label, h.reached, h.fetched⟩

theorem Sound.leads (h : s.Sound resolver) {f : SourceFile} (hk : s.known? name = some f) :
    resolver.Leads name f.path where
  given := (h.fetched name f hk).imp fun _ => Resolver.gives_of_fetch
  reached := h.reached name f hk

theorem Grows.remember {f : SourceFile} (hnew : ∀ f', s.known? name = some f' → f' = f) :
    s.Grows (s.remember name f) := by
  intro other f' hk
  rw [known?_remember]
  split
  · rename_i heq
    rw [hnew f' (heq ▸ hk)]
  · exact hk

/-- A file may be remembered under one more name, if that name is not taken and leads to it. -/
theorem Sound.remember (h : s.Sound resolver) {f : SourceFile}
    (hnew : ∀ f', s.known? name = some f' → f' = f)
    (hown : name = f.path ∨ s.known? f.path = some f)
    (hreach : ReflTransGen resolver.Gives name f.path)
    (hf : ∃ other, fetch resolver other = .ok f) :
    (s.remember name f).Sound resolver := by
  have hgrow : s.Grows (s.remember name f) := .remember hnew
  have hcases : ∀ other f', (s.remember name f).known? other = some f' →
      (other = name ∧ f' = f) ∨ s.known? other = some f' := by
    intro other f' hk
    rw [known?_remember] at hk
    split at hk
    · exact .inl ⟨‹_›, (Option.some.inj hk).symm⟩
    · exact .inr hk
  refine ⟨fun other f' hk => ?_, fun other f' hk => ?_, fun other f' hk => ?_⟩
  · rcases hcases other f' hk with ⟨-, rfl⟩ | hk
    · rcases hown with rfl | hown
      · rw [known?_remember, if_pos rfl]
      · exact hgrow _ _ hown
    · exact hgrow _ _ (h.own_label other f' hk)
  · rcases hcases other f' hk with ⟨rfl, rfl⟩ | hk
    · exact hreach
    · exact h.reached other f' hk
  · rcases hcases other f' hk with ⟨-, rfl⟩ | hk
    · exact hf
    · exact h.fetched other f' hk

end Session

namespace Loads

variable {r : Except (WalkFault ε) SourceFile} {f : SourceFile}

/-- A file that was just remembered under its label may be remembered under the name too. -/
private theorem unclaimed {label : Text} (hname : s.known? name = none) (f' : SourceFile)
    (hk : (s.remember label f).known? name = some f') : f' = f := by
  rw [Session.known?_remember] at hk
  split at hk
  · exact (Option.some.inj hk).symm
  · exact absurd (hname.symm.trans hk) (by simp)

theorem grows (h : Loads resolver s name s' r) : s.Grows s' := by
  cases h with
  | known => exact fun _ _ hk => hk
  | missing => exact fun _ _ hk => hk
  | labelled hname => exact .remember fun f' hk => absurd (hname.symm.trans hk) (by simp)
  | unreadable => exact fun _ _ hk => hk
  | @read a f hname _ hpath =>
    have hlabel : s.Grows ((s.note (.asked name)).remember a.path f) :=
      .remember fun f' hk => absurd (hpath.symm.trans hk) (by simp)
    exact fun n f' hk => Session.Grows.remember (unclaimed hname) n f' (hlabel n f' hk)

theorem known_name (h : Loads resolver s name s' (.ok f)) : s'.known? name = some f := by
  cases h with
  | known h => exact h
  | labelled => rw [Session.known?_remember, if_pos rfl]
  | read => rw [Session.known?_remember, if_pos rfl]

/-- Looking up keeps a session sound. -/
theorem sound (h : Loads resolver s name s' r) (hs : s.Sound resolver) : s'.Sound resolver := by
  cases h with
  | known => exact hs
  | missing => exact hs.note _
  | @labelled a f hname h hf =>
    refine (hs.note _).remember (fun f' hk => absurd (hname.symm.trans hk) (by simp))
      (.inr (hs.own_label _ _ hf)) ?_ (hs.fetched _ _ hf)
    exact (hs.reached _ _ hf).head ⟨a, h, rfl⟩
  | unreadable => exact hs.note _
  | @read a f hname h hpath hf =>
    have hown : f.path = a.path := path_of_read hf
    have hfetch : ∃ other, fetch resolver other = .ok f := ⟨name, fetch_eq_ok_iff.2 ⟨a, h, hf⟩⟩
    -- first the file is remembered under its label, then under the name that led to it
    have hlabel : ((s.note (.asked name)).remember a.path f).Sound resolver := by
      refine (hs.note _).remember (fun f' hk => absurd (hpath.symm.trans hk) (by simp))
        (.inl hown.symm) ?_ hfetch
      rw [hown]
    refine hlabel.remember (unclaimed hname) (.inr ?_) (.single ⟨a, h, hown.symm⟩) hfetch
    rw [Session.known?_remember, if_pos hown]

theorem leads (h : Loads resolver s name s' (.ok f)) (hs : s.Sound resolver) :
    resolver.Leads name f.path :=
  (h.sound hs).leads h.known_name

theorem fetched (h : Loads resolver s name s' (.ok f)) (hs : s.Sound resolver) :
    ∃ other, fetch resolver other = .ok f :=
  (h.sound hs).fetched _ _ h.known_name

end Loads

end

/-! ### Steps and runs -/

/-- What every step of a walk keeps: `I` holds of the session, the graph and the stack as long as
the walk goes on, and `F` of the session and the fault where it ends early. -/
structure WalkInvariant (resolver : Resolver ε) (limit : Nat)
    (I : Session → Graph → List (Text × List Text) → Prop) (F : Session → WalkFault ε → Prop) :
    Prop where
  leave : ∀ {s g path stack}, I s g ((path, []) :: stack) → I (s.note (.exhausted path)) g stack
  failed : ∀ {s s' g path specifier pending stack e},
    I s g ((path, specifier :: pending) :: stack) →
    load resolver s (Specifier.target path specifier) = (s', .error e) → F s' e
  known : ∀ {s s' g path specifier pending stack f},
    I s g ((path, specifier :: pending) :: stack) →
    load resolver s (Specifier.target path specifier) = (s', .ok f) → f.path ∈ g →
    I (s'.note (.linked ⟨f.path, path⟩)) (g.addEdge ⟨f.path, path⟩) ((path, pending) :: stack)
  new : ∀ {s s' g path specifier pending stack f},
    I s g ((path, specifier :: pending) :: stack) →
    load resolver s (Specifier.target path specifier) = (s', .ok f) → f.path ∉ g → g.size < limit →
    I (s'.note (.linked ⟨f.path, path⟩)) ((g.addEdge ⟨f.path, path⟩).addFile f)
      ((f.path, f.imports) :: (path, pending) :: stack)
  full : ∀ {s s' g path specifier pending stack f},
    I s g ((path, specifier :: pending) :: stack) →
    load resolver s (Specifier.target path specifier) = (s', .ok f) → f.path ∉ g → limit ≤ g.size →
    F (s'.note (.linked ⟨f.path, path⟩)) .tooManyFiles

/-- What every step of a build keeps: a walk keeps it, and so does the visit of an entry. The
entries that have been visited come first. -/
structure BuildInvariant (resolver : Resolver ε) (limit : Nat)
    (I : List Text → Session → Graph → List (Text × List Text) → Prop)
    (F : Session → WalkFault ε → Prop) : Prop where
  walk : ∀ done, WalkInvariant resolver limit (I done) F
  failed : ∀ {done s s' g entry e}, I done s g [] →
    load resolver s (Path.slashed entry) = (s', .error e) → F s' e
  known : ∀ {done s s' g entry f}, I done s g [] →
    load resolver s (Path.slashed entry) = (s', .ok f) → f.path ∈ g → I (done ++ [entry]) s' g []
  new : ∀ {done s s' g entry f}, I done s g [] →
    load resolver s (Path.slashed entry) = (s', .ok f) → f.path ∉ g → g.size < limit →
    I (done ++ [entry]) s' (g.addFile f) [(f.path, f.imports)]
  full : ∀ {done s s' g entry f}, I done s g [] →
    load resolver s (Path.slashed entry) = (s', .ok f) → f.path ∉ g → limit ≤ g.size →
    F s' .tooManyFiles

/-- A walk or a build ends in a graph with `I`, or in a fault with `F`. -/
def Ends (I : Session → Graph → Prop) (F : Session → WalkFault ε → Prop) :
    Session × Except (WalkFault ε) Graph → Prop
  | (s, .ok g) => I s g
  | (s, .error e) => F s e

section

variable {resolver : Resolver ε} {limit : Nat} {F : Session → WalkFault ε → Prop}

/-- What every step keeps is kept by a walk. -/
theorem WalkInvariant.ends_walk {I : Session → Graph → List (Text × List Text) → Prop}
    (h : WalkInvariant resolver limit I F) {s : Session} {g : Graph}
    {stack : List (Text × List Text)} (hi : I s g stack) :
    Ends (fun s g => I s g []) F (walk resolver limit s g stack) := by
  fun_induction walk resolver limit s g stack with
  | case1 s g => exact hi
  | case2 s g path stack ih => exact ih (h.leave hi)
  | case3 s g path specifier pending stack s₁ e hl => exact h.failed hi hl
  | case4 s g path specifier pending stack s₁ f hl edge s₂ hf ih =>
    exact ih (h.known hi hl (Graph.mem_addEdge.1 hf))
  | case5 s g path specifier pending stack s₁ f hl edge s₂ hf hlt ih =>
    exact ih (h.new hi hl (mt Graph.mem_addEdge.2 hf) hlt)
  | case6 s g path specifier pending stack s₁ f hl edge s₂ hf hlt =>
    exact h.full hi hl (mt Graph.mem_addEdge.2 hf) (Nat.le_of_not_lt hlt)

/-- What every step keeps is kept by a build. -/
theorem BuildInvariant.ends_buildFrom
    {I : List Text → Session → Graph → List (Text × List Text) → Prop}
    (h : BuildInvariant resolver limit I F) {done entries : List Text} {s : Session} {g : Graph}
    (hi : I done s g []) :
    Ends (fun s g => I (done ++ entries) s g []) F (buildFrom resolver limit s g entries) := by
  induction entries generalizing done s g with
  | nil => simpa [buildFrom, Ends] using hi
  | cons entry entries ih =>
    rw [List.append_cons done entry entries, buildFrom]
    split
    · exact h.failed hi ‹_›
    · rename_i s₁ f hl
      split
      · exact ih (h.known hi hl ‹_›)
      · rename_i hf
        split
        · have hwalk := (h.walk _).ends_walk (h.new hi hl hf ‹_›)
          split
          · rename_i hw
            rwa [hw] at hwalk
          · rename_i hw
            rw [hw] at hwalk
            exact ih hwalk
        · exact h.full hi hl hf (Nat.le_of_not_lt ‹_›)

end

/-! ### Linked graphs -/

/-- The imports of a graph are recorded: each import of each file leads to a file that is noted as
its dependency, unless it is still pending on the stack, and nothing else is noted. -/
structure Graph.Linked (resolver : Resolver ε) (g : Graph) (stack : List (Text × List Text)) :
    Prop where
  fetched : ∀ f ∈ g.files, ∃ name, fetch resolver name = .ok f
  opened : ∀ frame ∈ stack, ∃ f ∈ g.files, f.path = frame.1 ∧ frame.2 ⊆ f.imports
  linked : ∀ f ∈ g.files, ∀ specifier ∈ f.imports,
    (∃ pending, (f.path, pending) ∈ stack ∧ specifier ∈ pending) ∨
      ∃ label, g.ImportedBy label f.path ∧ resolver.Leads (Specifier.target f.path specifier) label
  imported : ∀ label path, g.ImportedBy label path → ∃ f ∈ g.files, f.path = path ∧
    ∃ specifier ∈ f.imports, resolver.Leads (Specifier.target path specifier) label

namespace Graph.Linked

variable {resolver : Resolver ε} {g : Graph} {stack : List (Text × List Text)}

theorem empty : Graph.empty.Linked resolver [] where
  fetched _ hf := absurd hf List.not_mem_nil
  opened _ hframe := absurd hframe List.not_mem_nil
  linked _ hf := absurd hf List.not_mem_nil
  imported _ _ he := absurd he List.not_mem_nil

/-- The innermost open file has no import that is pending. -/
theorem leave {path : Text} (h : g.Linked resolver ((path, []) :: stack)) :
    g.Linked resolver stack where
  fetched := h.fetched
  opened frame hframe := h.opened frame (List.mem_cons_of_mem _ hframe)
  linked f hf specifier hs := by
    rcases h.linked f hf specifier hs with ⟨pending, hframe, hp⟩ | hlabel
    · rcases List.mem_cons.1 hframe with heq | hframe
      · cases heq
        exact absurd hp List.not_mem_nil
      · exact .inl ⟨pending, hframe, hp⟩
    · exact .inr hlabel
  imported := h.imported

/-- The next import of the innermost open file is noted. -/
theorem link {path specifier label : Text} {pending : List Text}
    (h : g.Linked resolver ((path, specifier :: pending) :: stack))
    (hl : resolver.Leads (Specifier.target path specifier) label) :
    (g.addEdge ⟨label, path⟩).Linked resolver ((path, pending) :: stack) := by
  have htop := h.opened _ List.mem_cons_self
  refine ⟨by simpa using h.fetched, fun frame hframe => ?_, fun f hf s hs => ?_,
    fun a b hab => ?_⟩
  · rw [files_addEdge]
    rcases List.mem_cons.1 hframe with rfl | hframe
    · exact htop.imp fun f hf => ⟨hf.1, hf.2.1, fun s hs => hf.2.2 (List.mem_cons_of_mem _ hs)⟩
    · exact h.opened frame (List.mem_cons_of_mem _ hframe)
  · rw [files_addEdge] at hf
    rcases h.linked f hf s hs with ⟨pending', hframe, hp⟩ | ⟨label', he, hlabel'⟩
    · rcases List.mem_cons.1 hframe with heq | hframe
      · cases heq
        rcases List.mem_cons.1 hp with rfl | hp
        · exact .inr ⟨label, importedBy_addEdge.2 (.inr ⟨rfl, rfl⟩), hl⟩
        · exact .inl ⟨pending, List.mem_cons_self, hp⟩
      · exact .inl ⟨pending', List.mem_cons_of_mem _ hframe, hp⟩
    · exact .inr ⟨label', importedBy_addEdge.2 (.inl he), hlabel'⟩
  · rw [files_addEdge]
    rcases importedBy_addEdge.1 hab with hab | ⟨rfl, rfl⟩
    · exact h.imported a b hab
    · obtain ⟨f, hf, hpath, hsub⟩ := htop
      exact ⟨f, hf, hpath, specifier, hsub List.mem_cons_self, hl⟩

/-- A new file is opened with all its imports pending. -/
theorem discover {f : SourceFile} (h : g.Linked resolver stack) (hf : f.path ∉ g)
    (hfetch : ∃ name, fetch resolver name = .ok f) :
    (g.addFile f).Linked resolver ((f.path, f.imports) :: stack) := by
  have hfiles : ∀ f', f' ∈ (g.addFile f).files ↔ f' ∈ g.files ∨ f' = f := fun f' => by
    rw [files_addFile_of_new hf, List.mem_append, List.mem_singleton]
  refine ⟨fun f' hf' => ?_, fun frame hframe => ?_, fun f' hf' s hs => ?_, fun a b hab => ?_⟩
  · rcases (hfiles f').1 hf' with hf' | rfl
    · exact h.fetched f' hf'
    · exact hfetch
  · rcases List.mem_cons.1 hframe with rfl | hframe
    · exact ⟨f, (hfiles f).2 (.inr rfl), rfl, fun _ hs => hs⟩
    · exact (h.opened frame hframe).imp fun f' hf' => ⟨(hfiles f').2 (.inl hf'.1), hf'.2⟩
  · rcases (hfiles f').1 hf' with hf' | rfl
    · rcases h.linked f' hf' s hs with ⟨pending, hframe, hp⟩ | ⟨label, he, hl⟩
      · exact .inl ⟨pending, List.mem_cons_of_mem _ hframe, hp⟩
      · exact .inr ⟨label, importedBy_addFile.2 he, hl⟩
    · exact .inl ⟨f'.imports, List.mem_cons_self, hs⟩
  · obtain ⟨f', hf', hrest⟩ := h.imported a b (importedBy_addFile.1 hab)
    exact ⟨f', (hfiles f').2 (.inl hf'), hrest⟩

end Graph.Linked

/-! ### What a build records -/

/-- The state of a build: its session is sound and remembers the files of the graph, the imports are
recorded, and the entries visited so far lead to files of the graph. -/
structure Recorded (resolver : Resolver ε) (done : List Text) (s : Session) (g : Graph)
    (stack : List (Text × List Text)) : Prop where
  sound : s.Sound resolver
  linked : g.Linked resolver stack
  remembered : ∀ f ∈ g.files, s.known? f.path = some f
  entered : ∀ entry ∈ done, ∃ label ∈ g, resolver.Leads (Path.slashed entry) label

/-- The fault is the resolver's, or that of a file that it gives, or there are more labels than the
limit allows. -/
def WalkFault.Justified (resolver : Resolver ε) (limit : Nat) : WalkFault ε → Prop
  | lookup e => ∃ name, resolver name = .error e
  | unparsable file e => ∃ name r, resolver name = .ok r ∧ r.path = file ∧
      SourceFile.read r = .error e
  | tooManyFiles => ∀ labels, resolver.Within labels → limit < labels.length

namespace Recorded

variable {resolver : Resolver ε} {limit : Nat} {done : List Text} {s s' : Session} {g : Graph}
  {stack : List (Text × List Text)} {name : Text} {f : SourceFile}

theorem load (h : Recorded resolver done s g stack) {r : Except (WalkFault ε) SourceFile}
    (hl : Loads resolver s name s' r) : Recorded resolver done s' g stack where
  sound := hl.sound h.sound
  linked := h.linked
  remembered f hf := hl.grows _ _ (h.remembered f hf)
  entered := h.entered

theorem note (h : Recorded resolver done s g stack) (e : WalkEvent) :
    Recorded resolver done (s.note e) g stack :=
  ⟨h.sound.note e, h.linked, h.remembered, h.entered⟩

theorem link {path specifier label : Text} {pending : List Text}
    (h : Recorded resolver done s g ((path, specifier :: pending) :: stack))
    (hl : resolver.Leads (Specifier.target path specifier) label) :
    Recorded resolver done s (g.addEdge ⟨label, path⟩) ((path, pending) :: stack) where
  sound := h.sound
  linked := h.linked.link hl
  remembered f hf := h.remembered f (by simpa using hf)
  entered entry he := by simpa using h.entered entry he

theorem discover (h : Recorded resolver done s g stack) (hf : f.path ∉ g)
    (hk : s.known? name = some f) :
    Recorded resolver done s (g.addFile f) ((f.path, f.imports) :: stack) where
  sound := h.sound
  linked := h.linked.discover hf (h.sound.fetched _ _ hk)
  remembered f' hf' := by
    rw [Graph.files_addFile_of_new hf, List.mem_append, List.mem_singleton] at hf'
    rcases hf' with hf' | rfl
    · exact h.remembered f' hf'
    · exact h.sound.own_label _ _ hk
  entered entry he := by
    obtain ⟨label, hmem, hl⟩ := h.entered entry he
    exact ⟨label, Graph.mem_addFile.2 (.inl hmem), hl⟩

theorem enter {entry : Text} (h : Recorded resolver done s g stack)
    (hmem : f.path ∈ g) (hl : resolver.Leads (Path.slashed entry) f.path) :
    Recorded resolver (done ++ [entry]) s g stack where
  sound := h.sound
  linked := h.linked
  remembered := h.remembered
  entered other hother := by
    rcases List.mem_append.1 hother with hother | hother
    · exact h.entered other hother
    · rw [List.mem_singleton.1 hother]
      exact ⟨f.path, hmem, hl⟩

/-- A new file that finds no room shows that there are too many labels. -/
theorem full (h : Recorded resolver done s g stack) (hf : ∃ name, fetch resolver name = .ok f)
    (hnew : f.path ∉ g) (hlimit : limit ≤ g.size) :
    (WalkFault.tooManyFiles : WalkFault ε).Justified resolver limit := by
  intro labels hw
  have hsub : g.labels ⊆ labels := by
    intro path hp
    obtain ⟨f', hf', rfl⟩ := List.mem_map.1 hp
    obtain ⟨name, hfetch⟩ := h.linked.fetched f' hf'
    exact path_mem_of_fetch hw hfetch
  obtain ⟨name, hfetch⟩ := hf
  exact Nat.lt_of_le_of_lt hlimit (g.size_lt hsub (path_mem_of_fetch hw hfetch) hnew)

theorem justified_of_loads {e : WalkFault ε} (h : Loads resolver s name s' (.error e)) :
    e.Justified resolver limit := by
  cases h with
  | missing _ h => exact ⟨name, h⟩
  | @unreadable r e _ h _ he => exact ⟨name, r, h, rfl, he⟩

/-- The steps of a build keep what it has recorded, and their faults are justified. -/
theorem invariant (resolver : Resolver ε) (limit : Nat) :
    BuildInvariant resolver limit (Recorded resolver)
      fun s e => s.Sound resolver ∧ e.Justified resolver limit where
  walk _ :=
    { leave := fun h => ⟨h.sound.note _, h.linked.leave, h.remembered, h.entered⟩
      failed := fun h hl =>
        ⟨(loads_of_load hl).sound h.sound, justified_of_loads (loads_of_load hl)⟩
      known := fun h hl _ =>
        ((h.load (loads_of_load hl)).link ((loads_of_load hl).leads h.sound)).note _
      new := fun h hl hf _ =>
        (((h.load (loads_of_load hl)).link ((loads_of_load hl).leads h.sound)).discover
          (mt Graph.mem_addEdge.1 hf) (loads_of_load hl).known_name).note _
      full := fun h hl hf hlimit =>
        ⟨((loads_of_load hl).sound h.sound).note _,
          h.full ((loads_of_load hl).fetched h.sound) hf hlimit⟩ }
  failed h hl := ⟨(loads_of_load hl).sound h.sound, justified_of_loads (loads_of_load hl)⟩
  known h hl hf := (h.load (loads_of_load hl)).enter hf ((loads_of_load hl).leads h.sound)
  new h hl hf _ :=
    ((h.load (loads_of_load hl)).discover hf (loads_of_load hl).known_name).enter
      (Graph.mem_addFile.2 (.inr rfl)) ((loads_of_load hl).leads h.sound)
  full h hl hf hlimit :=
    ⟨(loads_of_load hl).sound h.sound, h.full ((loads_of_load hl).fetched h.sound) hf hlimit⟩

/-- A build starts with nothing recorded. -/
theorem start (hs : s.Sound resolver) : Recorded resolver [] s .empty [] where
  sound := hs
  linked := .empty
  remembered _ hf := absurd hf List.not_mem_nil
  entered _ he := absurd he List.not_mem_nil

end Recorded

section

variable {resolver : Resolver ε} {limit : Nat} {s s' : Session} {g : Graph} {entries : List Text}

/-- From a sound session, a build records the imports and entries of its graph, or it ends in a
fault that is justified. -/
theorem ends_build (limit : Nat) (entries : List Text) (hs : s.Sound resolver) :
    Ends (fun s' g => Recorded resolver entries s' g [])
      (fun s' e => s'.Sound resolver ∧ e.Justified resolver limit)
      (build resolver limit s entries) :=
  (Recorded.invariant resolver limit).ends_buildFrom (.start hs)

/-- Every session that builds leave behind is sound. -/
theorem Session.Reachable.sound (h : Session.Reachable resolver s) : s.Sound resolver := by
  induction h with
  | fresh => exact Session.sound_fresh
  | @build s limit entries _ ih =>
    have hends := ends_build limit entries ih
    generalize Flattener.build resolver limit s entries = x at hends
    obtain ⟨s', e | g⟩ := x
    · exact hends.1
    · exact hends.sound

theorem recorded_of_build (hs : s.Sound resolver)
    (h : build resolver limit s entries = (s', .ok g)) : Recorded resolver entries s' g [] := by
  have hends := ends_build limit entries hs
  rwa [h] at hends

/-- Whatever the resolver, and whatever a session remembers from earlier builds: in a graph that was
built, each file is one that the resolver gave, as it is read; each of its imports leads to a file
of the graph that is recorded as its dependency, no other dependency is recorded, and each entry
leads to a file of the graph. If the resolver gives every label for itself, a name leads to the
label that is given for it and to no other. -/
theorem build_leads (hr : Session.Reachable resolver s)
    (h : build resolver limit s entries = (s', .ok g)) :
    (∀ f ∈ g.files, (∃ name, resolver name = .ok ⟨f.content, f.path⟩) ∧
      SourceFile.read ⟨f.content, f.path⟩ = .ok f ∧
      ∀ specifier ∈ f.imports, ∃ label ∈ g, g.ImportedBy label f.path ∧
        resolver.Leads (Specifier.target f.path specifier) label) ∧
    (∀ e ∈ g.edges, ∃ f ∈ g.files, f.path = e.dependent ∧ ∃ specifier ∈ f.imports,
      resolver.Leads (Specifier.target f.path specifier) e.dependency) ∧
    (∀ entry ∈ entries, ∃ label ∈ g, resolver.Leads (Path.slashed entry) label) ∧
    (resolver.Idempotent →
      ∀ name label, resolver.Leads name label ↔ resolver.Gives name label) := by
  have hrec := recorded_of_build hr.sound h
  obtain ⟨files, -, hexplored⟩ := explored_of_buildFrom h Graph.Explored.empty
  refine ⟨fun f hf => ?_, fun e he => ?_, hrec.entered, fun hi name label => hi.leads_iff⟩
  · obtain ⟨name, hfetch⟩ := hrec.linked.fetched f hf
    obtain ⟨r, hname, hread⟩ := fetch_eq_ok_iff.1 hfetch
    rw [eq_of_read hread] at hname hread
    refine ⟨⟨name, hname⟩, hread, fun specifier hs => ?_⟩
    rcases hrec.linked.linked f hf specifier hs with ⟨pending, hframe, -⟩ | ⟨label, he, hl⟩
    · exact absurd hframe List.not_mem_nil
    · exact ⟨label, (hexplored.closed _ he).1, he, hl⟩
  · obtain ⟨f, hf, hpath, specifier, hs, hl⟩ := hrec.linked.imported e.dependency e.dependent he
    exact ⟨f, hf, hpath, specifier, hs, hpath ▸ hl⟩

end

/-! ### A label that is the name of another file -/

/-- Asked for `a`, the resolver gives a file labelled `b`; asked for `b`, it gives another one. -/
def crossed : Resolver Unit := fun name =>
  if name = ['a'] then .ok ⟨"import 'b';".toList, ['b']⟩
  else if name = ['b'] then .ok ⟨[], ['c']⟩
  else .error ()

/-- The graph of the entry `a`. -/
def crossedGraph : Graph :=
  (Graph.empty.addFile ⟨['b'], "import 'b';".toList, [['b']], []⟩).addEdge ⟨['b'], ['b']⟩

theorem build_crossed : ∃ s, build crossed 2 {} [['a']] = (s, .ok crossedGraph) := by
  have ha : load crossed {} ['a'] = ((load crossed {} ['a']).1,
      .ok ⟨['b'], "import 'b';".toList, [['b']], []⟩) := Prod.ext rfl (by decide +kernel)
  have hb : load crossed (load crossed {} ['a']).1 ['b'] =
      ((load crossed (load crossed {} ['a']).1 ['b']).1,
        .ok ⟨['b'], "import 'b';".toList, [['b']], []⟩) := Prod.ext rfl (by decide +kernel)
  exact ⟨_, (buildFrom_of_new ha (by decide) (by decide) (by
    rw [walk_of_known hb (by decide), walk_exhausted, walk_nil]
    rfl)).trans rfl⟩

/-- The import of `b` leads to the file labelled `b`, and that is what is recorded. -/
theorem build_leads_crossed :
    ∃ s, build crossed 2 {} [['a']] = (s, .ok crossedGraph) ∧
      ∃ label ∈ crossedGraph, crossedGraph.ImportedBy label ['b'] ∧
        crossed.Leads (Specifier.target ['b'] ['b']) label := by
  obtain ⟨s, hs⟩ := build_crossed
  obtain ⟨hfiles, -⟩ := build_leads .fresh hs
  obtain ⟨-, -, himports⟩ :=
    hfiles ⟨['b'], "import 'b';".toList, [['b']], []⟩ (by decide)
  exact ⟨s, hs, himports ['b'] (by decide)⟩

/-- A label stands for the file that it was given for, not for the one that the resolver gives for
it: the file labelled `b` imports `b`, for which the resolver gives the label `c`, and no file
labelled `c` is in the graph. -/
theorem crossed_not_given :
    ∃ s f, build crossed 2 {} [['a']] = (s, .ok crossedGraph) ∧ f ∈ crossedGraph.files ∧
      ['b'] ∈ f.imports ∧ crossed.Gives (Specifier.target f.path ['b']) ['c'] ∧
      ¬ crossedGraph.ImportedBy ['c'] f.path ∧ ['c'] ∉ crossedGraph := by
  obtain ⟨s, hs⟩ := build_crossed
  refine ⟨s, ⟨['b'], "import 'b';".toList, [['b']], []⟩, hs, by decide, by decide,
    ⟨⟨[], ['c']⟩, rfl, rfl⟩, ?_, by decide⟩
  unfold Graph.ImportedBy
  decide

end Flattener
