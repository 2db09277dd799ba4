import Flattener.Text.Basic

/-!
# The dependency graph

The files of a run and the imports between them. Files stand in the order in which they were
discovered, and no label and no edge occurs twice: both are part of the type, since adding what
is already there changes nothing.
-/

namespace Flattener

/-- A file of a run: its label, its text, and what its directives say. -/
structure SourceFile where
  path : Text
  content : Text
  imports : List Text
  versions : List Text
  deriving DecidableEq, Repr

/-- The file labelled `dependent` imports the one labelled `dependency`, which therefore has to
come first. -/
structure Edge where
  dependency : Text
  dependent : Text
  deriving DecidableEq, Repr

/-- The files of a run in order of discovery and the import edges between them. -/
structure Graph where
  files : List SourceFile
  edges : List Edge
  files_nodup : (files.map SourceFile.path).Nodup
  edges_nodup : edges.Nodup

namespace Graph

/-- The graph without files. -/
def empty : Graph := ⟨[], [], List.nodup_nil, List.nodup_nil⟩

/-- The labels of the files in order of discovery. -/
def labels (g : Graph) : List Text := g.files.map SourceFile.path

/-- The number of files. -/
def size (g : Graph) : Nat := g.files.length

instance : Membership Text Graph := ⟨fun g path => path ∈ g.labels⟩

instance (path : Text) (g : Graph) : Decidable (path ∈ g) :=
  inferInstanceAs (Decidable (path ∈ g.labels))

/-- The file with the given label. -/
def file? (g : Graph) (path : Text) : Option SourceFile := g.files.find? (·.path = path)

/-- The graph with one more file at the end, unless its label is already there. -/
def addFile (g : Graph) (f : SourceFile) : Graph :=
  if h : f.path ∈ g then g
  else
    { g with
      files := g.files ++ [f]
      files_nodup := by
        rw [List.map_append, List.map_singleton, List.nodup_append]
        refine ⟨g.files_nodup, by simp, fun a ha b hb hab => h ?_⟩
        obtain rfl := List.mem_singleton.1 hb
        exact hab ▸ ha }

/-- The graph with one more edge at the end, unless it is already there. -/
def addEdge (g : Graph) (e : Edge) : Graph :=
  if h : e ∈ g.edges then g
  else
    { g with
      edges := g.edges ++ [e]
      edges_nodup := by
        rw [List.nodup_append]
        refine ⟨g.edges_nodup, by simp, fun a ha b hb hab => h ?_⟩
        obtain rfl := List.mem_singleton.1 hb
        exact hab ▸ ha }

/-- Adding a file adds its label at the end, unless it is already there. -/
theorem labels_addFile (g : Graph) (f : SourceFile) :
    (g.addFile f).labels = if f.path ∈ g then g.labels else g.labels ++ [f.path] := by
  unfold addFile
  split <;> simp [labels]

/-- Adding an edge leaves the labels alone. -/
@[simp]
theorem labels_addEdge (g : Graph) (e : Edge) : (g.addEdge e).labels = g.labels := by
  unfold addEdge
  split <;> rfl

@[simp]
theorem mem_addEdge {g : Graph} {e : Edge} {path : Text} : path ∈ g.addEdge e ↔ path ∈ g := by
  change path ∈ (g.addEdge e).labels ↔ path ∈ g.labels
  rw [labels_addEdge]

theorem mem_addFile {g : Graph} {f : SourceFile} {path : Text} :
    path ∈ g.addFile f ↔ path ∈ g ∨ path = f.path := by
  change path ∈ (g.addFile f).labels ↔ path ∈ g.labels ∨ path = f.path
  rw [labels_addFile]
  split
  · rename_i h
    exact ⟨.inl, fun hp => hp.elim id fun hp => hp ▸ h⟩
  · simp

/-- Adding an edge adds it at the end, unless it is already there. -/
theorem edges_addEdge (g : Graph) (e : Edge) :
    (g.addEdge e).edges = if e ∈ g.edges then g.edges else g.edges ++ [e] := by
  unfold addEdge
  split <;> rfl

/-- Adding a file leaves the edges alone. -/
@[simp]
theorem edges_addFile (g : Graph) (f : SourceFile) : (g.addFile f).edges = g.edges := by
  unfold addFile
  split <;> rfl

/-- A new file is added at the end. -/
theorem files_addFile_of_new {g : Graph} {f : SourceFile} (h : f.path ∉ g) :
    (g.addFile f).files = g.files ++ [f] := by
  simp [addFile, h]

@[simp]
theorem files_addEdge (g : Graph) (e : Edge) : (g.addEdge e).files = g.files := by
  unfold addEdge
  split <;> rfl

theorem size_addFile {g : Graph} {f : SourceFile} (h : f.path ∉ g) :
    (g.addFile f).size = g.size + 1 := by
  simp [addFile, h, size]

@[simp]
theorem size_addEdge (g : Graph) (e : Edge) : (g.addEdge e).size = g.size := by
  unfold addEdge
  split <;> rfl

end Graph

end Flattener
