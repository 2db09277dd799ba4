import Flattener.Graph.Basic

/-!
# Dependency order

The files of a graph are put in an order in which every file follows what it imports. A label
waits for its imports; it is *ready* when all of them are in order. Of the ready labels, the one
discovered first comes next. An edge may also name a *stray* label, one that is no file of the
graph: it has no rank among the files, so the order cannot be continued once it is ready.

* `Graph.order` is the order, or the reason why there is none.
-/

namespace Flattener

/-- Why a graph has no order. -/
inductive OrderFault where
  /-- A label without rank became ready. -/
  | unranked (path : Text)
  /-- No label that is left can become ready. -/
  | cyclic
  deriving DecidableEq, Repr

/-- A label that is not yet in order, and those of its dependencies that are not either. -/
structure Waiting where
  path : Text
  needs : List Text
  deriving DecidableEq, Repr

namespace Waiting

/-- Whether the label waits for nothing. -/
def isReady (w : Waiting) : Bool := w.needs.isEmpty

/-- The label does not wait for `path` any more. -/
def release (path : Text) (w : Waiting) : Waiting := { w with needs := w.needs.filter (· ≠ path) }

end Waiting

set_option linter.unusedVariables false in
/-- Puts the labels `ranked` in order, where `stray` are the labels without rank. -/
def orderFrom (ranked stray : List Waiting) : Except OrderFault (List Text) :=
  match stray.find? Waiting.isReady with
  | some w => .error (.unranked w.path)
  | none =>
    match h : ranked.find? Waiting.isReady with
    | some w =>
      (orderFrom ((ranked.eraseP Waiting.isReady).map (.release w.path))
        (stray.map (.release w.path))).map (w.path :: ·)
    | none => if ranked.isEmpty && stray.isEmpty then .ok [] else .error .cyclic
termination_by ranked.length
decreasing_by
  have hm := List.mem_of_find?_eq_some h
  have hp := List.length_pos_of_mem hm
  rw [List.length_map, List.length_eraseP_of_mem hm (List.find?_some h)]
  omega

namespace Graph

/-- A label with everything that it has to follow. -/
def waiting (g : Graph) (path : Text) : Waiting :=
  ⟨path, (g.edges.filter (·.dependent = path)).map Edge.dependency⟩

/-- The labels that edges name although they are no files. -/
def stray (g : Graph) : List Text :=
  (g.edges.flatMap fun e => [e.dependency, e.dependent]).filter (· ∉ g)

/-- The labels of the files, each after everything that it imports. -/
def order (g : Graph) : Except OrderFault (List Text) :=
  orderFrom (g.labels.map g.waiting) (g.stray.map g.waiting)

end Graph

end Flattener
