import Flattener.Failure
import Flattener.Version.Constraint

/-!
# Reconciling version declarations

The flattened output carries one version declaration for all files. Pinned versions must all be
equal, of the caret versions the highest is kept, and the pinned version must lie in the range
of that one. A pinned version wins over a caret version.

* `Reconciler.add` takes one declaration into account.
* `reconcile` goes through the files of a run in order.
-/

namespace Flattener

/-- A constraint together with the file that declares it. -/
structure Declared where
  file : Text
  constraint : Constraint
  deriving DecidableEq, Repr

/-- Why a declaration cannot be taken into account. -/
inductive ReconcileFault where
  /-- The declarations do not fit, or one is not understood. -/
  | failure (f : Failure)
  /-- The range of a caret version cannot be computed. -/
  | range (v : VersionFault)
  /-- A file to be looked at is not known. -/
  | unknownFile (file : Text)
  deriving DecidableEq, Repr

/-- What the declarations seen so far come to: the first pinned one and the highest caret one. -/
structure Reconciler where
  pinned : Option Declared := none
  caret : Option Declared := none
  deriving DecidableEq, Repr

namespace Reconciler

/-- The declaration for the output: the pinned one if there is one, else the caret one. -/
def result (r : Reconciler) : Option Constraint :=
  (r.pinned.or r.caret).map Declared.constraint

/-- Two pinned versions that differ. -/
def pinConflict (first second : Declared) : ReconcileFault :=
  .failure (.versionConflict "Different pinned compiler versions".toList
    first.file first.constraint.raw second.file second.constraint.raw)

/-- A pinned version outside the range of a caret version. -/
def rangeConflict (caret pinned : Declared) : ReconcileFault :=
  .failure (.versionConflict "Incompatible compiler version declarations".toList
    caret.file caret.constraint.raw pinned.file pinned.constraint.raw)

/-- What is wrong between the pinned and the caret version seen so far. -/
def check (r : Reconciler) : Option ReconcileFault :=
  match r.caret, r.pinned with
  | some caret, some pinned =>
    match caret.constraint.allows pinned.constraint with
    | .ok true => none
    | .ok false => some (rangeConflict caret pinned)
    | .error v => some (.range v)
  | _, _ => none

/-- Takes an understood declaration into account. -/
def record (r : Reconciler) (d : Declared) : Reconciler × Option ReconcileFault :=
  match d.constraint.kind with
  | .caret =>
    let r' :=
      if r.caret.all fun c => c.constraint.release < d.constraint.release
      then { r with caret := some d } else r
    (r', r'.check)
  | .pinned =>
    match r.pinned with
    | none => let r' := { r with pinned := some d }; (r', r'.check)
    | some p =>
      if d.constraint.release = p.constraint.release then (r, r.check)
      else (r, some (pinConflict p d))

/-- Takes the declaration of a file into account. What was seen stays seen, also when the
declaration does not fit. -/
def add (r : Reconciler) (file declaration : Text) : Reconciler × Option ReconcileFault :=
  match Constraint.parse declaration with
  | .error _ => (r, some (.failure (.malformedVersion file declaration none)))
  | .ok c => r.record ⟨file, c⟩

/-- Takes all declarations of a file into account: none is fine, more than one is not. -/
def addFile (r : Reconciler) (file : Text) : List Text → Except ReconcileFault Reconciler
  | [] => .ok r
  | [declaration] =>
    match r.add file declaration with
    | (r', none) => .ok r'
    | (_, some e) => .error e
  | declarations =>
    .error (.failure (.malformedVersion file ("; ".toList.intercalate declarations)
      (some ("Multiple compiler version declarations in ".toList ++ file ++ ": ".toList ++
        Failure.commaList declarations))))

end Reconciler

/-- Goes through `files` from the state `r` on. -/
def reconcileFrom (declarations : Text → Option (List Text)) (r : Reconciler) :
    List Text → Except ReconcileFault Reconciler
  | [] => .ok r
  | file :: files =>
    match declarations file with
    | none => .error (.unknownFile file)
    | some ds => do reconcileFrom declarations (← r.addFile file ds) files

/-- The one version declaration for all `files`, when there is any. -/
def reconcile (declarations : Text → Option (List Text)) (files : List Text) :
    Except ReconcileFault (Option Constraint) :=
  (reconcileFrom declarations {} files).map Reconciler.result

end Flattener
