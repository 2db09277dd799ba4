import Flattener.Config.Basic
import Flattener.Proofs.Scan
import Mathlib.Data.List.Forall2

/-!
# What placeholders stand for

A placeholder is a dollar sign and a name in braces. A text is read from the left: where a
placeholder starts it is taken as a whole, and where none does one character is taken as it stands
(`Placeholder.Reads`). Every text has one reading, and cutting it into pieces finds that
(`Placeholder.reads_iff`). What is put in for a placeholder belongs to no text that is read, so
nothing in it can be taken for a placeholder.

The texts of a setting are filled in one after the other, and the first name that is not set ends
it all. Both are said without the recursion over settings: by the list of the texts of a setting
(`Setting.texts`) and by what is left when they are emptied (`Setting.bare`), which is its shape
with its keys and its other values.

* `Placeholder.reads_iff`: the pieces of a text are its only reading.
* `substitute_eq`: substitution as a whole, for settings of any shape.
* `substitute_reads`: when it succeeds, what it yields, and which name it fails with.
-/

namespace Flattener

namespace Placeholder

variable {env : Environment}

/-! ### Reading a text -/

/-- The text `t` starts with the placeholder `name`, and `rest` follows. A name has at least one
character and goes on up to the first closing brace, whatever else is in it. -/
def Starts (t name rest : Text) : Prop :=
  name ≠ [] ∧ '\x7d' ∉ name ∧ t = '$' :: '\x7b' :: (name ++ '\x7d' :: rest)

/-- The pieces that a text is read as, from left to right. -/
inductive Reads : Text → List Piece → Prop where
  | nil : Reads [] []
  | named {t name rest : Text} {ps : List Piece} (h : Starts t name rest) (hr : Reads rest ps) :
    Reads t (.named name :: ps)
  | literal {c : Char} {t : Text} {ps : List Piece} (h : ∀ name rest, ¬ Starts (c :: t) name rest)
    (hr : Reads t ps) : Reads (c :: t) (.literal c :: ps)

/-- A name reaches to the first closing brace and is not empty. -/
theorem name?_eq_some_iff {t name rest : Text} :
    name? t = some (name, rest) ↔ name ≠ [] ∧ '\x7d' ∉ name ∧ t = name ++ '\x7d' :: rest := by
  constructor
  · intro h
    unfold name? at h
    split at h
    · rename_i c u d v htake hdrop
      obtain ⟨rfl, rfl⟩ := Prod.mk.inj (Option.some.inj h)
      obtain ⟨ht, hno⟩ := Text.eq_of_dropWhile_mark hdrop
      rw [htake] at ht hno
      exact ⟨List.cons_ne_nil c u, hno, ht⟩
    · cases h
  · rintro ⟨hne, hno, rfl⟩
    obtain ⟨htake, hdrop⟩ := Text.takeWhile_mark hno rest
    obtain ⟨c, name, rfl⟩ := List.exists_cons_of_ne_nil hne
    rw [name?, htake, hdrop]

/-- Where a placeholder starts is what the reader of names says after the mark. -/
theorem starts_iff {t name rest : Text} :
    Starts ('$' :: '\x7b' :: t) name rest ↔ name? t = some (name, rest) := by
  simp [Starts, name?_eq_some_iff]

/-- At most one placeholder starts at a place. -/
theorem Starts.unique {t name rest name' rest' : Text} (h : Starts t name rest)
    (h' : Starts t name' rest') : name = name' ∧ rest = rest' := by
  obtain ⟨hne, hno, rfl⟩ := h
  have hsome := starts_iff.1 h'
  rw [name?_eq_some_iff.2 ⟨hne, hno, rfl⟩] at hsome
  exact Prod.mk.inj (Option.some.inj hsome)

/-- A text has one reading. -/
theorem Reads.unique {t : Text} {ps qs : List Piece} (h : Reads t ps) (h' : Reads t qs) :
    ps = qs := by
  induction h generalizing qs with
  | nil =>
    cases h' with
    | nil => rfl
    | named hs => exact absurd hs.2.2 (by simp)
  | named hs _ ih =>
    cases h' with
    | nil => exact absurd hs.2.2 (by simp)
    | named hs' hr' =>
      obtain ⟨rfl, rfl⟩ := hs.unique hs'
      rw [ih hr']
    | literal hno => exact absurd hs (hno _ _)
  | literal hno _ ih =>
    cases h' with
    | named hs' => exact absurd hs' (hno _ _)
    | literal _ hr' => rw [ih hr']

/-- The pieces into which a text is cut are a way to read it. -/
theorem reads_pieces (t : Text) : Reads t (pieces t) := by
  fun_induction pieces t with
  | case1 => exact .nil
  | case2 t name rest h ih => exact .named (starts_iff.2 h) ih
  | case3 t h ih =>
    refine .literal (fun name rest hs => ?_) ih
    rw [starts_iff.1 hs] at h
    cases h
  | case4 c t hno ih =>
    refine .literal (fun name rest hs => ?_) ih
    obtain ⟨rfl, ht⟩ := List.cons.inj hs.2.2
    exact hno _ rfl ht

/-- The pieces of a text are its only reading. -/
theorem reads_iff {t : Text} {ps : List Piece} : Reads t ps ↔ pieces t = ps :=
  ⟨(reads_pieces t).unique, fun h => h ▸ reads_pieces t⟩

/-- A name may hold what looks like the start of another one, and an empty one is no name. -/
example : pieces "$$\x7ba$\x7bb\x7d$\x7b\x7d".toList =
    [.literal '$', .named "a$\x7bb".toList, .literal '$', .literal '\x7b', .literal '\x7d'] := by
  cbv

/-! ### Filling in -/

/-- What stands for a piece when all variables are set. -/
def Piece.value (env : Environment) : Piece → Text
  | literal c => [c]
  | named name => (env.lookup name).getD []

/-- The name of a piece whose variable is not set. -/
def Piece.unset? (env : Environment) : Piece → Option Text
  | literal _ => none
  | named name => if (env.lookup name).isSome then none else some name

/-- The text of the values of pieces, one after the other. -/
def filled (env : Environment) (ps : List Piece) : Text := ps.flatMap (Piece.value env)

/-- The first name in a row of pieces that is not set. -/
def firstUnset (env : Environment) (ps : List Piece) : Option Text :=
  ps.findSome? (Piece.unset? env)

/-- A piece lacks a variable just if it names one that is not set. -/
theorem Piece.unset?_eq_some_iff {p : Piece} {name : Text} :
    p.unset? env = some name ↔ p = .named name ∧ env.lookup name = none := by
  cases p with
  | literal c => simp [unset?]
  | named n =>
    rw [unset?]
    split
    · rename_i hset
      refine ⟨nofun, fun ⟨heq, hnone⟩ => ?_⟩
      cases heq
      rw [hnone] at hset
      cases hset
    · rename_i hunset
      rw [Option.not_isSome_iff_eq_none] at hunset
      simp only [Option.some.injEq, named.injEq]
      exact ⟨fun heq => ⟨heq, heq ▸ hunset⟩, fun h => h.1⟩

/-- The first variable that is missing is sought from the left. -/
theorem firstUnset_append (ps qs : List Piece) :
    firstUnset env (ps ++ qs) = (firstUnset env ps).or (firstUnset env qs) :=
  List.findSome?_append

/-- Nothing is missing just if all variables that are named are set. -/
theorem firstUnset_eq_none_iff {ps : List Piece} :
    firstUnset env ps = none ↔ ∀ name, .named name ∈ ps → (env.lookup name).isSome := by
  simp only [firstUnset, List.findSome?_eq_none_iff]
  constructor
  · intro h name hmem
    rw [Option.isSome_iff_ne_none]
    intro hnone
    have hunset := Piece.unset?_eq_some_iff.2 ⟨rfl, hnone⟩
    rw [h _ hmem] at hunset
    cases hunset
  · intro h p hp
    by_contra hne
    obtain ⟨name, hname⟩ := Option.ne_none_iff_exists'.1 hne
    obtain ⟨rfl, hnone⟩ := Piece.unset?_eq_some_iff.1 hname
    have hsome := h name hp
    rw [hnone] at hsome
    cases hsome

/-- The first name that is not set, by what stands before it. -/
theorem firstUnset_eq_some_iff {ps : List Piece} {name : Text} :
    firstUnset env ps = some name ↔ ∃ before after, ps = before ++ .named name :: after ∧
      env.lookup name = none ∧ ∀ n, .named n ∈ before → (env.lookup n).isSome := by
  rw [firstUnset, List.findSome?_eq_some_iff]
  constructor
  · rintro ⟨before, p, after, rfl, hp, hbefore⟩
    obtain ⟨rfl, hnone⟩ := Piece.unset?_eq_some_iff.1 hp
    exact ⟨before, after, rfl, hnone,
      firstUnset_eq_none_iff.1 (List.findSome?_eq_none_iff.2 hbefore)⟩
  · rintro ⟨before, after, rfl, hnone, hbefore⟩
    exact ⟨before, .named name, after, rfl, Piece.unset?_eq_some_iff.2 ⟨rfl, hnone⟩,
      List.findSome?_eq_none_iff.1 (firstUnset_eq_none_iff.2 hbefore)⟩

/-- The outcome of filling in: the first name that is not set, or else the result. -/
def outcome {α : Type} (unset : Option Text) (a : α) : Except Text α :=
  match unset with
  | some name => .error name
  | none => .ok a

theorem outcome_map {α β : Type} (unset : Option Text) (a : α) (f : α → β) :
    (outcome unset a).map f = outcome unset (f a) := by
  cases unset <;> rfl

/-- Of two outcomes in a row the first one is told if it fails. -/
theorem outcome_bind {α β γ : Type} (unset unset' : Option Text) (a : α) (b : β) (f : α → β → γ) :
    (do return f (← outcome unset a) (← outcome unset' b)) = outcome (unset.or unset') (f a b) := by
  cases unset <;> cases unset' <;> rfl

/-- There is an outcome just if nothing is missing. -/
theorem outcome_eq_ok_iff {α : Type} {unset : Option Text} {a b : α} :
    outcome unset a = .ok b ↔ unset = none ∧ a = b := by
  cases unset <;> simp [outcome]

/-- What is missing is what is reported. -/
theorem outcome_eq_error_iff {α : Type} {unset : Option Text} {a : α} {name : Text} :
    outcome unset a = .error name ↔ unset = some name := by
  cases unset <;> simp [outcome]

/-- A piece is expanded to its value unless its variable is missing. -/
theorem Piece.expand_eq (p : Piece) : p.expand env = outcome (p.unset? env) (p.value env) := by
  cases p with
  | literal c => rfl
  | named name =>
    simp only [expand, unset?, value]
    cases env.lookup name <;> rfl

/-- Pieces are expanded to their values unless a variable is missing, and then the first one is
reported. -/
theorem expandAll_eq (ps : List Piece) :
    expandAll env ps = outcome (firstUnset env ps) (filled env ps) := by
  induction ps with
  | nil => rfl
  | cons p ps ih =>
    rw [expandAll, p.expand_eq, ih, outcome_bind]
    congr 1
    cases h : p.unset? env <;> simp [firstUnset, h]

end Placeholder

/-! ### Settings -/

namespace Setting

mutual

/-- The texts of a setting, depth first and from left to right. Keys are none of them. -/
def texts : Setting → List Text
  | text t => [t]
  | list vs => textsList vs
  | object fields => textsFields fields
  | _ => []

/-- The texts of the members of a list. -/
def textsList : List Setting → List Text
  | [] => []
  | v :: vs => texts v ++ textsList vs

/-- The texts of the values of fields. -/
def textsFields : List (Key × Setting) → List Text
  | [] => []
  | (_, v) :: fields => texts v ++ textsFields fields

end

mutual

/-- The setting with `f` applied to its texts, and all else as it is. -/
def fillTexts (f : Text → Text) : Setting → Setting
  | text t => text (f t)
  | list vs => list (fillTextsList f vs)
  | object fields => object (fillTextsFields f fields)
  | v => v

/-- The members of a list with `f` applied to their texts. -/
def fillTextsList (f : Text → Text) : List Setting → List Setting
  | [] => []
  | v :: vs => fillTexts f v :: fillTextsList f vs

/-- Fields with `f` applied to the texts of their values. -/
def fillTextsFields (f : Text → Text) : List (Key × Setting) → List (Key × Setting)
  | [] => []
  | (k, v) :: fields => (k, fillTexts f v) :: fillTextsFields f fields

end

/-- The setting with its texts emptied: its shape, its keys, and the values that are no texts. -/
def bare (v : Setting) : Setting := v.fillTexts fun _ => []

mutual

/-- Filling in the texts of a value changes them one by one and adds none. -/
theorem texts_fillTexts (f : Text → Text) : ∀ v : Setting, (v.fillTexts f).texts = v.texts.map f
  | text t => by simp [fillTexts, texts]
  | list vs => by simpa [fillTexts, texts] using textsList_fillTextsList f vs
  | object fields => by simpa [fillTexts, texts] using textsFields_fillTextsFields f fields
  | null | bool _ | int _ | real _ | moment _ => by simp [fillTexts, texts]

theorem textsList_fillTextsList (f : Text → Text) :
    ∀ vs : List Setting, textsList (fillTextsList f vs) = (textsList vs).map f
  | [] => by simp [fillTextsList, textsList]
  | v :: vs => by
    rw [fillTextsList, textsList, textsList, texts_fillTexts f v, textsList_fillTextsList f vs,
      List.map_append]

theorem textsFields_fillTextsFields (f : Text → Text) :
    ∀ fields : List (Key × Setting), textsFields (fillTextsFields f fields) =
      (textsFields fields).map f
  | [] => by simp [fillTextsFields, textsFields]
  | (k, v) :: fields => by
    rw [fillTextsFields, textsFields, textsFields, texts_fillTexts f v,
      textsFields_fillTextsFields f fields, List.map_append]

end

mutual

/-- Filling in twice is filling in once with both functions. -/
theorem fillTexts_fillTexts (f g : Text → Text) :
    ∀ v : Setting, (v.fillTexts f).fillTexts g = v.fillTexts (g ∘ f)
  | text t => by simp [fillTexts]
  | list vs => by simpa [fillTexts] using fillTextsList_fillTextsList f g vs
  | object fields => by simpa [fillTexts] using fillTextsFields_fillTextsFields f g fields
  | null | bool _ | int _ | real _ | moment _ => by simp [fillTexts]

theorem fillTextsList_fillTextsList (f g : Text → Text) :
    ∀ vs : List Setting, fillTextsList g (fillTextsList f vs) = fillTextsList (g ∘ f) vs
  | [] => by simp [fillTextsList]
  | v :: vs => by
    rw [fillTextsList, fillTextsList, fillTextsList, fillTexts_fillTexts f g v,
      fillTextsList_fillTextsList f g vs]

theorem fillTextsFields_fillTextsFields (f g : Text → Text) :
    ∀ fields : List (Key × Setting), fillTextsFields g (fillTextsFields f fields) =
      fillTextsFields (g ∘ f) fields
  | [] => by simp [fillTextsFields]
  | (k, v) :: fields => by
    rw [fillTextsFields, fillTextsFields, fillTextsFields, fillTexts_fillTexts f g v,
      fillTextsFields_fillTextsFields f g fields]

end

/-- What happens to the texts of a setting does not show in what is left without them. -/
theorem bare_fillTexts (f : Text → Text) (v : Setting) : (v.fillTexts f).bare = v.bare :=
  fillTexts_fillTexts f (fun _ => []) v

end Setting

open Placeholder

variable (env : Environment)

/-- The text with the values of its pieces put in. -/
def Placeholder.fill (t : Text) : Text := filled env (pieces t)

/-- The first name in a row of texts that is not set. -/
def Placeholder.firstUnsetIn (ts : List Text) : Option Text := firstUnset env (ts.flatMap pieces)

/-- Texts are searched for missing variables in order. -/
theorem Placeholder.firstUnsetIn_append (ts us : List Text) :
    firstUnsetIn env (ts ++ us) = (firstUnsetIn env ts).or (firstUnsetIn env us) := by
  rw [firstUnsetIn, List.flatMap_append, firstUnset_append, ← firstUnsetIn, ← firstUnsetIn]

mutual

/-- Substitution as a whole: the first name that is not set, or else all texts filled in. -/
theorem substitute_eq : ∀ v : Setting,
    substitute env v = outcome (firstUnsetIn env v.texts) (v.fillTexts (fill env))
  | .text t => by
    rw [substitute, Placeholder.expand, expandAll_eq, outcome_map, Setting.texts, Setting.fillTexts,
      firstUnsetIn, List.flatMap_singleton, fill]
  | .list vs => by
    rw [substitute, substituteList_eq vs, outcome_map, Setting.texts, Setting.fillTexts]
  | .object fields => by
    rw [substitute, substituteFields_eq fields, outcome_map, Setting.texts, Setting.fillTexts]
  | .null | .bool _ | .int _ | .real _ | .moment _ => by
    simp [substitute, Setting.texts, Setting.fillTexts, firstUnsetIn, firstUnset, outcome]

/-- The members of a list are treated in order, up to the first variable that is missing. -/
theorem substituteList_eq : ∀ vs : List Setting, substituteList env vs =
    outcome (firstUnsetIn env (Setting.textsList vs)) (Setting.fillTextsList (fill env) vs)
  | [] => by
    simp [substituteList, Setting.textsList, Setting.fillTextsList, firstUnsetIn, firstUnset,
      outcome]
  | v :: vs => by
    rw [substituteList, substitute_eq v, substituteList_eq vs, outcome_bind, Setting.textsList,
      Setting.fillTextsList, firstUnsetIn_append]

/-- The fields of an object are treated in order; their names are left alone. -/
theorem substituteFields_eq : ∀ fields : List (Setting.Key × Setting), substituteFields env fields =
    outcome (firstUnsetIn env (Setting.textsFields fields))
      (Setting.fillTextsFields (fill env) fields)
  | [] => by
    simp [substituteFields, Setting.textsFields, Setting.fillTextsFields, firstUnsetIn, firstUnset,
      outcome]
  | (k, v) :: fields => by
    rw [substituteFields, substitute_eq v, substituteFields_eq fields, Setting.textsFields,
      Setting.fillTextsFields, firstUnsetIn_append]
    exact outcome_bind _ _ _ _ fun v fields => (k, v) :: fields

end

/-- Substitution succeeds just if every placeholder of every text names a variable that is set. What
it yields differs in the texts only, and there the values stand for the placeholders, as they are.
If it fails, it is with the first name that is not set, and so does reading the configuration. -/
theorem substitute_reads (v : Setting) : ∃ readings, List.Forall₂ Reads v.texts readings ∧
    ((∃ w, substitute env v = .ok w) ↔
      ∀ name, .named name ∈ readings.flatten → (env.lookup name).isSome) ∧
    (∀ w, substitute env v = .ok w → w.bare = v.bare ∧ w.texts = readings.map (filled env)) ∧
    (∀ name, substitute env v = .error name ↔
      ∃ before after, readings.flatten = before ++ .named name :: after ∧
        env.lookup name = none ∧ ∀ n, .named n ∈ before → (env.lookup n).isSome) ∧
    ∀ name, substitute env v = .error name →
      Config.ofSetting env v = .error (.unsetVariable name) ∧
        (ConfigFault.unsetVariable name).message =
          "Environment variable not set: ".toList ++ name := by
  have hflatten : firstUnset env (v.texts.map pieces).flatten = firstUnsetIn env v.texts := rfl
  refine ⟨v.texts.map pieces, ?_, ?_, fun w hw => ?_, fun name => ?_, fun name h => ⟨?_, rfl⟩⟩
  · exact List.forall₂_map_right_iff.2 (List.forall₂_same.2 fun t _ => reads_pieces t)
  · rw [← firstUnset_eq_none_iff, hflatten, substitute_eq]
    constructor
    · rintro ⟨w, hw⟩
      exact (outcome_eq_ok_iff.1 hw).1
    · intro h
      exact ⟨_, outcome_eq_ok_iff.2 ⟨h, rfl⟩⟩
  · rw [substitute_eq, outcome_eq_ok_iff] at hw
    obtain ⟨-, rfl⟩ := hw
    refine ⟨Setting.bare_fillTexts _ v, ?_⟩
    rw [Setting.texts_fillTexts, List.map_map]
    rfl
  · rw [substitute_eq, outcome_eq_error_iff, ← hflatten, firstUnset_eq_some_iff]
  · rw [Config.ofSetting, h]
    rfl

end Flattener
