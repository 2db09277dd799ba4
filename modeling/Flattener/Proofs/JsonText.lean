import Flattener.Value
import Flattener.Proofs.Scan
import Mathlib.Tactic.SplitIfs

/-!
# Values as JSON

A value is written just if no integer in it is too long (`Value.Writable`). Lists and objects are
written as their members with commas between them, so what is said of all that is written goes from
the members of a value to the value (`Value.induction_members`). A number is written as its parts,
and an integer as one that has nothing but digits.

* `Value.isSome_toJson_iff`: which values are written.
* `Value.isPrintable_written`: what is written is printable ASCII.
-/

namespace Flattener

section

variable {α β : Type} {f : α → Option β} {as : List α}

/-- A list is mapped as a whole just if each of its members is. -/
theorem isSome_mapM_iff : (as.mapM f).isSome ↔ ∀ a ∈ as, (f a).isSome := by
  induction as with
  | nil => simp
  | cons a as ih =>
    rw [List.forall_mem_cons, ← ih, List.mapM_cons]
    cases f a <;> cases as.mapM f <;> simp

theorem mapM_eq_some_map {g : α → β} (h : ∀ a ∈ as, f a = some (g a)) :
    as.mapM f = some (as.map g) := by
  induction as with
  | nil => rfl
  | cons a as ih =>
    obtain ⟨ha, has⟩ := List.forall_mem_cons.1 h
    rw [List.mapM_cons, ha, ih has]
    rfl

end

namespace Value

/-! ### Members -/

/-- The values that a value is made of. -/
def members : Value → List Value
  | list vs => vs
  | object fields => fields.map Prod.snd
  | _ => []

/-- Members of a value are smaller than the value, so there is induction along them. -/
theorem sizeOf_lt_of_mem_members {v w : Value} (h : w ∈ v.members) : sizeOf w < sizeOf v := by
  cases v with
  | list vs =>
    have hmember : sizeOf w < sizeOf vs := List.sizeOf_lt_of_mem h
    simp only [list.sizeOf_spec]
    omega
  | object fields =>
    obtain ⟨⟨k, w⟩, hf, rfl⟩ := List.mem_map.1 h
    have hfield := List.sizeOf_lt_of_mem hf
    simp only [object.sizeOf_spec, Prod.mk.sizeOf_spec] at hfield ⊢
    omega
  | _ => cases h

/-- What holds of every value whose parts it holds of holds of all values. -/
theorem induction_members {P : Value → Prop} (step : ∀ v, (∀ w ∈ v.members, P w) → P v)
    (v : Value) : P v := by
  induction hn : sizeOf v using Nat.strongRecOn generalizing v with
  | ind n ih => exact step v fun w hw => ih _ (hn ▸ sizeOf_lt_of_mem_members hw) w rfl

/-! ### Values that are written -/

/-- Every integer in the value has few enough digits. -/
inductive Writable : Value → Prop
  | null : Writable null
  | bool (b : Bool) : Writable (bool b)
  | int {n : Int} (h : (Text.ofNat n.natAbs).length ≤ digitLimit) : Writable (int n)
  | real (d : Decimal) : Writable (real d)
  | text (t : Text) : Writable (text t)
  | list {vs : List Value} (h : ∀ v ∈ vs, Writable v) : Writable (list vs)
  | object {fields : List (Text × Value)} (h : ∀ f ∈ fields, Writable f.2) :
    Writable (object fields)

/-- Members of a value that can be written can be written. -/
theorem Writable.of_mem_members {v w : Value} (h : v.Writable) (hw : w ∈ v.members) :
    w.Writable := by
  cases h with
  | list h => exact h w hw
  | object h =>
    obtain ⟨f, hf, rfl⟩ := List.mem_map.1 hw
    exact h f hf
  | _ => cases hw

/-- A value as JSON; nothing stands for one that is not written. -/
def written (v : Value) : Text := (toJson v).getD []

/-- A field of an object as JSON. -/
def fieldJson (f : Text × Value) : Text := jsonString f.1 ++ ": ".toList ++ written f.2

/-- An integer can be written just if it has no more digits than the limit allows; its sign is not
counted. -/
theorem isSome_ofInt?_iff (n : Int) :
    (Text.ofInt? n).isSome ↔ (Text.ofNat n.natAbs).length ≤ digitLimit := by
  rw [Text.ofInt?]
  split_ifs with h <;> simp [h]

/-- The members of a list are written one by one, and all of them have to be. -/
theorem toJsonList_eq (vs : List Value) : toJsonList vs = vs.mapM toJson := by
  induction vs with
  | nil => rfl
  | cons v vs ih => rw [toJsonList, ih, List.mapM_cons]

/-- The fields of an object are written one by one, each with its name in front. -/
theorem toJsonFields_eq (fields : List (Text × Value)) : toJsonFields fields =
    fields.mapM fun f => (toJson f.2).map (jsonString f.1 ++ ": ".toList ++ ·) := by
  induction fields with
  | nil => rfl
  | cons f fields ih =>
    rw [toJsonFields, ih, List.mapM_cons]
    cases toJson f.2 <;> rfl

/-- A value is written just if every integer in it has few enough digits. -/
theorem isSome_toJson_iff (v : Value) : (toJson v).isSome ↔ v.Writable := by
  induction v using induction_members with
  | step v ih =>
    cases v with
    | null => exact ⟨fun _ => .null, fun _ => rfl⟩
    | bool b => exact ⟨fun _ => .bool b, fun _ => by cases b <;> rfl⟩
    | int n =>
      rw [toJson, isSome_ofInt?_iff]
      exact ⟨.int, fun | .int h => h⟩
    | real d => exact ⟨fun _ => .real d, fun _ => rfl⟩
    | text t => exact ⟨fun _ => .text t, fun _ => rfl⟩
    | list vs =>
      rw [toJson, Option.isSome_map, toJsonList_eq, isSome_mapM_iff]
      exact ⟨fun h => .list fun w hw => (ih w hw).1 (h w hw),
        fun h w hw => (ih w hw).2 (h.of_mem_members hw)⟩
    | object fields =>
      have hfield {f : Text × Value} (hf : f ∈ fields) : f.2 ∈ (Value.object fields).members :=
        List.mem_map_of_mem hf
      rw [toJson, Option.isSome_map, toJsonFields_eq, isSome_mapM_iff]
      simp only [Option.isSome_map]
      exact ⟨fun h => .object fun f hf => (ih f.2 (hfield hf)).1 (h f hf),
        fun h f hf => (ih f.2 (hfield hf)).2 (h.of_mem_members (hfield hf))⟩

/-- A value that can be written is written as `Value.written` says. -/
theorem toJson_of_writable {v : Value} (h : v.Writable) : toJson v = some (written v) := by
  obtain ⟨t, ht⟩ := Option.isSome_iff_exists.1 ((isSome_toJson_iff v).2 h)
  rw [written, ht, Option.getD_some]

theorem written_text (t : Text) : written (.text t) = jsonString t := rfl

/-- A list is written in brackets, its members with commas between them. -/
theorem written_list {vs : List Value} (h : (Value.list vs).Writable) :
    written (.list vs) = '[' :: (", ".toList.intercalate (vs.map written) ++ [']']) := by
  have hmembers : ∀ v ∈ vs, toJson v = some (written v) := fun v hv =>
    toJson_of_writable (h.of_mem_members hv)
  rw [written, toJson, toJsonList_eq, mapM_eq_some_map hmembers]
  rfl

/-- An object is written in braces, its fields with commas between them. -/
theorem written_object {fields : List (Text × Value)} (h : (Value.object fields).Writable) :
    written (.object fields) =
      '\x7b' :: (", ".toList.intercalate (fields.map fieldJson) ++ ['\x7d']) := by
  have hmembers : ∀ f ∈ fields,
      (toJson f.2).map (jsonString f.1 ++ ": ".toList ++ ·) = some (fieldJson f) := fun f hf => by
    rw [toJson_of_writable (h.of_mem_members (List.mem_map_of_mem hf))]
    rfl
  rw [written, toJson, toJsonFields_eq, mapM_eq_some_map hmembers]
  rfl

/-- A value is written longer than those that it is made of. -/
theorem length_written_lt_of_mem_members {v w : Value} (hv : v.Writable) (h : w ∈ v.members) :
    (written w).length < (written v).length := by
  cases v with
  | list vs =>
    have hle : (written w).length ≤ (", ".toList.intercalate (vs.map written)).length :=
      (Text.infix_intercalate (List.mem_map_of_mem h)).length_le
    rw [written_list hv, List.length_cons, List.length_append]
    omega
  | object fields =>
    obtain ⟨f, hf, rfl⟩ := List.mem_map.1 h
    have hle : (fieldJson f).length ≤ (", ".toList.intercalate (fields.map fieldJson)).length :=
      (Text.infix_intercalate (List.mem_map_of_mem hf)).length_le
    have hfield : (written f.2).length ≤ (fieldJson f).length := by
      rw [fieldJson, List.length_append]
      omega
    rw [written_object hv, List.length_cons, List.length_append]
    omega
  | _ => cases h

/-! ### Numbers -/

/-- The text of the number with the given parts. -/
def numberText (negative : Bool) (whole : Nat) (fraction : List (Fin 10))
    (exponent : Option Int) : Text :=
  (if negative then ['-'] else []) ++
    (Text.ofNat whole ++ (Decimal.fractionText fraction ++ Decimal.exponentText exponent))

/-- An integer is written as a number without fraction and exponent. -/
theorem written_int {n : Int} (h : (Value.int n).Writable) :
    written (.int n) = numberText (decide (n < 0)) n.natAbs [] none := by
  have hshort : Text.ofInt? n = some (Text.ofInt n) := if_pos (by cases h; assumption)
  rw [written, toJson, hshort, Option.getD_some, numberText, Decimal.fractionText,
    Decimal.exponentText, List.append_nil, List.append_nil]
  cases n with
  | ofNat n => rfl
  | negSucc n =>
    rw [decide_eq_true (Int.negSucc_lt_zero n)]
    rfl

end Value

/-! ### Printable text -/

namespace Text

/-- All characters are printable ASCII. -/
def IsPrintable (t : Text) : Prop := ∀ c ∈ t, 0x20 ≤ c.toNat ∧ c.toNat ≤ 0x7E

instance (t : Text) : Decidable (IsPrintable t) :=
  List.decidableBAll (fun c : Char => 0x20 ≤ c.toNat ∧ c.toNat ≤ 0x7E) t

/-- Two texts are printable together just if each is. -/
@[simp]
theorem isPrintable_append {a b : Text} :
    IsPrintable (a ++ b) ↔ IsPrintable a ∧ IsPrintable b := List.forall_mem_append

@[simp]
theorem isPrintable_cons {c : Char} {t : Text} :
    IsPrintable (c :: t) ↔ (0x20 ≤ c.toNat ∧ c.toNat ≤ 0x7E) ∧ IsPrintable t := List.forall_mem_cons

@[simp]
theorem isPrintable_nil : IsPrintable [] := nofun

/-- Printable texts glued together with a printable one are printable. -/
theorem isPrintable_intercalate {glue : Text} {ws : List Text} (hglue : IsPrintable glue)
    (h : ∀ w ∈ ws, IsPrintable w) : IsPrintable (glue.intercalate ws) := by
  intro c hc
  rcases mem_intercalate hc with hc | ⟨w, hw, hc⟩
  · exact hglue c hc
  · exact h w hw c hc

theorem isPrintable_digitChar (d : Nat) : IsPrintable [d.digitChar] := by
  rcases Nat.lt_or_ge d 16 with h | h
  · revert d
    decide
  · rw [Nat.digitChar_eq_star.2 h]
    decide

/-- Digits are printable, by induction on the number without its last digit. -/
theorem isPrintable_toDigits {base : Nat} (hbase : 1 < base) (n : Nat) :
    IsPrintable (Nat.toDigits base n) := by
  induction n using Nat.strongRecOn with
  | ind n ih =>
    rcases Nat.lt_or_ge n base with h | h
    · rw [Nat.toDigits_of_lt_base h]
      exact isPrintable_digitChar n
    · rw [Nat.toDigits_of_base_le hbase h, isPrintable_append]
      exact ⟨ih _ (Nat.div_lt_self (by omega) hbase), isPrintable_digitChar _⟩

theorem isPrintable_replicate_zero (n : Nat) : IsPrintable (List.replicate n '0') := by
  intro c hc
  rw [List.eq_of_mem_replicate hc]
  decide

theorem isPrintable_ofNat (n : Nat) : IsPrintable (ofNat n) := isPrintable_toDigits (by decide) n

end Text

namespace Value

open Text

/-- An escaped code unit is printable. -/
theorem isPrintable_jsonUnit (n : Nat) : IsPrintable (jsonUnit n) := by
  have hhex : IsPrintable (hex 4 n) :=
    isPrintable_append.2 ⟨isPrintable_replicate_zero _, isPrintable_toDigits (by decide) n⟩
  rw [jsonUnit, isPrintable_cons, isPrintable_cons]
  exact ⟨by decide, by decide, hhex⟩

/-- Every character is written in printable ones: as itself, by a short escape, or by its code
units. -/
theorem isPrintable_jsonChar (c : Char) : IsPrintable (jsonChar c) := by
  unfold jsonChar
  split_ifs with hescape _ _ _ _ _ hprintable
  · simp only [Bool.or_eq_true, decide_eq_true_eq] at hescape
    obtain rfl | rfl := hescape <;> decide
  iterate 5 decide
  · simpa using hprintable
  · exact isPrintable_jsonUnit _
  · exact isPrintable_append.2 ⟨isPrintable_jsonUnit _, isPrintable_jsonUnit _⟩

/-- A text is written in printable characters, whatever it holds. -/
theorem isPrintable_jsonString (t : Text) : IsPrintable (jsonString t) := by
  have hinside : IsPrintable (t.flatMap jsonChar) := by
    intro c hc
    obtain ⟨d, -, hc⟩ := List.mem_flatMap.1 hc
    exact isPrintable_jsonChar d c hc
  simp [jsonString, hinside]

/-- A number is written in printable characters. -/
theorem isPrintable_numberText (negative : Bool) (whole : Nat) (fraction : List (Fin 10))
    (exponent : Option Int) : IsPrintable (numberText negative whole fraction exponent) := by
  have hfraction : IsPrintable (Decimal.fractionText fraction) := by
    cases fraction with
    | nil => exact isPrintable_nil
    | cons d ds =>
      refine isPrintable_cons.2 ⟨by decide, fun c hc => ?_⟩
      obtain ⟨x, -, rfl⟩ := List.mem_map.1 hc
      exact isPrintable_digitChar x _ List.mem_cons_self
  have hexponent : IsPrintable (Decimal.exponentText exponent) := by
    cases exponent with
    | none => exact isPrintable_nil
    | some e =>
      have hdigits : IsPrintable (Decimal.exponentDigits e.natAbs) :=
        isPrintable_append.2 ⟨isPrintable_replicate_zero _, isPrintable_ofNat _⟩
      refine isPrintable_cons.2 ⟨by decide, isPrintable_cons.2 ⟨?_, hdigits⟩⟩
      split_ifs <;> decide
  have hsign : IsPrintable (if negative then ['-'] else []) := by
    cases negative <;> decide
  simp [numberText, hfraction, hexponent, hsign, isPrintable_ofNat]

/-- What is written is printable ASCII. -/
theorem isPrintable_written {v : Value} (h : v.Writable) : IsPrintable (written v) := by
  induction h with
  | null => decide
  | bool b => cases b <;> decide
  | int h =>
    rw [written_int (.int h)]
    exact isPrintable_numberText _ _ _ _
  | real d => exact isPrintable_numberText _ _ _ _
  | text t => exact isPrintable_jsonString t
  | @list vs h ih =>
    have hinside : IsPrintable (", ".toList.intercalate (vs.map written)) := by
      refine isPrintable_intercalate (by decide) fun w hw => ?_
      obtain ⟨x, hx, rfl⟩ := List.mem_map.1 hw
      exact ih x hx
    rw [written_list (.list h), isPrintable_cons, isPrintable_append]
    exact ⟨by decide, hinside, by decide⟩
  | @object fields h ih =>
    have hinside : IsPrintable (", ".toList.intercalate (fields.map fieldJson)) := by
      refine isPrintable_intercalate (by decide) fun w hw => ?_
      obtain ⟨f, hf, rfl⟩ := List.mem_map.1 hw
      simp [fieldJson, isPrintable_jsonString, ih f hf]
    rw [written_object (.object h), isPrintable_cons, isPrintable_append]
    exact ⟨by decide, hinside, by decide⟩

end Value

end Flattener
