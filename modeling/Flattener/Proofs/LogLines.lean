import Flattener.Log.Format
import Flattener.Proofs.JsonReader
import Mathlib.Data.List.Nodup

/-!
# Log lines for machines

A record is written for machines as an object: level, time stamp, logger and message first, then
the fields of the record. A field of the record that has the name of one of the four takes its
place (`Value.putFields_eq`), so no name comes twice. The line breaks of a message are escaped, so
a log can be cut at its line feeds, and every piece but the empty last one is read as one record.
Only a record that holds an integer with too many digits, its level included, has no line.

* `Log.machineFields` are the fields of a record for machines, without the recursion over them.
* `Log.decode_jsonLine`: which records are one line, which is read as these fields.
* `Log.map_decode_lines`: a log is read as the records that were written.
-/

namespace Flattener

namespace Value

/-! ### Fields that override others -/

variable {fields more : List (Text × Value)} {key : Text} {v : Value}

/-- The names of fields. -/
def names (fields : List (Text × Value)) : List Text := fields.map Prod.fst

/-- A field with the value that later ones give it, if one of them does. -/
def overridden (more : List (Text × Value)) (f : Text × Value) : Text × Value :=
  (f.1, (more.lookup f.1).getD f.2)

/-- A new field stands last. -/
theorem putField_of_notMem (h : key ∉ names fields) :
    putField key v fields = fields ++ [(key, v)] := by
  induction fields with
  | nil => rfl
  | cons f fields ih =>
    obtain ⟨hf, hfields⟩ := List.ne_and_not_mem_of_not_mem_cons h
    rw [putField, if_neg (Ne.symm hf), ih hfields, List.cons_append]

@[simp]
theorem names_map_overridden : names (fields.map (overridden more)) = names fields := by
  rw [names, List.map_map]
  rfl

theorem overridden_of_notMem {f : Text × Value} (h : f.1 ∉ names more) : overridden more f = f := by
  have hnone : more.lookup f.1 = none :=
    List.lookup_eq_none_iff.2 fun g hg => bne_iff_ne.2 fun he => h (he ▸ List.mem_map_of_mem hg)
  rw [overridden, hnone]
  rfl

theorem overridden_cons_of_eq {f m : Text × Value} (h : f.1 = m.1) :
    overridden (m :: more) f = m := by
  rw [overridden, List.lookup_cons, h, beq_self_eq_true]
  rfl

theorem overridden_cons_of_ne {f m : Text × Value} (h : f.1 ≠ m.1) :
    overridden (m :: more) f = overridden more f := by
  rw [overridden, List.lookup_cons, beq_eq_false_iff_ne.2 h]
  rfl

theorem overridden_nil (f : Text × Value) : overridden [] f = f := rfl

theorem map_overridden_nil : fields.map (overridden []) = fields := List.map_id fields

/-- Fields that override others may do so one after the other. -/
theorem overridden_overridden {f m : Text × Value} (h : m.1 ∉ names more) :
    overridden more (overridden [m] f) = overridden (m :: more) f := by
  by_cases hf : f.1 = m.1
  · rw [overridden_cons_of_eq hf, overridden_cons_of_eq hf, overridden_of_notMem h]
  · rw [overridden_cons_of_ne hf, overridden_cons_of_ne hf, overridden_nil]

/-- A field that is there already keeps its place. -/
theorem putField_of_mem (hnodup : (names fields).Nodup) (h : key ∈ names fields) :
    putField key v fields = fields.map (overridden [(key, v)]) := by
  induction fields with
  | nil => cases h
  | cons f fields ih =>
    obtain ⟨hf, hfields⟩ := List.nodup_cons.1 hnodup
    by_cases hkey : f.1 = key
    · have hothers : fields.map (overridden [(key, v)]) = fields.map (overridden []) :=
        List.map_congr_left fun g hg => overridden_cons_of_ne fun he =>
          hf ((hkey.trans he.symm) ▸ List.mem_map_of_mem hg)
      rw [putField, if_pos hkey, List.map_cons, overridden_cons_of_eq hkey, hothers,
        map_overridden_nil, hkey]
    · rw [putField, if_neg hkey, List.map_cons, overridden_cons_of_ne hkey, overridden_nil,
        ih hfields ((List.mem_cons.1 h).resolve_left (Ne.symm hkey))]

/-- Fields that come later take the places of those of the same name; the others follow. -/
theorem putFields_eq (h : (names fields).Nodup) (hmore : (names more).Nodup) :
    putFields fields more =
      fields.map (overridden more) ++ more.filter fun f => !(names fields).contains f.1 := by
  induction more generalizing fields with
  | nil =>
    rw [List.filter_nil, List.append_nil, map_overridden_nil]
    rfl
  | cons m more ih =>
    obtain ⟨hm, hmore⟩ := List.nodup_cons.1 hmore
    change putFields (putField m.1 m.2 fields) more = _
    by_cases hmem : m.1 ∈ names fields
    · rw [putField_of_mem h hmem, ih (by rwa [names_map_overridden]) hmore, names_map_overridden,
        List.map_map, List.filter_cons_of_neg (by simpa using hmem)]
      congr 1
      exact List.map_congr_left fun f _ => overridden_overridden hm
    · have hnames : names (fields ++ [m]) = names fields ++ [m.1] := List.map_append
      have hnodup : (names (fields ++ [m])).Nodup := by
        rw [hnames, List.nodup_append_comm, List.singleton_append]
        exact List.nodup_cons.2 ⟨hmem, h⟩
      have hkept : fields.map (overridden more) = fields.map (overridden (m :: more)) :=
        List.map_congr_left fun f hf => (overridden_cons_of_ne fun he =>
          hmem (he ▸ List.mem_map_of_mem hf)).symm
      have hnew : more.filter (fun f => !(names (fields ++ [m])).contains f.1) =
          more.filter fun f => !(names fields).contains f.1 := by
        refine List.filter_congr fun f hf => ?_
        have hne : f.1 ≠ m.1 := fun he => hm (he ▸ List.mem_map_of_mem hf)
        simp [hnames, hne]
      rw [putField_of_notMem hmem, ih hnodup hmore, List.map_append, List.map_singleton,
        overridden_of_notMem hm, hkept, hnew, List.append_assoc, List.singleton_append,
        List.filter_cons_of_pos (by simpa using hmem)]

end Value

namespace Log

open Value

/-! ### Lines -/

/-- Printable ASCII has no line feed. -/
theorem feed_notMem {t : Text} (h : Text.IsPrintable t) : '\n' ∉ t :=
  fun hfeed => absurd (h _ hfeed).1 (by decide)

/-- The four fields that every record has for machines, its level having the given name. -/
def standardFields (clock : Clock) (name : Text) (r : Record) : List (Text × Value) :=
  [("level".toList, .text name), ("ts".toList, .text clock.stamp),
    ("logger".toList, .text r.logger), ("msg".toList, .text r.message)]

/-- All fields that a record has for machines: the four in their order, each with the value that a
field of its own gives it if there is one of that name, and then its own other fields. -/
def machineFields (clock : Clock) (name : Text) (r : Record) : List (Text × Value) :=
  (standardFields clock name r).map (overridden r.fields) ++
    r.fields.filter fun f => !(names (standardFields clock name r)).contains f.1

theorem nodup_names_standardFields (clock : Clock) (name : Text) (r : Record) :
    (names (standardFields clock name r)).Nodup := by
  change (["level", "ts", "logger", "msg"].map String.toList).Nodup
  decide

theorem jsonFields_eq (clock : Clock) (name : Text) {r : Record} (h : (names r.fields).Nodup) :
    jsonFields clock name r = machineFields clock name r :=
  putFields_eq (nodup_names_standardFields clock name r) h

theorem jsonLine_eq (clock : Clock) {name : Text} {r : Record} (h : (names r.fields).Nodup)
    (hname : Level.name r.level = some name) :
    jsonLine clock r = (Value.object (machineFields clock name r)).toJson := by
  rw [jsonLine, hname, ← jsonFields_eq clock name h]
  rfl

/-- What is written for a record is the JSON of its fields for machines. -/
theorem jsonLine_eq_some (clock : Clock) {r : Record} {t : Text} (h : (names r.fields).Nodup)
    (ht : jsonLine clock r = some t) : ∃ name, Level.name r.level = some name ∧
      (Value.object (machineFields clock name r)).Writable ∧
      t = written (.object (machineFields clock name r)) := by
  obtain ⟨name, hname, -⟩ := Option.bind_eq_some_iff.1 ht
  rw [jsonLine_eq clock h hname] at ht
  have hwritable := (isSome_toJson_iff (.object (machineFields clock name r))).1 (by rw [ht]; rfl)
  exact ⟨name, hname, hwritable, Option.some.inj (ht.symm.trans (toJson_of_writable hwritable))⟩

theorem isPrintable_of_jsonLine (clock : Clock) {r : Record} {t : Text}
    (h : (names r.fields).Nodup) (ht : jsonLine clock r = some t) : Text.IsPrintable t := by
  obtain ⟨name, -, hwritable, rfl⟩ := jsonLine_eq_some clock h ht
  exact isPrintable_written hwritable

/-! ### Logs -/

/-- The records that are written, with the moments at which they are. -/
def Settings.written (s : Settings) (rs : List (Clock × Record)) : List (Clock × Record) :=
  rs.filter fun x => 0 < x.2.level ∧ s.threshold ≤ x.2.level ∧ (jsonLine x.1 x.2).isSome

/-- The lines of a log for machines are its records one by one. -/
theorem lines_flatMap_output {s : Settings} (h : s.mode = .json) {rs : List (Clock × Record)}
    (hnames : ∀ x ∈ rs, (names x.2.fields).Nodup) :
    Text.lines (rs.flatMap fun x => s.output x.1 x.2) =
      (s.written rs).map (fun x => (jsonLine x.1 x.2).getD []) ++ [[]] := by
  induction rs with
  | nil => rfl
  | cons x rs ih =>
    obtain ⟨hx, hrs⟩ := List.forall_mem_cons.1 hnames
    rw [List.flatMap_cons]
    by_cases hlevel : 0 < x.2.level ∧ s.threshold ≤ x.2.level
    · cases hline : jsonLine x.1 x.2 with
      | some t =>
        have hout : s.output x.1 x.2 = t ++ ['\n'] := by
          rw [Settings.output, if_pos hlevel, Settings.line, h]
          simp only [hline]
        have hwritten : s.written (x :: rs) = x :: s.written rs :=
          List.filter_cons_of_pos (by simp [hlevel, hline])
        rw [hout, hwritten, List.append_assoc, List.singleton_append, Text.lines,
          List.splitOn_append_cons_self_of_not_mem
            (feed_notMem (isPrintable_of_jsonLine x.1 hx hline)),
          List.map_cons, List.cons_append, hline, Option.getD_some]
        exact congrArg _ (ih hrs)
      | none =>
        have hout : s.output x.1 x.2 = [] := by
          rw [Settings.output, if_pos hlevel, Settings.line, h]
          simp only [hline]
        have hwritten : s.written (x :: rs) = s.written rs :=
          List.filter_cons_of_neg (by simp [hline])
        rw [hout, hwritten, List.nil_append, ih hrs]
    · have hout : s.output x.1 x.2 = [] := if_neg hlevel
      have hwritten : s.written (x :: rs) = s.written rs :=
        List.filter_cons_of_neg (by simpa using fun h0 hth => absurd ⟨h0, hth⟩ hlevel)
      rw [hout, hwritten, List.nil_append, ih hrs]

/-- A log for machines is read line by line as the records that were written. -/
theorem map_decode_lines {s : Settings} (h : s.mode = .json) {rs : List (Clock × Record)}
    (hnames : ∀ x ∈ rs, (names x.2.fields).Nodup) :
    (Text.lines (rs.flatMap fun x => s.output x.1 x.2)).map Json.decode =
      (s.written rs).map (fun x => (Level.name x.2.level).map fun name =>
        .object (machineFields x.1 name x.2)) ++ [none] := by
  have hread : (s.written rs).map (Json.decode ∘ fun x => (jsonLine x.1 x.2).getD []) =
      (s.written rs).map fun x => (Level.name x.2.level).map fun name =>
        .object (machineFields x.1 name x.2) := by
    refine List.map_congr_left fun x hx => ?_
    obtain ⟨hmem, hwritten⟩ := List.mem_filter.1 hx
    obtain ⟨t, ht⟩ := Option.isSome_iff_exists.1 (of_decide_eq_true hwritten).2.2
    obtain ⟨name, hname, hwritable, rfl⟩ := jsonLine_eq_some x.1 (hnames x hmem) ht
    simp only [Function.comp_apply, ht, Option.getD_some, hname, Option.map_some]
    exact Json.decode_written hwritable
  rw [lines_flatMap_output h hnames, List.map_append, List.map_map, hread]
  rfl

end Log

end Flattener
