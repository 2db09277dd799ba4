import Flattener.Config.Yaml.Scalar
import Flattener.Proofs.JsonText
import Mathlib.Data.List.Basic

/-!
# Reading JSON

A reader of JSON that knows nothing about how values are written, and takes blanks, escapes and
numbers in every form that JSON has. From what is written it gets the same values back: members
and fields in their order, and characters beyond sixteen bits from the two units that they are
written as.

* `Json.decode` reads a text as one value. The fields of an object stay as they stand in the text.
* `Json.inverts_written`: what is written is read back, whatever ends it.
* `Json.decode_written`: what is written is read as the value that it was.
-/

namespace Flattener

namespace Json

/-- A reader takes what it reads from the start of a text and leaves the rest. -/
abbrev Reader (α : Type) := Text → Option (α × Text)

/-! ### Strings -/

/-- The characters that stand for another one after a backslash. -/
def escapes : List (Char × Char) :=
  [('"', '"'), ('\\', '\\'), ('/', '/'), ('b', '\x08'), ('f', '\x0c'), ('n', '\n'), ('r', '\r'),
    ('t', '\t')]

/-- The units of a string up to the quote that closes it: the code point of a character that
stands for itself, and the sixteen bits of an escape. Control characters must be escaped. -/
def readUnits : Reader (List Nat)
  | [] => none
  | '"' :: t => some ([], t)
  | '\\' :: 'u' :: a :: b :: c :: d :: t => do
    let n ← Yaml.Quoted.hexValue? [a, b, c, d]
    (readUnits t).map fun r => (n :: r.1, r.2)
  | '\\' :: e :: t => do
    let c ← escapes.lookup e
    (readUnits t).map fun r => (c.toNat :: r.1, r.2)
  | c :: t => if c.toNat < 0x20 then none else (readUnits t).map fun r => (c.toNat :: r.1, r.2)

/-- The text with the given units. Two units of a pair are one character; half a pair is none. -/
def ofUnits : List Nat → Option Text
  | [] => some []
  | n :: ns =>
    if n.isValidChar then (ofUnits ns).map (Char.ofNat n :: ·)
    else
      match ns with
      | [] => none
      | m :: ns =>
        if n < 0xDC00 ∧ 0xDC00 ≤ m ∧ m < 0xE000 then
          (ofUnits ns).map (Char.ofNat (0x10000 + (n - 0xD800) * 0x400 + (m - 0xDC00)) :: ·)
        else none

/-- A text between quotes. -/
def readString : Reader Text
  | '"' :: t => do
    let (ns, t) ← readUnits t
    (ofUnits ns).map fun u => (u, t)
  | _ => none

/-! ### Numbers -/

/-- Whether a minus sign stands first. -/
def readSign : Text → Bool × Text
  | '-' :: t => (true, t)
  | t => (false, t)

/-- One digit or more. -/
def readDigits : Reader Text := fun t =>
  let digits := t.takeWhile Char.isDigit
  if digits.isEmpty then none else some (digits, t.dropWhile Char.isDigit)

/-- What stands before the point. No zero stands before another digit. -/
def readWhole : Reader Nat := fun t => do
  let (digits, t) ← readDigits t
  if digits.head? = some '0' ∧ digits ≠ ['0'] then none else some (Nat.ofDigitChars 10 digits 0, t)

/-- What stands after the point, if there is one. -/
def readFraction : Reader (List (Fin 10))
  | '.' :: t => (readDigits t).map fun r => (r.1.map fun c => Fin.ofNat 10 (c.toNat - 48), r.2)
  | t => some ([], t)

/-- An exponent, if there is one. -/
def readExponent : Reader (Option Int)
  | [] => some (none, [])
  | c :: t =>
    if c = 'e' ∨ c = 'E' then do
      let (negative, t) := if t.head? = some '+' then (false, t.tail) else readSign t
      let (digits, t) ← readDigits t
      let n := Nat.ofDigitChars 10 digits 0
      some (some (if negative then -n else n), t)
    else some (none, c :: t)

/-- The number with the given parts: an integer if it is written as one. -/
def number (negative : Bool) (whole : Nat) (fraction : List (Fin 10)) (exponent : Option Int) :
    Value :=
  if h : fraction ≠ [] ∨ exponent.isSome then .real ⟨negative, whole, fraction, exponent, h⟩
  else .int (if negative then -whole else whole)

/-- A number. -/
def readNumber : Reader Value := fun t => do
  let (negative, t) := readSign t
  let (whole, t) ← readWhole t
  let (fraction, t) ← readFraction t
  let (exponent, t) ← readExponent t
  some (number negative whole fraction exponent, t)

/-! ### Values -/

/-- The blanks of JSON. -/
def isSpace (c : Char) : Bool := [' ', '\t', '\n', '\r'].contains c

/-- The text after the blanks before it. -/
def skip (t : Text) : Text := t.dropWhile isSpace

/-- One item or more with commas between them, `n` at most, and the character that closes them. -/
def readItems {α : Type} (read : Reader α) (close : Char) : Nat → Reader (List α)
  | 0, _ => none
  | n + 1, t => do
    let (a, t) ← read (skip t)
    match skip t with
    | [] => none
    | c :: t =>
      if c = close then some ([a], t)
      else if c = ',' then (readItems read close n t).map fun r => (a :: r.1, r.2)
      else none

/-- Any number of items and the character that closes them. -/
def readAll {α : Type} (read : Reader α) (close : Char) : Reader (List α) := fun t =>
  match skip t with
  | [] => none
  | c :: u => if c = close then some ([], u) else readItems read close t.length t

/-- A name, a colon, and what `read` reads. -/
def readField (read : Reader Value) : Reader (Text × Value) := fun t => do
  let (key, t) ← readString t
  match skip t with
  | ':' :: t => (read (skip t)).map fun r => ((key, r.1), r.2)
  | _ => none

/-- A value that nests less than `n` deep. -/
def readValue : Nat → Reader Value
  | 0, _ => none
  | n + 1, t =>
    match t with
    | '"' :: _ => (readString t).map fun r => (.text r.1, r.2)
    | '[' :: t => (readAll (readValue n) ']' t).map fun r => (.list r.1, r.2)
    | '\x7b' :: t =>
      (readAll (readField (readValue n)) '\x7d' t).map fun r => (.object r.1, r.2)
    | 'n' :: 'u' :: 'l' :: 'l' :: t => some (.null, t)
    | 't' :: 'r' :: 'u' :: 'e' :: t => some (.bool true, t)
    | 'f' :: 'a' :: 'l' :: 's' :: 'e' :: t => some (.bool false, t)
    | t => readNumber t

/-- The value that a text is. Nothing nests deeper than the text is long. -/
def decode (t : Text) : Option Value :=
  match readValue t.length (skip t) with
  | some (v, rest) => if (skip rest).isEmpty then some v else none
  | none => none

end Json

/-! ### Digits of base sixteen -/

namespace Yaml.Quoted

theorem hexValue?_concat {t : Text} {n d : Nat} (ht : hexValue? t = some n) {c : Char}
    (hc : hexDigit? c = some d) : hexValue? (t ++ [c]) = some (16 * n + d) := by
  rw [hexValue?, List.foldlM_append, ← hexValue?, ht]
  simp [hc]

theorem hexDigit?_digitChar {d : Nat} (h : d < 16) : hexDigit? d.digitChar = some d := by
  revert d
  decide

theorem hexValue?_toDigits (n : Nat) : hexValue? (Nat.toDigits 16 n) = some n := by
  induction n using Nat.strongRecOn with
  | ind n ih =>
    rcases Nat.lt_or_ge n 16 with h | h
    · rw [Nat.toDigits_of_lt_base h]
      simp [hexValue?, hexDigit?_digitChar h]
    · have hdigit : hexDigit? (n % 16).digitChar = some (n % 16) :=
        hexDigit?_digitChar (Nat.mod_lt n (by decide))
      rw [Nat.toDigits_of_base_le (by decide) h, hexValue?_concat (ih (n / 16) (by omega)) hdigit]
      congr 1
      omega

/-- Leading zeros do not matter. -/
theorem hexValue?_hex (width n : Nat) : hexValue? (Text.hex width n) = some n := by
  have hzeros (k : Nat) : (List.replicate k '0').foldlM
      (fun n c => (hexDigit? c).map fun d => 16 * n + d) 0 = some 0 := by
    induction k with
    | zero => rfl
    | succ k ih => rwa [List.replicate_succ, List.foldlM_cons]
  rw [Text.hex, hexValue?, List.foldlM_append, hzeros, Option.bind_eq_bind, Option.bind_some]
  exact hexValue?_toDigits n

end Yaml.Quoted

namespace Text

theorem length_hex {width n : Nat} (hwidth : 0 < width) (h : n < Nat.pow 16 width) :
    (hex width n).length = width := by
  have hlen := (Nat.length_toDigits_le_iff (by decide) hwidth).2 h
  rw [hex, List.length_append, List.length_replicate]
  omega

end Text

namespace Json

open Yaml.Quoted Value

/-! ### Strings that are written -/

/-- The units of sixteen bits that a character has. -/
def units (c : Char) : List Nat :=
  if c.toNat < 0x10000 then [c.toNat] else [(surrogates c.toNat).1, (surrogates c.toNat).2]

theorem readUnits_jsonUnit {n : Nat} (h : n < 0x10000) (rest : Text) :
    readUnits (jsonUnit n ++ rest) = (readUnits rest).map fun r => (n :: r.1, r.2) := by
  have hvalue := hexValue?_hex 4 n
  have hlen : (Text.hex 4 n).length = 4 := Text.length_hex (by decide) h
  rw [jsonUnit]
  obtain ⟨a, b, c, d, hhex⟩ := List.length_eq_four.1 hlen
  rw [hhex] at hvalue ⊢
  simp [readUnits, hvalue]

/-- A character that stands for itself. -/
theorem readUnits_cons {c : Char} (hquote : c ≠ '"') (hback : c ≠ '\\') (h : 0x20 ≤ c.toNat)
    (rest : Text) :
    readUnits (c :: rest) = (readUnits rest).map fun r => (c.toNat :: r.1, r.2) := by
  rw [readUnits, if_neg (Nat.not_lt.2 h)]
  -- the character is none of those that the other cases of the reader start with
  all_goals simp_all

/-- A character beyond sixteen bits has the two units of a pair. -/
theorem units_of_le {c : Char} (h : 0x10000 ≤ c.toNat) : ∃ n m, units c = [n, m] ∧
    0xD800 ≤ n ∧ n < 0xDC00 ∧ 0xDC00 ≤ m ∧ m < 0xE000 ∧
      0x10000 + (n - 0xD800) * 0x400 + (m - 0xDC00) = c.toNat := by
  have hvalid : c.toNat < 0xD800 ∨ 0xDFFF < c.toNat ∧ c.toNat < 0x110000 := c.valid
  refine ⟨_, _, if_neg (Nat.not_lt.2 h), ?_⟩
  simp only [surrogates]
  omega

theorem readUnits_jsonChar (c : Char) (rest : Text) :
    readUnits (jsonChar c ++ rest) = (readUnits rest).map fun r => (units c ++ r.1, r.2) := by
  unfold jsonChar
  split_ifs with hescape hfeed hreturn htab hback hform hprintable hsmall
  · simp only [Bool.or_eq_true, decide_eq_true_eq] at hescape
    obtain rfl | rfl := hescape <;> rfl
  · subst hfeed; rfl
  · subst hreturn; rfl
  · subst htab; rfl
  · subst hback; rfl
  · subst hform; rfl
  · simp only [Bool.or_eq_true, Bool.and_eq_true, decide_eq_true_eq, not_or] at hescape hprintable
    rw [units, if_pos (by omega)]
    exact readUnits_cons hescape.1 hescape.2 hprintable.1 rest
  · rw [units, if_pos hsmall, readUnits_jsonUnit hsmall]
    rfl
  · obtain ⟨n, m, hunits, -, hn, -, hm, -⟩ := units_of_le (Nat.not_lt.1 hsmall)
    have hpair : surrogates c.toNat = (n, m) := by
      rw [units, if_neg hsmall] at hunits
      simpa [Prod.ext_iff] using hunits
    rw [hpair, hunits, List.append_assoc, readUnits_jsonUnit (by omega),
      readUnits_jsonUnit (by omega), Option.map_map]
    rfl

/-- A string is read up to its closing quote. -/
theorem readUnits_flatMap (t rest : Text) :
    readUnits (t.flatMap jsonChar ++ '"' :: rest) = some (t.flatMap units, rest) := by
  induction t with
  | nil => rfl
  | cons c t ih =>
    rw [List.flatMap_cons, List.append_assoc, readUnits_jsonChar, ih]
    rfl

theorem ofUnits_units (c : Char) (ns : List Nat) :
    ofUnits (units c ++ ns) = (ofUnits ns).map (c :: ·) := by
  rcases Nat.lt_or_ge c.toNat 0x10000 with h | h
  · have hvalid : c.toNat.isValidChar := c.valid
    rw [units, if_pos h, List.singleton_append, ofUnits.eq_def]
    simp only [hvalid, if_true, Char.ofNat_toNat]
  · obtain ⟨n, m, hunits, hn, hn', hm, hm', hcode⟩ := units_of_le h
    have hinvalid : ¬ n.isValidChar := by
      simp only [Nat.isValidChar]
      omega
    rw [hunits, List.cons_append, List.singleton_append, ofUnits.eq_def]
    have hpair : n < 0xDC00 ∧ 0xDC00 ≤ m ∧ m < 0xE000 := ⟨hn', hm, hm'⟩
    simp only [hinvalid, if_false, if_pos hpair, hcode, Char.ofNat_toNat]

theorem ofUnits_flatMap (t : Text) : ofUnits (t.flatMap units) = some t := by
  induction t with
  | nil => rfl
  | cons c t ih =>
    rw [List.flatMap_cons, ofUnits_units, ih]
    rfl

theorem readString_jsonString (t rest : Text) :
    readString (jsonString t ++ rest) = some (t, rest) := by
  rw [jsonString, List.cons_append, List.append_assoc, readString, List.singleton_append,
    readUnits_flatMap, Option.bind_eq_bind, Option.bind_some]
  simp only [ofUnits_flatMap, Option.map_some]

/-! ### Numbers that are written -/

/-- Nothing follows a value but a comma or what closes the values around it. -/
def Ends (rest : Text) : Prop := ∀ c ∈ rest.head?, c = ',' ∨ c = ']' ∨ c = '\x7d'

/-- What ends a value is not read as a part of a number. -/
theorem Ends.isDigit_eq_false {rest : Text} (h : Ends rest) :
    ∀ c ∈ rest.head?, c.isDigit = false := by
  intro c hc
  rcases h c hc with rfl | rfl | rfl <;> decide

theorem readDigits_append {digits rest : Text} (hne : digits ≠ [])
    (hdigits : ∀ c ∈ digits, c.isDigit) (hrest : ∀ c ∈ rest.head?, c.isDigit = false) :
    readDigits (digits ++ rest) = some (digits, rest) := by
  rw [readDigits, Text.takeWhile_append hdigits hrest, Text.dropWhile_append hdigits hrest,
    if_neg (by simpa using hne)]

theorem isDigit_of_mem_ofNat {n : Nat} {c : Char} (h : c ∈ Text.ofNat n) : c.isDigit :=
  Nat.isDigit_of_mem_toDigits (by decide) (by decide) h

theorem ofNat_ne_nil (n : Nat) : Text.ofNat n ≠ [] := Nat.toDigits_ne_nil

/-- No number but zero starts with a zero. -/
theorem head?_ofNat_ne {n : Nat} (h : n ≠ 0) : (Text.ofNat n).head? ≠ some '0' := by
  induction n using Nat.strongRecOn with
  | ind n ih =>
    rcases Nat.lt_or_ge n 10 with hlt | hle
    · rw [Text.ofNat, Nat.toDigits_of_lt_base hlt]
      simpa using h
    · have hhead := ih (n / 10) (by omega) (by omega)
      obtain ⟨c, t, ht⟩ := List.exists_cons_of_ne_nil (ofNat_ne_nil (n / 10))
      rw [Text.ofNat, Nat.toDigits_of_base_le (by decide) hle, ← Text.ofNat, ht]
      rwa [ht] at hhead

theorem readWhole_ofNat (n : Nat) {rest : Text} (hrest : ∀ c ∈ rest.head?, c.isDigit = false) :
    readWhole (Text.ofNat n ++ rest) = some (n, rest) := by
  have hzero : ¬ ((Text.ofNat n).head? = some '0' ∧ Text.ofNat n ≠ ['0']) := by
    rintro ⟨hhead, hne⟩
    rcases Nat.eq_zero_or_pos n with rfl | hpos
    · exact hne rfl
    · exact head?_ofNat_ne (Nat.ne_of_gt hpos) hhead
  rw [readWhole, readDigits_append (ofNat_ne_nil n) (fun _ => isDigit_of_mem_ofNat) hrest,
    Option.bind_eq_bind, Option.bind_some]
  simp only [hzero, if_false]
  rw [Text.ofNat, Nat.ofDigitChars_ten_toDigits]

theorem readFraction_append (fraction : List (Fin 10)) {rest : Text}
    (hrest : ∀ c ∈ rest.head?, c.isDigit = false ∧ c ≠ '.') :
    readFraction (Decimal.fractionText fraction ++ rest) = some (fraction, rest) := by
  cases fraction with
  | nil =>
    cases rest with
    | nil => rfl
    | cons c rest =>
      have hpoint : c ≠ '.' := (hrest c rfl).2
      rw [Decimal.fractionText, List.nil_append, readFraction]
      simpa using hpoint
  | cons d ds =>
    have hdigits : ∀ c ∈ (d :: ds).map (fun d : Fin 10 => Nat.digitChar d.val), c.isDigit := by
      intro c hc
      obtain ⟨x, -, rfl⟩ := List.mem_map.1 hc
      rw [Nat.isDigit_digitChar]
      exact decide_eq_true x.isLt
    have hback : (fun c : Char => Fin.ofNat 10 (c.toNat - 48)) ∘
        (fun d : Fin 10 => Nat.digitChar d.val) = id := by
      funext x
      apply Fin.ext
      simp [Nat.toNat_digitChar_sub_48_of_lt_ten x.isLt]
    have hread := readDigits_append (by simp) hdigits fun c hc => (hrest c hc).1
    rw [Decimal.fractionText, List.cons_append, readFraction, hread, Option.map_some,
      List.map_map, hback, List.map_id]
    exact List.cons_ne_nil d ds

theorem isDigit_of_mem_exponentDigits {n : Nat} {c : Char} (h : c ∈ Decimal.exponentDigits n) :
    c.isDigit := by
  rcases List.mem_append.1 h with h | h
  · rw [List.eq_of_mem_replicate h]
    decide
  · exact isDigit_of_mem_ofNat h

theorem ofDigitChars_exponentDigits (n : Nat) :
    Nat.ofDigitChars 10 (Decimal.exponentDigits n) 0 = n := by
  rw [Decimal.exponentDigits, Nat.ofDigitChars_append, Nat.ofDigitChars_replicate_zero,
    Nat.mul_zero, Text.ofNat, Nat.ofDigitChars_ten_toDigits]

theorem readExponent_append (exponent : Option Int) {rest : Text} (hrest : Ends rest) :
    readExponent (Decimal.exponentText exponent ++ rest) = some (exponent, rest) := by
  cases exponent with
  | none =>
    cases rest with
    | nil => rfl
    | cons c rest =>
      have hother : ¬ (c = 'e' ∨ c = 'E') := by
        rcases hrest c rfl with rfl | rfl | rfl <;> decide
      rw [Decimal.exponentText, List.nil_append, readExponent, if_neg hother]
  | some e =>
    have hread : readDigits (Decimal.exponentDigits e.natAbs ++ rest) =
        some (Decimal.exponentDigits e.natAbs, rest) :=
      readDigits_append (by simp [Decimal.exponentDigits, ofNat_ne_nil])
        (fun _ => isDigit_of_mem_exponentDigits) hrest.isDigit_eq_false
    rw [Decimal.exponentText, List.cons_append, List.cons_append, readExponent]
    rcases Int.lt_or_le e 0 with hneg | hpos
    · simp only [hneg, if_true, true_or, List.head?_cons, Option.some.injEq, Char.reduceEq,
        if_false, readSign, hread, ofDigitChars_exponentDigits, Option.bind_eq_bind,
        Option.bind_some]
      congr 3
      omega
    · simp only [Int.not_lt.2 hpos, if_false, if_true, true_or, List.head?_cons, List.tail_cons,
        hread, ofDigitChars_exponentDigits, Option.bind_eq_bind, Option.bind_some,
        Bool.false_eq_true]
      congr 3
      omega

theorem head?_exponentText (exponent : Option Int) {rest : Text} (hrest : Ends rest) :
    ∀ c ∈ (Decimal.exponentText exponent ++ rest).head?, c.isDigit = false ∧ c ≠ '.' := by
  intro c hc
  cases exponent with
  | none => rcases hrest c hc with rfl | rfl | rfl <;> decide
  | some e =>
    obtain rfl : 'e' = c := by simpa [Decimal.exponentText] using hc
    decide

theorem head?_fractionText (fraction : List (Fin 10)) {rest : Text}
    (hrest : ∀ c ∈ rest.head?, c.isDigit = false ∧ c ≠ '.') :
    ∀ c ∈ (Decimal.fractionText fraction ++ rest).head?, c.isDigit = false := by
  intro c hc
  cases fraction with
  | nil => exact (hrest c hc).1
  | cons d ds =>
    obtain rfl : '.' = c := by simpa [Decimal.fractionText] using hc
    decide

theorem readSign_append (negative : Bool) (n : Nat) (rest : Text) :
    readSign ((if negative then ['-'] else []) ++ (Text.ofNat n ++ rest)) =
      (negative, Text.ofNat n ++ rest) := by
  cases negative with
  | true => rfl
  | false =>
    obtain ⟨c, t, ht⟩ := List.exists_cons_of_ne_nil (ofNat_ne_nil n)
    have hdigit : c.isDigit := isDigit_of_mem_ofNat (ht ▸ List.mem_cons_self)
    have hminus : c ≠ '-' := by
      rintro rfl
      cases hdigit
    simp [readSign, ht, hminus]

/-- A number is read part by part: what follows a part is not read as more of it. -/
theorem readNumber_append (negative : Bool) (whole : Nat) (fraction : List (Fin 10))
    (exponent : Option Int) {rest : Text} (hrest : Ends rest) :
    readNumber (numberText negative whole fraction exponent ++ rest) =
      some (number negative whole fraction exponent, rest) := by
  have hexponent := head?_exponentText exponent hrest
  have hfraction := head?_fractionText fraction hexponent
  rw [readNumber, numberText, List.append_assoc, List.append_assoc, List.append_assoc,
    readSign_append]
  simp only [readWhole_ofNat whole hfraction, readFraction_append fraction hexponent,
    readExponent_append exponent hrest, Option.bind_eq_bind, Option.bind_some]

/-! ### Values that are written -/

/-- What stands first in a text is neither a blank nor a closing mark. -/
def Solid (t : Text) : Prop := ∃ c u, t = c :: u ∧ isSpace c = false ∧ c ≠ ']' ∧ c ≠ '\x7d'

/-- Reading gets back what was written, whatever ends it. -/
structure Inverts {α : Type} (read : Reader α) (write : α → Text) (a : α) : Prop where
  solid : Solid (write a)
  read_append : ∀ {rest : Text}, Ends rest → read (write a ++ rest) = some (a, rest)

theorem Solid.append {t : Text} (h : Solid t) (rest : Text) : Solid (t ++ rest) := by
  obtain ⟨c, u, rfl, hc⟩ := h
  exact ⟨c, u ++ rest, rfl, hc⟩

theorem Solid.length_pos {t : Text} (h : Solid t) : 0 < t.length := by
  obtain ⟨c, u, rfl, -⟩ := h
  exact Nat.succ_pos _

theorem Solid.skip_eq {t : Text} (h : Solid t) : skip t = t := by
  obtain ⟨c, u, rfl, hspace, -⟩ := h
  exact List.dropWhile_cons_of_neg (by simp [hspace])

theorem Solid.intercalate {w : Text} (h : Solid w) (glue : Text) (ws : List Text) :
    Solid (glue.intercalate (w :: ws)) := by
  cases ws with
  | nil => rwa [List.intercalate_singleton]
  | cons v vs =>
    rw [List.intercalate_cons_cons, List.append_assoc]
    exact h.append _

theorem skip_space (t : Text) : skip (' ' :: t) = skip t := List.dropWhile_cons_of_pos rfl

section

variable {α : Type} {read : Reader α} {write : α → Text} {close : Char} {as : List α}

theorem readItems_space (n : Nat) (t : Text) :
    readItems read close n (' ' :: t) = readItems read close n t := by
  cases n <;> rfl

theorem ends_cons {c : Char} (h : c = ',' ∨ c = ']' ∨ c = '\x7d') (rest : Text) :
    Ends (c :: rest) := by
  rintro _ ⟨⟩
  exact h

theorem skip_cons_of_ends {c : Char} (h : c = ',' ∨ c = ']' ∨ c = '\x7d') (rest : Text) :
    skip (c :: rest) = c :: rest := by
  rcases h with rfl | rfl | rfl <;> rfl

theorem readItems_append (h : ∀ a ∈ as, Inverts read write a) (hne : as ≠ [])
    (hclose : close = ']' ∨ close = '\x7d') (rest : Text) {n : Nat} (hn : as.length ≤ n) :
    readItems read close n (", ".toList.intercalate (as.map write) ++ close :: rest) =
      some (as, rest) := by
  induction as generalizing n with
  | nil => exact absurd rfl hne
  | cons a as ih =>
    obtain ⟨n, rfl⟩ : ∃ m, n = m + 1 := Nat.exists_eq_add_one.2 (Nat.lt_of_lt_of_le (by simp) hn)
    have ha := h a List.mem_cons_self
    cases as with
    | nil =>
      have hread := ha.read_append (ends_cons (.inr hclose) rest)
      rw [List.map_singleton, List.intercalate_singleton, readItems, (ha.solid.append _).skip_eq,
        hread, Option.bind_eq_bind, Option.bind_some]
      simp only [skip_cons_of_ends (.inr hclose), if_true]
    | cons b bs =>
      have hrest := ih (fun x hx => h x (List.mem_cons_of_mem a hx)) (List.cons_ne_nil b bs)
        (Nat.le_of_succ_le_succ hn)
      have hcomma : ',' ≠ close := by
        rcases hclose with rfl | rfl <;> decide
      have hread := ha.read_append (ends_cons (.inl rfl)
        (' ' :: (", ".toList.intercalate ((b :: bs).map write) ++ close :: rest)))
      have htext : ", ".toList.intercalate ((a :: b :: bs).map write) ++ close :: rest = write a ++
          ',' :: ' ' :: (", ".toList.intercalate ((b :: bs).map write) ++ close :: rest) := by
        rw [List.map_cons, List.map_cons, List.intercalate_cons_cons, List.append_assoc,
          List.append_assoc]
        rfl
      rw [htext, readItems, (ha.solid.append _).skip_eq, hread, Option.bind_eq_bind,
        Option.bind_some]
      simp only [skip_cons_of_ends (.inl rfl), if_neg hcomma, if_true, readItems_space, hrest,
        Option.map_some]

theorem length_le_length_intercalate (h : ∀ a ∈ as, Solid (write a)) :
    as.length ≤ (", ".toList.intercalate (as.map write)).length := by
  induction as with
  | nil => exact Nat.zero_le _
  | cons a as ih =>
    have ha := (h a List.mem_cons_self).length_pos
    have has := ih fun x hx => h x (List.mem_cons_of_mem a hx)
    cases as with
    | nil =>
      rw [List.map_singleton, List.intercalate_singleton]
      exact ha
    | cons b bs =>
      rw [List.map_cons, List.intercalate_cons_of_ne_nil (by simp), List.length_append,
        List.length_append, List.length_cons]
      omega

theorem readAll_append (h : ∀ a ∈ as, Inverts read write a)
    (hclose : close = ']' ∨ close = '\x7d') (rest : Text) :
    readAll read close (", ".toList.intercalate (as.map write) ++ close :: rest) =
      some (as, rest) := by
  cases as with
  | nil =>
    rw [readAll, List.map_nil, List.intercalate_nil, List.nil_append,
      skip_cons_of_ends (.inr hclose)]
    exact if_pos rfl
  | cons a as =>
    have hsolid : Solid (", ".toList.intercalate ((a :: as).map write) ++ close :: rest) :=
      ((h a List.mem_cons_self).solid.intercalate _ _).append _
    have hlength : (a :: as).length ≤
        (", ".toList.intercalate ((a :: as).map write) ++ close :: rest).length := by
      have hle := length_le_length_intercalate fun x hx => (h x hx).solid
      rw [List.length_append]
      omega
    have hitems := readItems_append h (List.cons_ne_nil a as) hclose rest hlength
    rw [readAll, hsolid.skip_eq]
    obtain ⟨c, v, htext, -, hc⟩ := hsolid
    have hne : c ≠ close := by
      rintro rfl
      exact hclose.elim hc.1 hc.2
    rw [htext] at hitems ⊢
    simp only [if_neg hne, hitems]

end

theorem number_int (n : Int) : number (decide (n < 0)) n.natAbs [] none = .int n := by
  rw [number, dif_neg (by simp)]
  congr 1
  split_ifs with h
  · have := of_decide_eq_true h
    omega
  · have : ¬ n < 0 := fun hn => h (decide_eq_true hn)
    omega

/-- A number starts with a digit or a minus sign. -/
theorem numberText_eq_cons (negative : Bool) (whole : Nat) (fraction : List (Fin 10))
    (exponent : Option Int) : ∃ c u, numberText negative whole fraction exponent = c :: u ∧
      (c.isDigit ∨ c = '-') := by
  obtain ⟨d, t, ht⟩ := List.exists_cons_of_ne_nil (ofNat_ne_nil whole)
  cases negative with
  | true => exact ⟨'-', _, rfl, .inr rfl⟩
  | false =>
    have hdigit : d.isDigit := isDigit_of_mem_ofNat (ht ▸ List.mem_cons_self)
    exact ⟨d, t ++ (Decimal.fractionText fraction ++ Decimal.exponentText exponent),
      by simp [numberText, ht], .inl hdigit⟩

theorem solid_number {c : Char} (h : c.isDigit ∨ c = '-') (u : Text) : Solid (c :: u) := by
  refine ⟨c, u, rfl, Bool.eq_false_iff.2 fun hspace => ?_, ?_, ?_⟩
  · simp only [isSpace, List.contains_eq_mem, decide_eq_true_eq, List.mem_cons, List.not_mem_nil,
      or_false] at hspace
    obtain rfl | rfl | rfl | rfl := hspace
    all_goals
      revert h
      decide
  all_goals
    rintro rfl
    revert h
    decide

theorem readValue_number {c : Char} (h : c.isDigit ∨ c = '-') (n : Nat) (u : Text) :
    readValue (n + 1) (c :: u) = readNumber (c :: u) := by
  rw [readValue]
  all_goals
    rintro _ ⟨⟩
    revert h
    decide

theorem solid_numberText (negative : Bool) (whole : Nat) (fraction : List (Fin 10))
    (exponent : Option Int) : Solid (numberText negative whole fraction exponent) := by
  obtain ⟨c, u, hcons, hc⟩ := numberText_eq_cons negative whole fraction exponent
  rw [hcons]
  exact solid_number hc u

theorem readValue_numberText (negative : Bool) (whole : Nat) (fraction : List (Fin 10))
    (exponent : Option Int) (n : Nat) {rest : Text} (hrest : Ends rest) :
    readValue (n + 1) (numberText negative whole fraction exponent ++ rest) =
      some (number negative whole fraction exponent, rest) := by
  have hread := readNumber_append negative whole fraction exponent hrest
  obtain ⟨c, u, hcons, hc⟩ := numberText_eq_cons negative whole fraction exponent
  rw [hcons, List.cons_append] at hread ⊢
  rw [readValue_number hc, hread]

theorem solid_written {v : Value} (hv : v.Writable) : Solid (written v) := by
  cases hv with
  | null => exact ⟨'n', _, rfl, rfl, by decide, by decide⟩
  | bool b =>
    cases b with
    | true => exact ⟨'t', _, rfl, rfl, by decide, by decide⟩
    | false => exact ⟨'f', _, rfl, rfl, by decide, by decide⟩
  | int h =>
    rw [written_int (.int h)]
    exact solid_numberText _ _ _ _
  | real d => exact solid_numberText _ _ _ _
  | text t => exact ⟨'"', _, rfl, rfl, by decide, by decide⟩
  | list h => exact ⟨'[', _, written_list (.list h), rfl, by decide, by decide⟩
  | object h => exact ⟨'\x7b', _, written_object (.object h), rfl, by decide, by decide⟩

theorem inverts_field {read : Reader Value} {f : Text × Value} (h : Inverts read written f.2) :
    Inverts (readField read) fieldJson f := by
  refine ⟨⟨'"', _, rfl, rfl, by decide, by decide⟩, fun {rest} hrest => ?_⟩
  have htext : fieldJson f ++ rest = jsonString f.1 ++ ':' :: ' ' :: (written f.2 ++ rest) := by
    simp [fieldJson]
  have hskip (t : Text) : skip (':' :: t) = ':' :: t := List.dropWhile_cons_of_neg (by decide)
  rw [htext, readField, readString_jsonString, Option.bind_eq_bind, Option.bind_some]
  simp only [hskip, skip_space, (h.solid.append rest).skip_eq, h.read_append hrest,
    Option.map_some]

/-- The values that a value is made of are read, and so is the value. -/
theorem inverts_succ {n : Nat} {v : Value} (hv : v.Writable)
    (h : ∀ w ∈ v.members, Inverts (readValue n) written w) :
    Inverts (readValue (n + 1)) written v := by
  refine ⟨solid_written hv, fun {rest} hrest => ?_⟩
  cases v with
  | null => rfl
  | bool b => cases b <;> rfl
  | int i => rw [written_int hv, readValue_numberText _ _ _ _ n hrest, number_int]
  | real d =>
    have hread := readValue_numberText d.negative d.whole d.fraction d.exponent n hrest
    rwa [number, dif_pos d.notInteger] at hread
  | text t =>
    have hread := readString_jsonString t rest
    rw [written_text]
    rw [jsonString, List.cons_append] at hread ⊢
    rw [readValue, hread, Option.map_some]
  | list vs =>
    have hmembers : ∀ w ∈ vs, Inverts (readValue n) written w := h
    have hread := readAll_append hmembers (.inl rfl) rest
    rw [written_list hv, List.cons_append, List.append_assoc, List.singleton_append,
      readValue, hread, Option.map_some]
  | object fields =>
    have hfields : ∀ f ∈ fields, Inverts (readField (readValue n)) fieldJson f :=
      fun f hf => inverts_field (h f.2 (List.mem_map_of_mem hf))
    have hread := readAll_append hfields (.inr rfl) rest
    rw [written_object hv, List.cons_append, List.append_assoc, List.singleton_append,
      readValue, hread, Option.map_some]

/-- What is written is read back, whatever ends it. -/
theorem inverts_written {n : Nat} {v : Value} (hv : v.Writable) (h : (written v).length ≤ n) :
    Inverts (readValue n) written v := by
  induction n generalizing v with
  | zero => exact absurd h (Nat.not_le.2 (solid_written hv).length_pos)
  | succ n ih =>
    refine inverts_succ hv fun w hw => ih (hv.of_mem_members hw) ?_
    exact Nat.le_of_lt_succ (Nat.lt_of_lt_of_le (length_written_lt_of_mem_members hv hw) h)

/-- What is written is read as the value that it was. -/
theorem decode_written {v : Value} (hv : v.Writable) : decode (written v) = some v := by
  have hends : Ends [] := nofun
  have hread := (inverts_written hv (Nat.le_refl (written v).length)).read_append hends
  rw [List.append_nil] at hread
  rw [decode, (solid_written hv).skip_eq, hread]
  rfl

/-- What is read need not be written in the one way that values are. -/
example : decode " [1 ,\"\\u0041\\/\", true]".toList =
    some (.list [.int 1, .text "A/".toList, .bool true]) := by cbv

/-- Half a pair is no character. -/
example : decode "\"\\ud83d\"".toList = none := by cbv

end Json

end Flattener
