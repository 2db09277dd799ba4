import Flattener.Text.Basic
import Flattener.Text.NameTable

/-!
# Characters by name

A character can be given by its name. The letters of a name may be small ones, except in the
names of ideographs and of Hangul syllables, which are made by a rule and not listed.

* `charOfName?` is the character with the given name.
-/

namespace Flattener

/-- The code points of the ideographs that are named by their number. -/
def ideographRanges : List (Nat × Nat) :=
  [(0x3400, 0x4DBF), (0x4E00, 0x9FFF), (0x20000, 0x2A6DF), (0x2A700, 0x2B738),
    (0x2B740, 0x2B81D), (0x2B820, 0x2CEA1), (0x2CEB0, 0x2EBE0), (0x30000, 0x3134A)]

/-- The names of the sounds that a Hangul syllable may start with. -/
def syllableStarts : List String :=
  ["G", "GG", "N", "D", "DD", "R", "M", "B", "BB", "S", "SS", "", "J", "JJ", "C", "K", "T", "P",
    "H"]

/-- The names of the vowels of a Hangul syllable. -/
def syllableVowels : List String :=
  ["A", "AE", "YA", "YAE", "EO", "E", "YEO", "YE", "O", "WA", "WAE", "OE", "YO", "U", "WEO", "WE",
    "WI", "YU", "EU", "YI", "I"]

/-- The names of the sounds that a Hangul syllable may end with. -/
def syllableEnds : List String :=
  ["", "G", "GG", "GS", "N", "NJ", "NH", "D", "L", "LG", "LM", "LB", "LS", "LT", "LP", "LH", "M",
    "B", "BS", "S", "SS", "NG", "J", "C", "K", "T", "P", "H"]

/-- The positions at which a part of a syllable stands at the start of `t`, with what follows. -/
def syllableParts (parts : List String) (t : Text) : List (Nat × Text) :=
  parts.zipIdx.filterMap fun p => (Text.dropPrefix? p.1.toList t).map fun rest => (p.2, rest)

/-- The code point of the Hangul syllable with the given name. -/
def syllable? (t : Text) : Option Nat :=
  (syllableParts syllableStarts t).findSome? fun (l, t) =>
    (syllableParts syllableVowels t).findSome? fun (v, t) =>
      (syllableParts syllableEnds t).findSome? fun (e, t) =>
        if t.isEmpty then some (0xAC00 + (l * 21 + v) * 28 + e) else none

/-- The number that digits in base sixteen with capital letters denote. -/
def capitalHex? (t : Text) : Option Nat :=
  t.foldlM (fun n c =>
    if c.isDigit then some (16 * n + (c.toNat - 48))
    else if 'A' ≤ c && c ≤ 'F' then some (16 * n + (c.toNat - 55))
    else none) 0

/-- The code point of the ideograph that is named by the number `t`. -/
def ideograph? (t : Text) : Option Nat :=
  if t.length = 4 || t.length = 5 then
    (capitalHex? t).filter fun n => inRanges ideographRanges n
  else none

/-- The code point with the given listed name, in capital letters. -/
def listed? (name : Text) : Option Nat :=
  (nameRuns.findSome? fun r =>
    ((r.rows.flatMap (·.toList.splitOn ';')).findIdx? (· = name)).map (r.first + ·)).or
      ((otherNames.find? fun n => n.2.toList = name).map (·.1))

/-- The character with the given name. -/
def charOfName? (name : Text) : Option Char :=
  (match Text.dropPrefix? "HANGUL SYLLABLE ".toList name,
      Text.dropPrefix? "CJK UNIFIED IDEOGRAPH-".toList name with
    | some t, _ => syllable? t
    | none, some t => ideograph? t
    | none, none => if name.isEmpty then none else listed? (name.map Char.toUpper)).map Char.ofNat

end Flattener
