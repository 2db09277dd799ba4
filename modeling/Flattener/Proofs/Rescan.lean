import Flattener.Proofs.Reread
import Flattener.Proofs.Residue
import Flattener.Project.Flatten

/-!
# Reading a bundle again

The text of a bundle is itself a source, and this module says what is found in it: the version
declaration that the bundle was given, and nothing else. No directive of a file survives in its
body, and none arises where a body is put after a marker or after another body.

Everything after the version declaration is inert. Each marker is a comment on a line of its own
(`Marker.render_standard`), each body is what is left of a source, and inert texts can be put
together (`Bundle.inert_of_sections`). The version declaration is read back as it was written,
because it was itself read off a declaration: it holds digits, points and a caret
(`Constraint.forall_mem_raw`), and the reconciliation of declarations invents none
(`exists_parse_of_reconcile`).
-/

namespace Flattener

/-! ### The default marker -/

namespace Text

theorem trimRight_cons {c : Char} (h : isBlank c = false) (t : Text) :
    trimRight (c :: t) = c :: trimRight t := by
  rw [trimRight, List.reverse_cons, List.dropWhile_append, trimRight]
  split
  · rename_i he
    rw [List.isEmpty_iff.1 he]
    simp [h]
  · simp

theorem mem_of_mem_trimRight {t : Text} {c : Char} (h : c ∈ trimRight t) : c ∈ t := by
  rw [trimRight, List.mem_reverse] at h
  exact List.mem_reverse.1 ((List.dropWhile_sublist _).mem h)

end Text

namespace Marker

/-- The template of the markers when nothing else is configured. -/
def standard : Template :=
  ⟨[.literal "// File: ".toList, .print ⟨.name "path".toList, []⟩, .literal []]⟩

theorem template_eq_standard : Project.template {} = .ok standard := by decide +kernel

/-- The marker of a file is a comment. -/
theorem render_standard (path : Text) (index : Nat) : standard.render path index =
    .ok ('/' :: '/' :: Text.trimRight (" File: ".toList ++ path)) := by
  have hslash : isBlank '/' = false := by decide
  have htext : ["// File: ".toList, path, []].flatten =
      '/' :: '/' :: (" File: ".toList ++ path) := by simp
  rw [← Text.trimRight_cons hslash, ← Text.trimRight_cons hslash, ← htext]
  rfl

end Marker

/-! ### Versions -/

/-- Whether the character can stand in a version declaration: it is code, it is no blank, and it
does not end a statement. -/
def isVersionChar (c : Char) : Bool := c != '/' && !isQuote c && c != ';' && !isBlank c

theorem isVersionChar_of_isDigit {c : Char} (h : isDigit c) : isVersionChar c = true := by
  obtain ⟨v, hv⟩ := Option.isSome_iff_exists.1 h
  obtain ⟨z, hz, -⟩ := Option.map_eq_some_iff.1 hv
  have hzero := List.mem_of_find?_eq_some hz
  have hrange := List.find?_some hz
  simp only [Bool.and_eq_true, decide_eq_true_eq] at hrange
  -- the digits of a script and the blanks are ranges that do not meet
  have hblank : isBlank c = false := by
    have hapart : ∀ z ∈ digitZeros, ∀ r ∈ blankRanges, z + 9 < r.1 ∨ r.2 < z := by decide +kernel
    refine Bool.eq_false_iff.2 fun hb => ?_
    obtain ⟨r, hr, hc⟩ := List.any_eq_true.1 hb
    simp only [Bool.and_eq_true, decide_eq_true_eq] at hc
    have := hapart z hzero r hr
    omega
  have hmark : ∀ x ∈ ['/', '"', '\'', ';'], c ≠ x := by
    have hapart : ∀ z ∈ digitZeros, ∀ n ∈ [0x2F, 0x22, 0x27, 0x3B], z + 9 < n ∨ n < z := by
      decide +kernel
    rintro x hx rfl
    have := hapart z hzero c.toNat (List.mem_map_of_mem (f := Char.toNat) hx)
    omega
  simp only [List.forall_mem_cons] at hmark
  simp [isVersionChar, isQuote, hblank, hmark]

namespace Constraint

theorem mem_splitKind {t : Text} {c : Char} (h : c ∈ t) : c = '^' ∨ c ∈ (splitKind t).2 := by
  unfold splitKind
  split
  · rcases List.mem_cons.1 h with rfl | h
    · exact .inl rfl
    · exact .inr h
  · exact .inr h

theorem raw_of_parse {t : Text} {c : Constraint} (h : parse t = .ok c) :
    c.raw = Text.trim t ∧ ((splitKind (Text.trim t)).2.splitOn '.').all isNumber = true := by
  unfold parse at h
  dsimp only at h
  split at h
  · rename_i hall
    refine ⟨?_, hall⟩
    split at h
    · obtain ⟨a, -, h⟩ := bind_eq_ok_iff.1 h
      obtain ⟨b, -, h⟩ := bind_eq_ok_iff.1 h
      cases h
      rfl
    · obtain ⟨a, -, h⟩ := bind_eq_ok_iff.1 h
      obtain ⟨b, -, h⟩ := bind_eq_ok_iff.1 h
      obtain ⟨p, -, h⟩ := bind_eq_ok_iff.1 h
      cases h
      rfl
    · cases h
  · cases h

/-- A version declaration that was read holds no character that would be read otherwise where it
is written. -/
theorem forall_mem_raw {t : Text} {c : Constraint} (h : parse t = .ok c) :
    c.raw ≠ [] ∧ ∀ x ∈ c.raw, isVersionChar x = true := by
  obtain ⟨hraw, hall⟩ := raw_of_parse h
  rw [hraw]
  refine ⟨fun he => ?_, fun x hx => ?_⟩
  · rw [he] at hall
    revert hall
    decide
  · rcases mem_splitKind hx with rfl | hx
    · decide
    · have hglue : ['.'].intercalate ((splitKind (Text.trim t)).2.splitOn '.') =
          (splitKind (Text.trim t)).2 := List.intercalate_splitOn '.'
      rw [← hglue] at hx
      rcases Text.mem_intercalate hx with hx | ⟨w, hw, hx⟩
      · rw [List.mem_singleton.1 hx]
        decide
      · have hnum := List.all_eq_true.1 hall w hw
        rw [isNumber, Bool.and_eq_true] at hnum
        exact isVersionChar_of_isDigit (List.all_eq_true.1 hnum.2 x hx)

end Constraint

namespace Reconciler

/-- The declaration is one of those that count so far. -/
def Keeps (r : Reconciler) (d : Declared) : Prop := r.pinned = some d ∨ r.caret = some d

theorem keeps_record {r : Reconciler} {d x : Declared} (h : (r.record d).1.Keeps x) :
    x = d ∨ r.Keeps x := by
  unfold record at h
  split at h
  · dsimp only at h
    split at h
    · rcases h with h | h
      · exact .inr (.inl h)
      · exact .inl (Option.some.inj h).symm
    · exact .inr h
  · split at h
    · rcases h with h | h
      · exact .inl (Option.some.inj h).symm
      · exact .inr (.inr h)
    · split at h <;> exact .inr h

/-- A file adds none but its own declarations. -/
theorem keeps_addFile {r r' : Reconciler} {file : Text} {ts : List Text} {x : Declared}
    (h : r.addFile file ts = .ok r') (hx : r'.Keeps x) :
    r.Keeps x ∨ ∃ t ∈ ts, Constraint.parse t = .ok x.constraint := by
  unfold addFile at h
  split at h
  · cases h
    exact .inl hx
  · rename_i t
    split at h
    · rename_i heq
      cases h
      unfold add at heq
      split at heq
      · cases heq
      · rename_i c hc
        have hr : (r.record ⟨file, c⟩).1 = r' := congrArg Prod.fst heq
        rcases keeps_record (hr ▸ hx) with rfl | hx
        · exact .inr ⟨t, List.mem_singleton_self t, hc⟩
        · exact .inl hx
    · cases h
  · cases h

end Reconciler

/-- The declarations that count in the end did so at the start or are made in one of the files. -/
theorem keeps_reconcileFrom {declarations : Text → Option (List Text)} {files : List Text}
    {r r' : Reconciler} {x : Declared} (h : reconcileFrom declarations r files = .ok r')
    (hx : r'.Keeps x) :
    r.Keeps x ∨ ∃ file ∈ files, ∃ ts, declarations file = some ts ∧
      ∃ t ∈ ts, Constraint.parse t = .ok x.constraint := by
  induction files generalizing r with
  | nil =>
    cases h
    exact .inl hx
  | cons file files ih =>
    unfold reconcileFrom at h
    split at h
    · cases h
    · rename_i ts hts
      obtain ⟨r₁, hadd, h⟩ := bind_eq_ok_iff.1 h
      rcases ih h with hx | ⟨file', hmem, hrest⟩
      · rcases Reconciler.keeps_addFile hadd hx with hx | ht
        · exact .inl hx
        · exact .inr ⟨file, List.mem_cons_self, ts, hts, ht⟩
      · exact .inr ⟨file', List.mem_cons_of_mem file hmem, hrest⟩

/-- The version of all files is declared in one of them. -/
theorem exists_parse_of_reconcile {declarations : Text → Option (List Text)} {files : List Text}
    {c : Constraint} (h : reconcile declarations files = .ok (some c)) :
    ∃ file ∈ files, ∃ ts, declarations file = some ts ∧ ∃ t ∈ ts, Constraint.parse t = .ok c := by
  obtain ⟨r, hr, hc⟩ := map_eq_ok_iff.1 h
  obtain ⟨x, hx, rfl⟩ := Option.map_eq_some_iff.1 hc
  have hkeeps : r.Keeps x := by
    rcases Option.or_eq_some_iff.1 hx with hx | ⟨-, hx⟩
    · exact .inl hx
    · exact .inr hx
  rcases keeps_reconcileFrom hr hkeeps with (h | h) | h
  · cases h
  · cases h
  · exact h

/-! ### Sections -/

namespace Bundle

/-- The section of a file is inert if its marker is a comment on one line. -/
theorem inert_of_fileSection {template : Marker.Template} {path content this : Text} {index : Nat}
    {comment : Text} (h : fileSection template path content index = .ok this)
    (hm : template.render path index = .ok ('/' :: '/' :: comment)) (hn : '\n' ∉ comment)
    (hs : Directive.NoneAfterSlash (Text.unifyNewlines content)) : Inert this := by
  unfold fileSection at h
  rw [hm] at h
  obtain ⟨marker, hmarker, h⟩ := bind_eq_ok_iff.1 h
  obtain rfl : '/' :: '/' :: comment = marker := Except.ok.inj hmarker
  obtain ⟨body, hbody, h⟩ := bind_eq_ok_iff.1 h
  have hmarker := Inert.lineComment hn
  split at h
  · cases h
    exact hmarker
  · cases h
    have hclean : Body.clean content = .ok body := by
      cases hc : Body.clean content with
      | error e => rw [hc] at hbody; cases hbody
      | ok t => rw [hc] at hbody; cases hbody; rfl
    have := hmarker.append (Inert.lineFeed.append (Body.inert_of_clean hclean hs))
    simpa using this

/-- The sections of files are inert, one after the other. -/
theorem inert_of_sections {template : Marker.Template} {content : Text → Option Text}
    {started : Bool} {index : Nat} {files pieces : List Text}
    (h : sections template content started index files = .ok pieces)
    (hm : ∀ path ∈ files, ∀ index, ∃ comment, '\n' ∉ comment ∧
      template.render path index = .ok ('/' :: '/' :: comment))
    (hs : ∀ path ∈ files, ∀ source, content path = some source →
      Directive.NoneAfterSlash (Text.unifyNewlines source)) :
    Inert pieces.flatten := by
  induction files generalizing started index pieces with
  | nil =>
    cases h
    exact .nil
  | cons path files ih =>
    unfold sections at h
    split at h
    · cases h
    · rename_i source hsource
      obtain ⟨this, hthis, h⟩ := bind_eq_ok_iff.1 h
      obtain ⟨later, hlater, h⟩ := bind_eq_ok_iff.1 h
      obtain ⟨comment, hn, hrender⟩ := hm path List.mem_cons_self index
      have hslash := hs path List.mem_cons_self source hsource
      have hhere := inert_of_fileSection hthis hrender hn hslash
      have hrest := ih hlater (fun p hp => hm p (List.mem_cons_of_mem path hp))
        fun p hp => hs p (List.mem_cons_of_mem path hp)
      cases h
      -- an empty line stands before the section unless it is the first thing written
      rw [List.flatten_append, List.flatten_cons]
      refine Inert.append ?_ (hhere.append hrest)
      cases started with
      | true => exact .lineFeed
      | false => exact .nil

end Bundle

/-! ### The version declaration -/

/-- A text without blanks is squeezed already. -/
theorem Text.squeeze_space_cons {t : Text} (hne : t ≠ []) (h : ∀ c ∈ t, isBlank c = false) :
    squeeze (' ' :: t) = t := by
  have hword : t.splitOnP isBlank = [t] := List.splitOnP_eq_singleton h
  have hwords : words (' ' :: t) = [t] := by
    rw [words, List.splitOnP_cons_eq_if_modifyHead, if_pos (by decide), hword]
    simp [hne]
  rw [squeeze, hwords, List.intercalate_singleton]

theorem Directive.declaration?_solidity {raw : Text} (hne : raw ≠ [])
    (h : ∀ x ∈ raw, isVersionChar x = true) :
    declaration? (" solidity ".toList ++ raw) = some raw := by
  have htrim : Text.trimLeft (" solidity ".toList ++ raw) = "solidity".toList ++ ' ' :: raw := rfl
  have hword : isWordChar ' ' = false := by decide
  have hblank : ∀ x ∈ raw, isBlank x = false := fun x hx => by
    have := h x hx
    simp only [isVersionChar, Bool.and_eq_true, Bool.not_eq_true'] at this
    exact this.2
  rw [declaration?, htrim, Text.dropPrefix?_eq_some.2 rfl]
  simp only [List.head?_cons, Option.any_some, hword, Bool.false_eq_true, if_false,
    Text.squeeze_space_cons hne hblank]

namespace Bundle

theorem versionLine_eq (c : Constraint) :
    versionLine c = Keyword.pragma.text ++ ((" solidity ".toList ++ c.raw) ++ [';', '\n']) := rfl

/-- A version declaration is code. -/
theorem cut_versionLine {c : Constraint} (h : ∀ x ∈ c.raw, isVersionChar x = true) (t : Text) :
    Lexeme.Cut ((versionLine c).map .code) t := by
  have hopen : "pragma solidity ".toList.all (fun x => x != '/' && !isQuote x) = true := by decide
  have hclose : ";\n".toList.all (fun x => x != '/' && !isQuote x) = true := by decide
  refine Lexeme.cut_map_code (fun x hx => ?_) t
  rw [← bne_iff_ne, ← Bool.not_eq_true', ← Bool.and_eq_true]
  rcases List.mem_append.1 hx with hx | hx
  · rcases List.mem_append.1 hx with hx | hx
    · exact List.all_eq_true.1 hopen x hx
    · have := h x hx
      rw [isVersionChar, Bool.and_eq_true, Bool.and_eq_true] at this
      exact this.1.1
  · exact List.all_eq_true.1 hclose x hx

theorem semicolon_notMem_declaration {c : Constraint} (h : ∀ x ∈ c.raw, isVersionChar x = true) :
    ';' ∉ " solidity ".toList ++ c.raw := by
  intro hm
  rcases List.mem_append.1 hm with hm | hm
  · revert hm
    decide
  · exact absurd (h _ hm) (by decide)

/-- A version declaration before an inert text is the only directive that is found. -/
theorem findAll_versionLine_append {c : Constraint} (hne : c.raw ≠ [])
    (h : ∀ x ∈ c.raw, isVersionChar x = true) {t : Text} (ht : Inert t) :
    ∃ d, Directive.findAll (versionLine c ++ t) = .ok [d] ∧ d.said = (.version, c.raw) := by
  obtain ⟨ks, rfl, hcut, hq, -⟩ := ht
  have hscan : scan (versionLine c ++ ks.flatMap Lexeme.text) =
      .ok ((versionLine c).map Lexeme.code ++ ks) := by
    refine scan_eq_ok_iff.2 ⟨?_, Lexeme.cut_append.2 ⟨cut_versionLine h _, hcut⟩⟩
    rw [List.flatMap_append, Lexeme.flatMap_text_map_code]
  have hnext : Keyword.next? false (versionLine c ++ ks.flatMap Lexeme.masked) =
      some ([], .pragma, (" solidity ".toList ++ c.raw) ++
        ';' :: '\n' :: ks.flatMap Lexeme.masked) := by
    rw [versionLine_eq, List.append_assoc, List.append_assoc]
    refine @Keyword.next?_statement [] _ .pragma rfl (by simp) fun x hx => ?_
    obtain rfl : ' ' = x := Option.some.inj hx
    decide
  have hv : ∀ written, Directive.reading .pragma written (" solidity ".toList ++ c.raw) =
      .ok (some (.version, c.raw)) := fun written => by
    rw [Directive.reading, Directive.declaration?_solidity hne h]
    rfl
  have hrest : Quiet ('\n' :: ks.flatMap Lexeme.masked) :=
    Quiet.append (Text.apart_of_blank_left (p := ['\n']) (by decide)) (.of_blank (by decide)) hq
  obtain ⟨d, hd, hsaid⟩ : ∃ d, Directive.Found (versionLine c ++ ks.flatMap Lexeme.text) 0
      (versionLine c ++ ks.flatMap Lexeme.masked) [d] ∧ d.said = (.version, c.raw) :=
    ⟨_, .statement hnext (semicolon_notMem_declaration h) (hv _)
      (Directive.found_of_quiet hrest _ _), rfl⟩
  refine ⟨d, Directive.findAll_eq_ok_iff.2 ⟨_, hscan, ?_⟩, hsaid⟩
  rwa [List.flatMap_append, Lexeme.flatMap_masked_map_code]

end Bundle

/-! ### Runs -/

theorem Logged.result_bind {ε α β : Type} (x : Logged ε α) (f : α → Logged ε β) :
    (x >>= f).result = x.result >>= fun a => (f a).result := by
  simp only [Bind.bind, Logged.bind]
  cases x.result <;> rfl

theorem Logged.result_bind_eq_ok_iff {ε α β : Type} {x : Logged ε α} {f : α → Logged ε β} {b : β} :
    (x >>= f).result = .ok b ↔ ∃ a, x.result = .ok a ∧ (f a).result = .ok b := by
  rw [result_bind, bind_eq_ok_iff]

namespace Bundle

theorem result_unify (g : Graph) (files : List Text) :
    (unify g files).result = (reconcile (versionsOf g) files).mapError ReconcileFault.toFault := by
  unfold unify
  rcases reconcile (versionsOf g) files with e | _ | c <;> rfl

/-- A run takes its steps one after the other. -/
theorem result_run (finder : Finder) (template : Marker.Template) (entries : List Text) :
    (run finder template entries).result = do
      let graph ← (discover finder entries).result
      let files ← (arrange graph).result
      let version ← (unify graph files).result
      let chunks ← layout template (contentOf graph) version files
      return ⟨files, version, graph, chunks⟩ := by
  simp only [run, Logged.result_bind]
  rfl

theorem result_unify_eq_ok_iff {g : Graph} {files : List Text} {version : Option Constraint} :
    (unify g files).result = .ok version ↔ reconcile (versionsOf g) files = .ok version := by
  rw [result_unify, mapError_eq_ok_iff]

/-- A run succeeds when all of its steps do. -/
theorem result_run_eq_ok_iff {finder : Finder} {template : Marker.Template} {entries : List Text}
    {b : Bundle} : (run finder template entries).result = .ok b ↔
      (discover finder entries).result = .ok b.graph ∧ (arrange b.graph).result = .ok b.files ∧
      reconcile (versionsOf b.graph) b.files = .ok b.version ∧
      layout template (contentOf b.graph) b.version b.files = .ok b.chunks := by
  rw [result_run]
  constructor
  · intro h
    obtain ⟨graph, hgraph, h⟩ := bind_eq_ok_iff.1 h
    obtain ⟨files, hfiles, h⟩ := bind_eq_ok_iff.1 h
    obtain ⟨version, hversion, h⟩ := bind_eq_ok_iff.1 h
    obtain ⟨chunks, hchunks, h⟩ := bind_eq_ok_iff.1 h
    cases h
    exact ⟨hgraph, hfiles, result_unify_eq_ok_iff.1 hversion, hchunks⟩
  · rintro ⟨hgraph, hfiles, hversion, hchunks⟩
    refine bind_eq_ok_iff.2 ⟨_, hgraph, bind_eq_ok_iff.2 ⟨_, hfiles, ?_⟩⟩
    exact bind_eq_ok_iff.2 ⟨_, result_unify_eq_ok_iff.2 hversion,
      bind_eq_ok_iff.2 ⟨_, hchunks, rfl⟩⟩

/-- Reading the flattened source again finds the version that it was given, once, and no other
directive. This is so for the default marker, if no label has several lines and no directive was
taken out right after a slash: there the slash comes to stand before what followed the directive,
and both may be read as a comment. -/
theorem findAll_text {finder : Finder} {template : Marker.Template} {entries : List Text}
    {b : Bundle} (hm : Project.template {} = .ok template)
    (hr : (run finder template entries).result = .ok b) (hn : ∀ path ∈ b.files, '\n' ∉ path)
    (hs : ∀ path ∈ b.files, ∀ source, contentOf b.graph path = some source →
      Directive.NoneAfterSlash (Text.unifyNewlines source)) :
    ∃ ds, Directive.findAll b.text = .ok ds ∧
      ds.map Directive.said = (b.version.map fun c => (DirectiveKind.version, c.raw)).toList := by
  obtain ⟨-, -, hversion, hlayout⟩ := result_run_eq_ok_iff.1 hr
  obtain ⟨pieces, hpieces, hchunks⟩ := bind_eq_ok_iff.1 hlayout
  have hmarker : ∀ path ∈ b.files, ∀ index, ∃ comment, '\n' ∉ comment ∧
      template.render path index = .ok ('/' :: '/' :: comment) := by
    obtain rfl := Except.ok.inj (hm.symm.trans Marker.template_eq_standard)
    refine fun path hp index => ⟨_, fun hmem => ?_, Marker.render_standard path index⟩
    rcases List.mem_append.1 (Text.mem_of_mem_trimRight hmem) with hmem | hmem
    · revert hmem
      decide
    · exact hn path hp hmem
  have hinert := inert_of_sections hpieces hmarker hs
  rw [text, ← Except.ok.inj hchunks]
  cases hv : b.version with
  | none => exact ⟨[], hinert.findAll, rfl⟩
  | some c =>
    -- the version was read off a declaration, so its text is read back as it is written
    rw [hv] at hversion
    obtain ⟨file, -, ts, -, t, -, hparse⟩ := exists_parse_of_reconcile hversion
    obtain ⟨hne, hraw⟩ := Constraint.forall_mem_raw hparse
    obtain ⟨d, hd, hsaid⟩ := findAll_versionLine_append hne hraw hinert
    exact ⟨[d], hd, by rw [List.map_singleton, hsaid]; rfl⟩

/-- A file `b` that declares a version and imports a file `a`. -/
def declaredPair : Finder where
  resolver name :=
    if name = ['b'] then .ok ⟨"pragma solidity ^0.8.0; import 'a';\nx / y;\n".toList, ['b']⟩
    else .ok ⟨"z;".toList, ['a']⟩
  limit := 2

/-- What is made of the file `b`. -/
def declaredPairBundle : Bundle where
  files := [['a'], ['b']]
  version := some ⟨"^0.8.0".toList, .caret, 0, 8, some 0⟩
  graph := ((Graph.empty.addFile ⟨['b'], "pragma solidity ^0.8.0; import 'a';\nx / y;\n".toList,
    [['a']], ["^0.8.0".toList]⟩).addEdge ⟨['a'], ['b']⟩).addFile ⟨['a'], "z;".toList, [], []⟩
  chunks := ["pragma solidity ^0.8.0;\n", "\n", "// File: a\n\nz;\n", "\n",
    "// File: b\n\nx / y;\n"].map String.toList

theorem discover_declaredPair :
    (discover declaredPair [['b']]).result = .ok declaredPairBundle.graph := by
  have hb : load declaredPair.resolver {} ['b'] = ((load declaredPair.resolver {} ['b']).1,
      .ok ⟨['b'], "pragma solidity ^0.8.0; import 'a';\nx / y;\n".toList, [['a']],
        ["^0.8.0".toList]⟩) := Prod.ext rfl (by decide +kernel)
  have ha : load declaredPair.resolver (load declaredPair.resolver {} ['b']).1 ['a'] =
      ((load declaredPair.resolver (load declaredPair.resolver {} ['b']).1 ['a']).1,
        .ok ⟨['a'], "z;".toList, [], []⟩) := Prod.ext rfl (by decide +kernel)
  have hbuild : ∃ s, build declaredPair.resolver 2 {} [['b']] = (s, .ok declaredPairBundle.graph) :=
    ⟨_, (buildFrom_of_new hb (by decide) (by decide) (by
      rw [walk_of_new ha (by decide) (by decide), walk_exhausted, walk_exhausted, walk_nil]
      rfl)).trans rfl⟩
  obtain ⟨s, hs⟩ := hbuild
  have hlimit : declaredPair.limit = 2 := rfl
  rw [discover, hlimit, hs]

theorem findAll_text_declaredPair :
    (run declaredPair Marker.standard [['b']]).result = .ok declaredPairBundle ∧
      ∃ ds, Directive.findAll declaredPairBundle.text = .ok ds ∧
        ds.map Directive.said = [(.version, "^0.8.0".toList)] := by
  have hrun : (run declaredPair Marker.standard [['b']]).result = .ok declaredPairBundle :=
    result_run_eq_ok_iff.2 ⟨discover_declaredPair, by decide +kernel, by decide +kernel,
      by decide +kernel⟩
  have hslash : ∀ path ∈ declaredPairBundle.files, ∀ source,
      contentOf declaredPairBundle.graph path = some source →
        Directive.NoneAfterSlash (Text.unifyNewlines source) := by
    have hall : ∀ path ∈ declaredPairBundle.files,
        (contentOf declaredPairBundle.graph path).all
          (fun source => decide (Directive.NoneAfterSlash (Text.unifyNewlines source))) = true := by
      decide +kernel
    intro path hp source hsource
    simpa [hsource] using hall path hp
  exact ⟨hrun, findAll_text Marker.template_eq_standard hrun (by decide +kernel) hslash⟩

end Bundle

end Flattener
