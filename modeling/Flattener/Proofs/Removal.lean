import Flattener.Proofs.Reread
import Flattener.Proofs.Residue
import Flattener.Proofs.Statements

/-!
# What goes with the directives

Taking directives out of a text takes out a *window* for each of them, which is the directive with
some blanks around it. What is left is the text outside the windows (`Body.strip_eq_outside`), and
no character that is not blank lies in a window but outside the directives. So the code of a source
is the code of its body, in the same order: this is `Body.code_of_clean`, which also says how a body
begins and ends.

A body is clean already (`Body.clean_clean`): nothing is found in it, since it is inert, and nothing
is trimmed, since it is tidy. That it is inert needs that no directive was taken out right after a
slash; otherwise what is left may start a comment.

Which line feeds go is a matter of what follows a directive on its line, and of nothing else
(`Body.lineFeeds_of_strip`). A directive with nothing after it takes the end of its line with it,
even if other text stands before it, and then the next line is joined to that text.
`Body.strip_joinedLines` is such a source.
-/

namespace Flattener

namespace Body

/-! ### Places in a text -/

theorem slice_eq_take_drop (t : Text) (a b : Nat) : slice t a b = (t.drop a).take (b - a) :=
  List.drop_take ..

/-- A slice holds the characters at the places in it. -/
theorem mem_slice {t : Text} {a b : Nat} {c : Char} :
    c ∈ slice t a b ↔ ∃ i, a ≤ i ∧ i < b ∧ t[i]? = some c := by
  rw [slice_eq_take_drop, List.mem_iff_getElem?]
  constructor
  · rintro ⟨i, hi⟩
    rw [List.getElem?_take, List.getElem?_drop] at hi
    split at hi
    · exact ⟨a + i, by omega, by omega, hi⟩
    · cases hi
  · rintro ⟨i, ha, hb, hi⟩
    refine ⟨i - a, ?_⟩
    rw [List.getElem?_take_of_lt (by omega), List.getElem?_drop, Nat.add_sub_cancel' ha, hi]

theorem blank_slice_iff {t : Text} {a b : Nat} : Text.blank (slice t a b) ↔
    ∀ i c, a ≤ i → i < b → t[i]? = some c → isBlank c := by
  rw [Text.blank, List.all_eq_true]
  constructor
  · exact fun h i c ha hb hi => h c (mem_slice.2 ⟨i, ha, hb, hi⟩)
  · intro h c hc
    obtain ⟨i, ha, hb, hi⟩ := mem_slice.1 hc
    exact h i c ha hb hi

/-- A text goes on with a slice up to any later place. -/
theorem drop_eq_slice_append {t : Text} {a b : Nat} (hab : a ≤ b) :
    t.drop a = slice t a b ++ t.drop b := by
  rw [slice_eq_take_drop]
  conv_lhs => rw [← List.take_append_drop (b - a) (t.drop a)]
  rw [List.drop_drop, Nat.add_sub_cancel' hab]

theorem length_slice {t : Text} {a b : Nat} (hb : b ≤ t.length) :
    (slice t a b).length = b - a := by
  rw [slice, List.length_drop, List.length_take, Nat.min_eq_left hb]

/-- No line feed stands between the start of a line and a place on it. -/
theorem lineFeed_notMem_lineStart {t : Text} {a : Nat} (ha : a ≤ t.length) :
    lineStart t a ≤ a ∧ '\n' ∉ slice t (lineStart t a) a := by
  obtain ⟨u, v, hr, hv, -, hmax⟩ := exists_lastLine (t.take a)
  have hlen : (t.take a).length = a := by rw [List.length_take, Nat.min_eq_left ha]
  have hstart : lineStart t a = u.length := by
    have h := hmax [] (t.drop a)
    rw [List.nil_append, List.take_append_drop, hlen] at h
    simpa using h
  have hle := congrArg List.length hr
  rw [List.length_append] at hle
  refine ⟨by omega, ?_⟩
  rw [slice, hstart, hr, List.drop_left]
  exact hv

/-- A line ends with the first line feed, or with the text. -/
theorem lineEnd_spec {t : Text} {b : Nat} (hb : b ≤ t.length) :
    b ≤ lineEnd t b ∧ lineEnd t b ≤ t.length ∧ '\n' ∉ slice t b (lineEnd t b) ∧
      (lineEnd t b < t.length → t[lineEnd t b]? = some '\n') := by
  have hlen : (t.take b).length = b := by rw [List.length_take, Nat.min_eq_left hb]
  obtain ⟨u, v, ht, hu, hv, hend⟩ : ∃ u v, t.drop b = u ++ v ∧ '\n' ∉ u ∧
      (∀ c ∈ v.head?, c = '\n') ∧ lineEnd t b = b + u.length := by
    refine ⟨(t.drop b).takeWhile (· ≠ '\n'), (t.drop b).dropWhile (· ≠ '\n'),
      List.takeWhile_append_dropWhile.symm, fun hm => ?_, fun c hc => ?_, ?_⟩
    · simpa using List.all_eq_true.1 List.all_takeWhile _ hm
    · simpa using eq_false_of_head?_dropWhile hc
    · have h := lineEnd_append (t.take b) (t.drop b)
      rwa [List.take_append_drop, hlen] at h
  have htotal := congrArg List.length ht
  rw [List.length_append, List.length_drop] at htotal
  refine ⟨by omega, by omega, ?_, fun hlt => ?_⟩
  · rw [slice_eq_take_drop, hend, Nat.add_sub_cancel_left, ht, List.take_left]
    exact hu
  · rw [hend, ← List.getElem?_drop, ht, List.getElem?_append_right (Nat.le_refl _), Nat.sub_self,
      ← List.head?_eq_getElem?]
    cases v with
    | nil =>
      simp only [List.length_nil] at htotal
      omega
    | cons c v => rw [List.head?_cons, hv c rfl]

/-! ### Texts outside spans -/

/-- The place lies in one of the spans. -/
def Covered (spans : List (Nat × Nat)) (i : Nat) : Prop := ∃ s ∈ spans, s.1 ≤ i ∧ i < s.2

instance (spans : List (Nat × Nat)) (i : Nat) : Decidable (Covered spans i) :=
  inferInstanceAs (Decidable (∃ s ∈ spans, s.1 ≤ i ∧ i < s.2))

/-- What is left of a text that stands at `offset`, without exactly the characters in the spans. -/
def outsideFrom (offset : Nat) (spans : List (Nat × Nat)) (t : Text) : Text :=
  ((t.zipIdx offset).filter fun c => ¬ Covered spans c.2).map Prod.fst

/-- The text without exactly the characters in the spans. -/
def outside (spans : List (Nat × Nat)) (t : Text) : Text := outsideFrom 0 spans t

theorem outsideFrom_append (offset : Nat) (spans : List (Nat × Nat)) (t u : Text) :
    outsideFrom offset spans (t ++ u) =
      outsideFrom offset spans t ++ outsideFrom (offset + t.length) spans u := by
  rw [outsideFrom, List.zipIdx_append, List.filter_append, List.map_append]
  rfl

theorem outsideFrom_eq_self {offset : Nat} {spans : List (Nat × Nat)} {t : Text}
    (h : ∀ i, offset ≤ i → i < offset + t.length → ¬ Covered spans i) :
    outsideFrom offset spans t = t := by
  have hall : (t.zipIdx offset).filter (fun c => ¬ Covered spans c.2) = t.zipIdx offset := by
    refine List.filter_eq_self.2 fun c hc => decide_eq_true ?_
    obtain ⟨hle, hlt, -⟩ := List.mem_zipIdx hc
    exact h c.2 hle hlt
  rw [outsideFrom, hall, List.zipIdx_map_fst]

theorem outsideFrom_eq_nil {offset : Nat} {spans : List (Nat × Nat)} {t : Text}
    (h : ∀ i, offset ≤ i → i < offset + t.length → Covered spans i) :
    outsideFrom offset spans t = [] := by
  rw [outsideFrom, List.map_eq_nil_iff, List.filter_eq_nil_iff]
  intro c hc
  obtain ⟨hle, hlt, -⟩ := List.mem_zipIdx hc
  simpa using h c.2 hle hlt

/-- Only the places of the characters that are looked for matter. -/
theorem filter_outsideFrom_congr {p : Char → Bool} {offset : Nat} {spans spans' : List (Nat × Nat)}
    {t : Text} (h : ∀ i c, offset ≤ i → t[i - offset]? = some c → p c →
      (Covered spans i ↔ Covered spans' i)) :
    (outsideFrom offset spans t).filter p = (outsideFrom offset spans' t).filter p := by
  simp only [outsideFrom, List.filter_map, List.filter_filter]
  refine congrArg _ (List.filter_congr fun c hc => ?_)
  obtain ⟨hle, hi⟩ := List.mk_mem_zipIdx_iff_le_and_getElem?_sub.1 hc
  cases hp : p c.1 with
  | false => simp [hp]
  | true => simp [hp, h c.2 c.1 hle hi hp]

theorem outsideFrom_congr {offset : Nat} {spans spans' : List (Nat × Nat)} {t : Text}
    (h : ∀ i, offset ≤ i → (Covered spans i ↔ Covered spans' i)) :
    outsideFrom offset spans t = outsideFrom offset spans' t := by
  have := @filter_outsideFrom_congr (fun _ => true) offset spans spans' t fun i _ hi _ _ => h i hi
  simpa using this

theorem mem_of_mem_outside {spans : List (Nat × Nat)} {t : Text} {c : Char}
    (h : c ∈ outside spans t) : c ∈ t := by
  obtain ⟨x, hx, rfl⟩ := List.mem_map.1 h
  obtain ⟨-, hi⟩ := List.mk_mem_zipIdx_iff_le_and_getElem?_sub.1 (List.mem_of_mem_filter hx)
  exact List.mem_of_getElem? hi

/-- The first span, with all before it and all after it. -/
theorem outsideFrom_cons {t : Text} {cursor : Nat} {w : Nat × Nat} {ws : List (Nat × Nat)}
    (hc : cursor ≤ w.1) (hw : w.1 ≤ w.2) (ht : w.2 ≤ t.length) (hws : ∀ v ∈ ws, w.2 ≤ v.1) :
    outsideFrom cursor (w :: ws) (t.drop cursor) =
      slice t cursor w.1 ++ outsideFrom w.2 ws (t.drop w.2) := by
  have hkept : outsideFrom cursor (w :: ws) (slice t cursor w.1) = slice t cursor w.1 := by
    refine outsideFrom_eq_self fun i _ hi => ?_
    rw [length_slice (by omega)] at hi
    rintro ⟨v, hv, hle, hlt⟩
    rcases List.mem_cons.1 hv with rfl | hv
    · omega
    · have := hws v hv
      omega
  have hgone : outsideFrom w.1 (w :: ws) (slice t w.1 w.2) = [] := by
    refine outsideFrom_eq_nil fun i hle hi => ⟨w, List.mem_cons_self, hle, ?_⟩
    rw [length_slice ht] at hi
    omega
  have hrest : outsideFrom w.2 (w :: ws) (t.drop w.2) = outsideFrom w.2 ws (t.drop w.2) := by
    refine outsideFrom_congr fun i hi => ⟨?_, ?_⟩
    · rintro ⟨v, hv, hle, hlt⟩
      rcases List.mem_cons.1 hv with rfl | hv
      · omega
      · exact ⟨v, hv, hle, hlt⟩
    · rintro ⟨v, hv, h⟩
      exact ⟨v, List.mem_cons_of_mem w hv, h⟩
  rw [drop_eq_slice_append hc, outsideFrom_append, hkept, length_slice (by omega),
    Nat.add_sub_cancel' hc, drop_eq_slice_append hw, outsideFrom_append, hgone, length_slice ht,
    Nat.add_sub_cancel' hw, hrest, List.nil_append]

/-! ### Windows -/

/-- The spans that go when the given spans are taken out from `cursor` on: each is widened. -/
def windows (t : Text) (cursor : Nat) : List (Nat × Nat) → List (Nat × Nat)
  | [] => []
  | (start, stop) :: spans =>
    let w := widen t cursor start stop
    w :: windows t w.2 spans

/-- The span lies in the text and starts with a character that is no blank. -/
def Solid (t : Text) (s : Nat × Nat) : Prop :=
  s.1 < s.2 ∧ s.2 ≤ t.length ∧ ∃ c, t[s.1]? = some c ∧ isBlank c = false

/-- The spans stand one after the other in the text from `cursor` on. -/
structure Laid (t : Text) (cursor : Nat) (spans : List (Nat × Nat)) : Prop where
  solid : ∀ s ∈ spans, Solid t s
  cursor_le : ∀ s ∈ spans, cursor ≤ s.1
  pairwise : spans.Pairwise fun s s' => s.2 ≤ s'.1

section

variable {t : Text} {cursor start stop i : Nat} {spans : List (Nat × Nat)}

/-- What goes before a span are blanks on its line. -/
theorem before_of_widen (h : (widen t cursor start stop).1 ≤ i) (hi : i < start) :
    lineStart t start ≤ i ∧ ∀ c, t[i]? = some c → isBlank c := by
  rw [widen] at h
  split at h
  · rename_i hb
    exact ⟨by omega, fun c hc => blank_slice_iff.1 hb i c h hi hc⟩
  · omega

/-- What goes after a span are blanks up to the end of its line. -/
theorem after_of_widen (h : i < (widen t cursor start stop).2) (hi : stop ≤ i) :
    i ≤ lineEnd t stop ∧ i < t.length ∧ Text.blank (slice t stop (lineEnd t stop)) := by
  rw [widen] at h
  dsimp only at h
  split at h
  · rename_i hb
    exact ⟨by omega, by omega, hb⟩
  · omega

theorem isBlank_of_after_widen {c : Char} (ht : stop ≤ t.length)
    (h : i < (widen t cursor start stop).2) (hi : stop ≤ i) (hc : t[i]? = some c) : isBlank c := by
  obtain ⟨hle, hlt, hb⟩ := after_of_widen h hi
  rcases Nat.lt_or_eq_of_le hle with hend | rfl
  · exact blank_slice_iff.1 hb i c hi hend hc
  · rw [(lineEnd_spec ht).2.2.2 hlt] at hc
    cases hc
    decide

theorem widen_bounds {s : Nat × Nat} (hs : Solid t s) (hc : cursor ≤ s.1) :
    cursor ≤ (widen t cursor s.1 s.2).1 ∧ (widen t cursor s.1 s.2).1 ≤ s.1 ∧
      s.2 ≤ (widen t cursor s.1 s.2).2 ∧ (widen t cursor s.1 s.2).2 ≤ t.length := by
  obtain ⟨hlt, ht, -⟩ := hs
  have hstart := (lineFeed_notMem_lineStart (show s.1 ≤ t.length by omega)).1
  obtain ⟨hend, hend', -⟩ := lineEnd_spec ht
  rw [widen]
  dsimp only
  refine ⟨?_, ?_, ?_, ?_⟩ <;> split <;> omega

/-- A window ends before the next span, which does not start with a blank. -/
theorem widen_le {s : Nat × Nat} (ht : stop ≤ t.length) (hs : Solid t s) (h : stop ≤ s.1) :
    (widen t cursor start stop).2 ≤ s.1 := by
  obtain ⟨-, -, c, hc, hb⟩ := hs
  by_contra hlt
  rw [isBlank_of_after_widen ht (Nat.lt_of_not_le hlt) h hc] at hb
  cases hb

namespace Laid

theorem tail {s : Nat × Nat} (h : Laid t cursor (s :: spans)) :
    Laid t (widen t cursor s.1 s.2).2 spans := by
  obtain ⟨hsolid, -, hpair⟩ := h
  obtain ⟨hs, hpair⟩ := List.pairwise_cons.1 hpair
  refine ⟨fun s' hs' => hsolid s' (List.mem_cons_of_mem s hs'), fun s' hs' => ?_, hpair⟩
  exact widen_le (hsolid s List.mem_cons_self).2.1 (hsolid s' (List.mem_cons_of_mem s hs'))
    (hs s' hs')

/-- Every window is a span that was widened. -/
theorem exists_of_mem_windows (h : Laid t cursor spans) {w : Nat × Nat}
    (hw : w ∈ windows t cursor spans) :
    ∃ s ∈ spans, ∃ c, cursor ≤ c ∧ c ≤ s.1 ∧ w = widen t c s.1 s.2 := by
  induction spans generalizing cursor with
  | nil => cases hw
  | cons s spans ih =>
    have hc := h.cursor_le s List.mem_cons_self
    rcases List.mem_cons.1 hw with rfl | hw
    · exact ⟨s, List.mem_cons_self, cursor, Nat.le_refl _, hc, rfl⟩
    · obtain ⟨s', hs', c, hle, hc', rfl⟩ := ih h.tail hw
      obtain ⟨h₁, h₂, h₃, -⟩ := widen_bounds (h.solid s List.mem_cons_self) hc
      have := (h.solid s List.mem_cons_self).1
      exact ⟨s', List.mem_cons_of_mem s hs', c, by omega, hc', rfl⟩

/-- Every span is widened to a window. -/
theorem exists_mem_windows (h : Laid t cursor spans) {s : Nat × Nat} (hs : s ∈ spans) :
    ∃ c, c ≤ s.1 ∧ widen t c s.1 s.2 ∈ windows t cursor spans := by
  induction spans generalizing cursor with
  | nil => cases hs
  | cons s' spans ih =>
    rcases List.mem_cons.1 hs with rfl | hs
    · exact ⟨cursor, h.cursor_le s List.mem_cons_self, List.mem_cons_self⟩
    · obtain ⟨c, hc, hw⟩ := ih h.tail hs
      exact ⟨c, hc, List.mem_cons_of_mem _ hw⟩

/-- What is left is what stands outside the windows. -/
theorem stripFrom_eq (h : Laid t cursor spans) :
    stripFrom t cursor spans = outsideFrom cursor (windows t cursor spans) (t.drop cursor) := by
  induction spans generalizing cursor with
  | nil => exact (outsideFrom_eq_self fun i _ _ ⟨s, hs, _⟩ => by cases hs).symm
  | cons s spans ih =>
    have hs := h.solid s List.mem_cons_self
    obtain ⟨h₁, h₂, h₃, h₄⟩ := widen_bounds hs (h.cursor_le s List.mem_cons_self)
    have hlt := hs.1
    rw [stripFrom, windows, outsideFrom_cons h₁ (by omega) h₄, ih h.tail]
    intro v hv
    obtain ⟨s', hs', c, hle, hc, rfl⟩ := h.tail.exists_of_mem_windows hv
    have := (widen_bounds (h.solid s' (List.mem_cons_of_mem s hs')) hc).1
    omega

theorem covered_windows (h : Laid t cursor spans) (hi : Covered spans i) :
    Covered (windows t cursor spans) i := by
  obtain ⟨s, hs, hle, hlt⟩ := hi
  obtain ⟨cursor', hc, hw⟩ := h.exists_mem_windows hs
  obtain ⟨-, h₂, h₃, -⟩ := widen_bounds (h.solid s hs) hc
  exact ⟨_, hw, by omega, by omega⟩

/-- Of the characters that are not blank, only those in the spans go. -/
theorem covered_windows_iff {c : Char} (h : Laid t cursor spans) (hi : t[i]? = some c)
    (hb : isBlank c = false) :
    Covered (windows t cursor spans) i ↔ Covered spans i := by
  refine ⟨?_, h.covered_windows⟩
  rintro ⟨w, hw, hle, hlt⟩
  obtain ⟨s, hs, cursor', -, -, rfl⟩ := h.exists_of_mem_windows hw
  refine ⟨s, hs, ?_, ?_⟩
  · by_contra hlt'
    rw [(before_of_widen hle (by omega)).2 c hi] at hb
    cases hb
  · by_contra hle'
    rw [isBlank_of_after_widen (h.solid s hs).2.1 hlt (by omega) hi] at hb
    cases hb

end Laid

end

/-! ### Directives -/

/-- The directives of a text are laid in it. -/
theorem laid_spans {t : Text} {ds : List Directive} (hd : Directive.findAll t = .ok ds) :
    Laid t 0 (spans ds) := by
  obtain ⟨ls, hs, -⟩ := Directive.findAll_eq_ok_iff.1 hd
  refine ⟨fun s hm => ?_, fun _ _ => Nat.zero_le _,
    List.pairwise_map.2 (Directive.pairwise_of_findAll hd)⟩
  obtain ⟨d, hmem, rfl⟩ := List.mem_map.1 hm
  obtain ⟨s, hin, hstands, -⟩ := Directive.exists_site_of_mem hs hd hmem
  have hle := hin.stop_le
  rw [hstands.stop_eq, (scan_eq_ok_iff.1 hs).1] at hle
  refine ⟨hstands.start_lt_stop, hle, ?_⟩
  obtain ⟨c, hc, hb⟩ := hin.exists_first
  rw [hstands.start_eq, (scan_eq_ok_iff.1 hs).1] at hc
  exact ⟨c, hc, hb⟩

/-- What is left of a text without its directives is what stands outside the windows. -/
theorem strip_eq_outside {t : Text} {ds : List Directive} (hd : Directive.findAll t = .ok ds) :
    strip t (spans ds) = outside (windows t 0 (spans ds)) t :=
  (laid_spans hd).stripFrom_eq

/-! ### Code and blanks -/

/-- The text holds nothing but blanks if no line is left of it. -/
theorem blank_of_trimBlankLines {t : Text} (h : trimBlankLines t = []) : Text.blank t := by
  obtain ⟨before, after, hb, ha, hls⟩ := exists_blankLines (Text.lines t)
  rw [trimBlankLines] at h
  generalize (((Text.lines t).dropWhile Text.blank).reverse.dropWhile Text.blank).reverse = kept
    at h hls
  obtain rfl : kept = [] := by
    by_contra hk
    simp [hk] at h
  have hall : ∀ l ∈ Text.lines t, Text.blank l := by
    rw [hls, List.nil_append]
    exact List.forall_mem_append.2 ⟨hb, ha⟩
  rw [← Text.unlines_lines t]
  cases hl : Text.lines t with
  | nil => rfl
  | cons l ls =>
    rw [hl] at hall
    rw [Text.unlines_cons, Text.blank, List.all_append, Bool.and_eq_true]
    refine ⟨hall l List.mem_cons_self, Text.blank_flatMap fun k hk => ?_⟩
    rw [Text.blank, List.all_cons, Bool.and_eq_true]
    exact ⟨by decide, hall k (List.mem_cons_of_mem l hk)⟩

theorem filter_of_blank {t : Text} (h : Text.blank t) : t.filter (!isBlank ·) = [] :=
  List.filter_eq_nil_iff.2 fun c hc => by simp [List.all_eq_true.1 h c hc]

/-- No code goes with the blank lines at the ends. -/
theorem filter_trimBlankLines (t : Text) :
    (trimBlankLines t).filter (!isBlank ·) = t.filter (!isBlank ·) := by
  rcases trimBlankLines_eq t with he | ⟨pre, mid, post, ht, hpre, hpost, -, he⟩
  · rw [filter_of_blank (blank_of_trimBlankLines he), he]
    rfl
  · rw [he, ht, List.filter_append, List.filter_append, List.filter_append, filter_of_blank hpre,
      filter_of_blank hpost, filter_of_blank (t := ['\n']) (by decide), List.nil_append]

/-- What is in a text without blank lines at its ends was there before, or is a line feed. -/
theorem mem_of_mem_trimBlankLines {t : Text} {c : Char} (h : c ∈ trimBlankLines t) :
    c ∈ t ∨ c = '\n' := by
  rcases trimBlankLines_eq t with he | ⟨pre, mid, post, ht, -, -, -, he⟩
  · rw [he] at h
    cases h
  · rw [he, List.mem_append, List.mem_singleton] at h
    exact h.imp (fun hm => by rw [ht]; simp [hm]) id

/-- The text ends with one line feed, and neither its first line nor its last one is blank. -/
def Tidy (t : Text) : Prop :=
  ∃ rest, t = rest ++ ['\n'] ∧ rest.getLast? ≠ some '\n' ∧
    (∃ l ∈ (Text.lines rest).head?, Text.blank l = false) ∧
    ∃ l ∈ (Text.lines rest).getLast?, Text.blank l = false

/-- What is left of a row of lines without the blank ones at its ends starts and ends with lines
that are not blank. -/
theorem ends_of_blankLines {ls kept : List Text} (hne : kept ≠ [])
    (hk : kept = ((ls.dropWhile Text.blank).reverse.dropWhile Text.blank).reverse) :
    (∃ l ∈ kept.head?, Text.blank l = false) ∧ ∃ l ∈ kept.getLast?, Text.blank l = false := by
  constructor
  · obtain ⟨after, ha⟩ : kept <+: ls.dropWhile Text.blank := by
      rw [hk, ← List.reverse_suffix, List.reverse_reverse]
      exact List.dropWhile_suffix _
    cases kept with
    | nil => exact absurd rfl hne
    | cons l kept =>
      refine ⟨l, rfl, @eq_false_of_head?_dropWhile _ _ ls _ ?_⟩
      rw [← ha]
      rfl
  · cases hl : kept.getLast? with
    | none => exact absurd (List.getLast?_eq_none_iff.1 hl) hne
    | some l =>
      rw [hk, List.getLast?_reverse] at hl
      exact ⟨l, rfl, eq_false_of_head?_dropWhile hl⟩

theorem tidy_trimBlankLines (t : Text) : trimBlankLines t = [] ∨ Tidy (trimBlankLines t) := by
  obtain ⟨before, after, -, -, hls⟩ := exists_blankLines (Text.lines t)
  rw [trimBlankLines]
  generalize hk : (((Text.lines t).dropWhile Text.blank).reverse.dropWhile Text.blank).reverse =
    kept at hls
  by_cases hne : kept = []
  · exact .inl (by rw [hne]; rfl)
  · right
    rw [if_neg (by simpa using hne)]
    have hlines : ∀ l ∈ kept, '\n' ∉ l := fun l hl hm => by
      have hmem : l ∈ Text.lines t := by rw [hls]; simp [hl]
      simpa using Text.eq_false_of_mem_splitOnP hmem hm
    have hrest : Text.lines (Text.unlines kept) = kept := List.splitOn_intercalate '\n' hlines hne
    obtain ⟨hfirst, l, hl, hb⟩ := ends_of_blankLines hne hk.symm
    refine ⟨Text.unlines kept, rfl, ?_, by rwa [hrest], l, by rwa [hrest], hb⟩
    -- the last line is not empty, so it is not a line feed that the text ends with
    obtain ⟨ks, rfl⟩ := List.getLast?_eq_some_iff.1 hl
    have hlne : l ≠ [] := by
      rintro rfl
      cases hb
    rw [Text.unlines_append_right (by simp), Text.unlines, List.intercalate_singleton,
      List.getLast?_append_of_ne_nil _ hlne]
    exact fun hm => hlines l (by simp) (List.mem_of_getLast? hm)

/-- The body of a source holds the code of the source outside its directives, all of it and in
order. It has no carriage returns, and it is empty or tidy. -/
theorem code_of_clean {content body : Text} (h : clean content = .ok body) :
    ∃ ds, Directive.findAll (Text.unifyNewlines content) = .ok ds ∧
      body.filter (!isBlank ·) =
        (outside (spans ds) (Text.unifyNewlines content)).filter (!isBlank ·) ∧
      '\r' ∉ body ∧ (body = [] ∨ Tidy body) := by
  obtain ⟨ds, hd, rfl⟩ := map_eq_ok_iff.1 h
  refine ⟨ds, hd, ?_, fun hm => ?_, tidy_trimBlankLines _⟩
  · rw [filter_trimBlankLines, strip_eq_outside hd]
    refine filter_outsideFrom_congr fun i c _ hi hb => ?_
    exact (laid_spans hd).covered_windows_iff hi (by simpa using hb)
  · rcases mem_of_mem_trimBlankLines hm with hm | hm
    · rw [strip_eq_outside hd] at hm
      exact Text.return_notMem_unifyNewlines content (mem_of_mem_outside hm)
    · cases hm

/-- A source with a directive on a line of its own, and one that shares its line. -/
def sharedLine : Text := "\r\npragma solidity 1.0;\r\nx; import 'a'; y;\n\n".toList

theorem code_of_clean_sharedLine :
    clean sharedLine = .ok "x;  y;\n".toList ∧
      (∃ ds, Directive.findAll (Text.unifyNewlines sharedLine) = .ok ds ∧ "x;y;".toList =
        (outside (spans ds) (Text.unifyNewlines sharedLine)).filter (!isBlank ·)) ∧
      Tidy "x;  y;\n".toList := by
  have hc : clean sharedLine = .ok "x;  y;\n".toList := by decide +kernel
  obtain ⟨ds, hd, hcode, -, htidy⟩ := code_of_clean hc
  exact ⟨hc, ⟨ds, hd, hcode⟩, htidy.resolve_left (by decide)⟩

/-! ### Cleaning again -/

/-- Nothing is dropped from a row that starts with something to keep. -/
theorem dropWhile_eq_self {α : Type} {p : α → Bool} {xs : List α} {x : α} (hx : x ∈ xs.head?)
    (h : p x = false) : xs.dropWhile p = xs := by
  obtain ⟨ys, rfl⟩ := List.head?_eq_some_iff.1 (Option.mem_def.1 hx)
  exact List.dropWhile_cons_of_neg (by simp [h])

/-- A tidy text has no blank lines at its ends. -/
theorem trimBlankLines_of_tidy {t : Text} (h : Tidy t) : trimBlankLines t = t := by
  obtain ⟨rest, rfl, -, ⟨first, hfirst, hf⟩, last, hlast, hl⟩ := h
  have hlines : Text.lines (rest ++ ['\n']) = Text.lines rest ++ [[]] :=
    List.splitOnP_append_cons rest [] (by simp)
  have hbefore : (Text.lines rest ++ [[]]).dropWhile Text.blank = Text.lines rest ++ [[]] := by
    refine dropWhile_eq_self (x := first) ?_ hf
    rw [List.head?_append, Option.mem_def.1 hfirst]
    rfl
  have hafter : (Text.lines rest).reverse.dropWhile Text.blank = (Text.lines rest).reverse :=
    dropWhile_eq_self (by rwa [List.head?_reverse]) hl
  have hne : (Text.lines rest).isEmpty = false := by
    cases he : Text.lines rest with
    | nil => rw [he] at hfirst; cases hfirst
    | cons l ls => rfl
  rw [trimBlankLines, hlines, hbefore, List.reverse_append]
  -- the empty line after the last line feed is the one that goes, and comes back with it
  have hlast : ([[]].reverse ++ (Text.lines rest).reverse).dropWhile Text.blank =
      (Text.lines rest).reverse := hafter
  rw [hlast, List.reverse_reverse, hne, Text.unlines_lines]
  rfl

theorem trimBlankLines_trimBlankLines (t : Text) :
    trimBlankLines (trimBlankLines t) = trimBlankLines t := by
  rcases tidy_trimBlankLines t with h | h
  · rw [h]
    rfl
  · exact trimBlankLines_of_tidy h

theorem return_notMem_of_clean {content body : Text} (h : clean content = .ok body) :
    '\r' ∉ body := by
  obtain ⟨ds, hd, rfl⟩ := map_eq_ok_iff.1 h
  intro hm
  rcases mem_of_mem_trimBlankLines hm with hm | hm
  · rw [strip_eq_outside hd] at hm
    exact Text.return_notMem_unifyNewlines content (mem_of_mem_outside hm)
  · cases hm

/-- A body is clean already and holds no directives, if no directive was taken out right after a
slash of code. -/
theorem clean_clean {content body : Text} (h : clean content = .ok body)
    (hs : Directive.NoneAfterSlash (Text.unifyNewlines content)) :
    Directive.findAll body = .ok [] ∧ clean body = .ok body := by
  have hfound := (inert_of_clean h hs).findAll
  refine ⟨hfound, ?_⟩
  rw [clean, Text.unifyNewlines_eq_self (return_notMem_of_clean h), hfound]
  obtain ⟨ds, -, rfl⟩ := map_eq_ok_iff.1 h
  exact congrArg Except.ok (trimBlankLines_trimBlankLines _)

/-- A source with directives, another pragma and a division on its lines. -/
def crowdedLines : Text := "pragma solidity 1;\r\npragma v2; import 'a';\ny / z;\n\n".toList

theorem clean_clean_crowdedLines :
    clean crowdedLines = .ok "pragma v2; y / z;\n".toList ∧
      Directive.NoneAfterSlash (Text.unifyNewlines crowdedLines) ∧
      clean "pragma v2; y / z;\n".toList = .ok "pragma v2; y / z;\n".toList := by
  have h : clean crowdedLines = .ok "pragma v2; y / z;\n".toList := by decide +kernel
  have hs : Directive.NoneAfterSlash (Text.unifyNewlines crowdedLines) := by decide +kernel
  exact ⟨h, hs, (clean_clean h hs).2⟩

-- a directive between a slash and a star, which open a comment without it
example : clean "/import 'a';* x".toList = .ok "/* x\n".toList ∧
    (clean "/* x\n".toList).toOption = none := by decide +kernel

end Body

/-! ### Line feeds -/

/-- The line feed at `i` ends the line on which the directive ends, and only blanks stand between
them. -/
structure Directive.EndsLine (t : Text) (d : Directive) (i : Nat) : Prop where
  lineFeed : t[i]? = some '\n'
  stop_le : d.stop ≤ i
  sameLine : '\n' ∉ Body.slice t d.stop i
  blank : Text.blank (Body.slice t d.stop i)

namespace Body

/-- Nothing but blanks is left of the line that ends at `i`, when the directives are taken out. -/
def Emptied (t : Text) (ds : List Directive) (i : Nat) : Prop :=
  ∀ k c, lineStart t i ≤ k → k < i → ¬ Covered (spans ds) k → t[k]? = some c → isBlank c

variable {t : Text} {ds : List Directive} {d : Directive} {i : Nat}

theorem covered_spans_iff : Covered (spans ds) i ↔ ∃ d ∈ ds, d.start ≤ i ∧ i < d.stop := by
  constructor
  · rintro ⟨s, hs, h⟩
    obtain ⟨d, hd, rfl⟩ := List.mem_map.1 hs
    exact ⟨d, hd, h⟩
  · rintro ⟨d, hd, h⟩
    exact ⟨_, List.mem_map.2 ⟨d, hd, rfl⟩, h⟩

/-- The first line feed after a place is the end of its line. -/
theorem eq_lineEnd {b : Nat} (hb : b ≤ i) (hi : t[i]? = some '\n') (hn : '\n' ∉ slice t b i) :
    i = lineEnd t b := by
  obtain ⟨hlt, -⟩ := List.getElem?_eq_some_iff.1 hi
  obtain ⟨hle, -, hnone, hend⟩ := lineEnd_spec (show b ≤ t.length by omega)
  rcases Nat.lt_trichotomy i (lineEnd t b) with h | h | h
  · exact absurd (mem_slice.2 ⟨i, hb, h, hi⟩) hnone
  · exact h
  · exact absurd (mem_slice.2 ⟨lineEnd t b, hle, h, hend (by omega)⟩) hn

/-- Of the line feeds in a slice, one is the first. -/
theorem exists_first_lineFeed {j : Nat} (h : '\n' ∈ slice t i j) :
    ∃ k, i ≤ k ∧ k < j ∧ t[k]? = some '\n' ∧ '\n' ∉ slice t i k := by
  obtain ⟨m, him, hmj, hm⟩ := mem_slice.1 h
  obtain ⟨hlt, -⟩ := List.getElem?_eq_some_iff.1 hm
  obtain ⟨hle, -, hnone, hend⟩ := lineEnd_spec (show i ≤ t.length by omega)
  have hfirst : lineEnd t i ≤ m := by
    by_contra hlt'
    exact hnone (mem_slice.2 ⟨m, him, by omega, hm⟩)
  exact ⟨lineEnd t i, hle, by omega, hend (by omega), hnone⟩

/-- The line feed after a directive with nothing behind it goes, and no other one outside the
directives does. -/
theorem covered_windows_lineFeed_iff (hd : Directive.findAll t = .ok ds) (hi : t[i]? = some '\n')
    (hc : ¬ Covered (spans ds) i) :
    Covered (windows t 0 (spans ds)) i ↔ ∃ d ∈ ds, d.EndsLine t i := by
  have hlaid := laid_spans hd
  constructor
  · rintro ⟨w, hw, hle, hlt⟩
    obtain ⟨s, hs, cursor, -, -, rfl⟩ := hlaid.exists_of_mem_windows hw
    obtain ⟨d, hm, rfl⟩ := List.mem_map.1 hs
    obtain ⟨hspan, hlen, -⟩ := hlaid.solid _ hs
    dsimp only at hle hlt hspan hlen
    have hstart : d.start ≤ i := by
      -- no line feed stands before the directive on its line
      by_contra hlt'
      obtain ⟨-, hnone⟩ := lineFeed_notMem_lineStart (show d.start ≤ t.length by omega)
      obtain ⟨hline, -⟩ := before_of_widen hle (by omega)
      exact hnone (mem_slice.2 ⟨i, hline, by omega, hi⟩)
    have hstop : d.stop ≤ i := by
      by_contra hlt'
      exact hc (covered_spans_iff.2 ⟨d, hm, hstart, by omega⟩)
    obtain ⟨hend, -, hb⟩ := after_of_widen hlt hstop
    obtain ⟨-, -, hnone, -⟩ := lineEnd_spec hlen
    obtain rfl : i = lineEnd t d.stop := by
      rcases Nat.lt_or_eq_of_le hend with h | h
      · exact absurd (mem_slice.2 ⟨i, hstop, h, hi⟩) hnone
      · exact h
    exact ⟨d, hm, hi, hstop, hnone, hb⟩
  · rintro ⟨d, hm, -, hstop, hnone, hb⟩
    have hs : (d.start, d.stop) ∈ spans ds := List.mem_map.2 ⟨d, hm, rfl⟩
    obtain ⟨cursor, hcursor, hw⟩ := hlaid.exists_mem_windows hs
    obtain ⟨-, hfst, -⟩ := widen_bounds (hlaid.solid _ hs) hcursor
    have hspan := (hlaid.solid _ hs).1
    obtain ⟨hlt, -⟩ := List.getElem?_eq_some_iff.1 hi
    dsimp only at hfst hspan hw
    refine ⟨_, hw, by omega, ?_⟩
    rw [eq_lineEnd hstop hi hnone] at hb hlt
    rw [widen]
    dsimp only
    rw [if_pos hb, eq_lineEnd hstop hi hnone]
    omega

/-- The line feed after a directive with nothing behind it stands in no other one. -/
theorem not_covered_of_endsLine (hd : Directive.findAll t = .ok ds) (hm : d ∈ ds)
    (h : d.EndsLine t i) : ¬ Covered (spans ds) i := by
  intro hc
  obtain ⟨e, he, hle, hlt⟩ := covered_spans_iff.1 hc
  obtain ⟨hi, hstop, -, hb⟩ := h
  obtain ⟨hspan, -⟩ := (laid_spans hd).solid _ (List.mem_map.2 ⟨d, hm, rfl⟩)
  obtain ⟨-, -, c, hfirst, hnot⟩ := (laid_spans hd).solid _ (List.mem_map.2 ⟨e, he, rfl⟩)
  dsimp only at hspan hfirst
  have hblank : isBlank c := by
    rcases Nat.lt_or_eq_of_le hle with hbefore | rfl
    · rcases apart_of_pairwise (Directive.pairwise_of_findAll hd) hm he with rfl | h | h
      · omega
      · exact blank_slice_iff.1 hb _ c h hbefore hfirst
      · omega
    · rw [hi] at hfirst
      cases hfirst
      decide
  rw [hblank] at hnot
  cases hnot

/-- Where the text of two lines is joined, a directive follows the first text on its line. -/
theorem exists_directive_of_joined (hd : Directive.findAll t = .ok ds) {j : Nat} {c : Char}
    (hi : t[i]? = some c) (hb : isBlank c = false) (hci : ¬ Covered (windows t 0 (spans ds)) i)
    (hcj : ¬ Covered (windows t 0 (spans ds)) j) (hn : '\n' ∈ slice t i j)
    (hgone : ∀ k, i < k → k < j → t[k]? = some '\n' → Covered (windows t 0 (spans ds)) k) :
    ∃ d ∈ ds, i < d.start ∧ d.stop ≤ j ∧ '\n' ∉ slice t i d.start := by
  have hlaid := laid_spans hd
  obtain ⟨k, hle, hkj, hk, hfirst⟩ := exists_first_lineFeed hn
  have hik : i < k := by
    rcases Nat.lt_or_eq_of_le hle with h | rfl
    · exact h
    · rw [hi] at hk
      cases hk
      exact absurd hb (by decide)
  -- the directive with which it goes does not hold the place, which is left
  have hafter : ∀ d ∈ ds, d.start ≤ k → i < d.stop → i < d.start ∧ '\n' ∉ slice t i d.start := by
    intro d hm hle hlt
    refine ⟨?_, fun hmem => hfirst ?_⟩
    · by_contra hle'
      exact hci (hlaid.covered_windows (covered_spans_iff.2 ⟨d, hm, by omega, hlt⟩))
    · obtain ⟨m, h₁, h₂, hm'⟩ := mem_slice.1 hmem
      exact mem_slice.2 ⟨m, h₁, by omega, hm'⟩
  by_cases hc : Covered (spans ds) k
  · obtain ⟨d, hm, hle, hlt⟩ := covered_spans_iff.1 hc
    obtain ⟨hstart, hline⟩ := hafter d hm hle (by omega)
    refine ⟨d, hm, hstart, ?_, hline⟩
    by_contra hlt'
    exact hcj (hlaid.covered_windows (covered_spans_iff.2 ⟨d, hm, by omega, by omega⟩))
  · obtain ⟨d, hm, -, hstop, -, hblank⟩ :=
      (covered_windows_lineFeed_iff hd hk hc).1 (hgone k hik hkj hk)
    have hlt : i < d.stop := by
      by_contra hle
      rw [blank_slice_iff.1 hblank i c (by omega) hik hi] at hb
      cases hb
    have hspan := (hlaid.solid _ (List.mem_map.2 ⟨d, hm, rfl⟩)).1
    dsimp only at hspan
    obtain ⟨hstart, hline⟩ := hafter d hm (by omega) hlt
    exact ⟨d, hm, hstart, by omega, hline⟩

/-- A line feed outside the directives goes exactly if a directive stands before it on its line with
nothing but blanks between them. So it goes only with a line that is emptied exactly if every
directive that ends its line shares it with nothing but directives and blanks. Where the text of two
lines is joined, a directive follows the first text on its line. -/
theorem lineFeeds_of_strip (hd : Directive.findAll t = .ok ds) :
    strip t (spans ds) = outside (windows t 0 (spans ds)) t ∧
    (∀ i, t[i]? = some '\n' → ¬ Covered (spans ds) i →
      (Covered (windows t 0 (spans ds)) i ↔ ∃ d ∈ ds, d.EndsLine t i)) ∧
    ((∀ i, t[i]? = some '\n' → ¬ Covered (spans ds) i → Covered (windows t 0 (spans ds)) i →
      Emptied t ds i) ↔ ∀ d ∈ ds, ∀ i, d.EndsLine t i → Emptied t ds i) ∧
    ∀ i j c, t[i]? = some c → isBlank c = false → ¬ Covered (windows t 0 (spans ds)) i →
      ¬ Covered (windows t 0 (spans ds)) j → '\n' ∈ slice t i j →
      (∀ k, i < k → k < j → t[k]? = some '\n' → Covered (windows t 0 (spans ds)) k) →
      ∃ d ∈ ds, i < d.start ∧ d.stop ≤ j ∧ '\n' ∉ slice t i d.start := by
  refine ⟨strip_eq_outside hd, fun i hi hc => covered_windows_lineFeed_iff hd hi hc, ⟨?_, ?_⟩,
    fun i j c hi hb hci hcj hn hgone => exists_directive_of_joined hd hi hb hci hcj hn hgone⟩
  · intro h d hm i he
    have hc := not_covered_of_endsLine hd hm he
    exact h i he.lineFeed hc ((covered_windows_lineFeed_iff hd he.lineFeed hc).2 ⟨d, hm, he⟩)
  · intro h i hi hc hw
    obtain ⟨d, hm, he⟩ := (covered_windows_lineFeed_iff hd hi hc).1 hw
    exact h d hm i he

/-- A source with a directive that ends a line with other text. -/
def joinedLines : Text := "x import 'a';\ny\n".toList

theorem lineFeeds_of_strip_joinedLines :
    Directive.findAll joinedLines = .ok [⟨.imports, ['a'], 2, 13, 1⟩] ∧
      Covered (windows joinedLines 0 [(2, 13)]) 13 ∧
      ¬ Covered (windows joinedLines 0 [(2, 13)]) 15 := by
  have hd : Directive.findAll joinedLines = .ok [⟨.imports, ['a'], 2, 13, 1⟩] := by decide +kernel
  obtain ⟨-, hfeeds, -⟩ := lineFeeds_of_strip hd
  refine ⟨hd, (hfeeds 13 (by decide) (by decide)).2 ⟨_, List.mem_cons_self, ?_⟩, ?_⟩
  · exact ⟨by decide, by decide, by decide, by decide⟩
  · rw [show [(2, 13)] = spans [⟨.imports, ['a'], 2, 13, 1⟩] from rfl,
      hfeeds 15 (by decide) (by decide)]
    rintro ⟨d, hm, -, -, -, hb⟩
    obtain rfl := List.mem_singleton.1 hm
    exact absurd hb (by decide)

/-- The line feed goes although its line keeps text, and the next line is joined to that text. -/
theorem strip_joinedLines :
    Directive.findAll joinedLines = .ok [⟨.imports, ['a'], 2, 13, 1⟩] ∧
      joinedLines[13]? = some '\n' ∧ ¬ Covered [(2, 13)] 13 ∧
      strip joinedLines [(2, 13)] = "x y\n".toList ∧
      ¬ Emptied joinedLines [⟨.imports, ['a'], 2, 13, 1⟩] 13 := by
  have hd : Directive.findAll joinedLines = .ok [⟨.imports, ['a'], 2, 13, 1⟩] := by decide +kernel
  refine ⟨hd, by decide, by decide, by decide, fun h => ?_⟩
  exact absurd (h 0 'x' (by decide) (by decide) (by decide) (by decide)) (by decide)

end Body

end Flattener
