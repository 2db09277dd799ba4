import Mathlib.Data.List.Basic
import Flattener.Proofs.Scan
import Flattener.Source.Directive

/-!
# The lexical automaton

The scanner looks ahead for the end of each comment and literal. The same can be said of a machine
that reads one character after the other and has a handful of states: it stands in code, in a
comment, in a literal, or after a character whose meaning hangs on the next one. What a character
belongs to is seen in the states around it (`Automaton.partAt`), and masking shows each character
accordingly.

The two agree on every text. A cut takes the automaton from code back to code, lexeme by lexeme
(`Automaton.shows_text`), and a comment or literal that never closes holds it to the end of the text
(`Automaton.Stays.within`). `Automaton.mask_agrees` puts this together: a text can be masked exactly
if the automaton ends outside block comments and literals, and otherwise the fault is where it is
held.
-/

namespace Flattener.Automaton

/-- Where a reader stands after some characters. -/
inductive State where
  | code
  /-- In code, after a slash that a comment may start with. -/
  | slash
  | lineComment
  | blockComment
  /-- In a block comment, after a star that it may end with. -/
  | star
  | literal (quote : Char)
  /-- In a literal, after a backslash that takes the next character. -/
  | escape (quote : Char)
  /-- After a line feed in a literal that no backslash takes. -/
  | broken
  deriving DecidableEq, Repr

namespace State

/-- Reads one character. -/
def next : State → Char → State
  | code, c => if c = '/' then slash else if isQuote c then literal c else code
  | slash, c =>
    if c = '/' then lineComment else if c = '*' then blockComment
    else if isQuote c then literal c else code
  | lineComment, c => if c = '\n' then code else lineComment
  | blockComment, c => if c = '*' then star else blockComment
  | star, c => if c = '/' then code else if c = '*' then star else blockComment
  | literal quote, c =>
    if c = '\\' then escape quote else if c = quote then code
    else if c = '\n' then broken else literal quote
  | escape quote, _ => literal quote
  | broken, _ => broken

/-- Reads a text. -/
def after (s : State) (t : Text) : State := t.foldl next s

/-- A text may end here: outside block comments and literals. -/
def closed : State → Bool
  | code | slash | lineComment => true
  | _ => false

/-- In code, where a comment or a literal may start. -/
def inCode : State → Bool
  | code | slash => true
  | _ => false

/-- Within a comment or literal of the kind. -/
def within : State → Opening → Bool
  | blockComment, .blockComment | star, .blockComment => true
  | literal _, .literal | escape _, .literal | broken, .literal => true
  | _, _ => false

@[simp]
theorem after_nil (s : State) : s.after [] = s := rfl

@[simp]
theorem after_cons (s : State) (c : Char) (t : Text) : s.after (c :: t) = (s.next c).after t := rfl

@[simp]
theorem after_append (s : State) (t u : Text) : s.after (t ++ u) = (s.after t).after u :=
  List.foldl_append

theorem next_quote {c : Char} (h : isQuote c) : code.next c = literal c :=
  (if_neg (ne_slash_of_isQuote h)).trans (if_pos h)

theorem next_inside {quote c : Char} (hb : c ≠ '\\') (hq : c ≠ quote) (hn : c ≠ '\n') :
    (literal quote).next c = literal quote :=
  (if_neg hb).trans ((if_neg hq).trans (if_neg hn))

@[simp]
theorem after_broken (t : Text) : broken.after t = broken := by
  induction t with
  | nil => rfl
  | cons c t ih => exact ih

end State

/-- The state after the first `i` characters of a text. -/
def stateAt (t : Text) (i : Nat) : State := State.code.after (t.take i)

/-- What a character belongs to. -/
inductive Part where
  | code
  | lineComment
  | blockComment
  /-- The inside of a literal, without its quotes. -/
  | inside
  deriving DecidableEq, Repr

/-- What a character belongs to that is read in state `before` and leads to `after`, where `later`
is the state after one character more. Only a slash that may start a comment needs the last one. -/
def partOf (before after later : State) : Part :=
  match before, after, later with
  | _, .lineComment, _ => .lineComment
  | _, .slash, .lineComment => .lineComment
  | _, .slash, .blockComment => .blockComment
  | _, .blockComment, _ => .blockComment
  | _, .star, _ => .blockComment
  | .star, _, _ => .blockComment
  | .literal _, .literal _, _ => .inside
  | .literal _, .escape _, _ => .inside
  | .escape _, _, _ => .inside
  | _, _, _ => .code

/-- What the character at `i` belongs to. -/
def partAt (t : Text) (i : Nat) : Part :=
  partOf (stateAt t i) (stateAt t (i + 1)) (stateAt t (i + 2))

/-- How a character is shown in the masked text. -/
def Part.mask : Part → Char → Char
  | code, c => c
  | lineComment, _ => ' '
  | blockComment, c => if c = '\n' then '\n' else ' '
  | inside, _ => '_'

/-- What a comment or literal of the given kind starts with. -/
def marks : Opening → List Text
  | .blockComment => ["/*".toList]
  | .literal => ["\"".toList, "'".toList]

/-- The comment or literal starts in code, and the automaton is held in it up to the end of the
text. -/
structure NeverCloses (t : Text) (u : Unclosed) : Prop where
  inCode : (stateAt t u.offset).inCode
  held : ∃ mark ∈ marks u.opening, mark <+: t.drop u.offset ∧
    ∀ k, u.offset + mark.length ≤ k → (stateAt t k).within u.opening

/-! ### Showing a text -/

/-- The text as it is shown when it is read from state `s`. -/
def State.shown (s : State) : Text → Text
  | [] => []
  | c :: t => (partOf s (s.next c) ((s.next c).after (t.take 1))).mask c :: (s.next c).shown t

theorem length_shown (s : State) (t : Text) : (s.shown t).length = t.length := by
  induction t generalizing s with
  | nil => rfl
  | cons c t ih => rw [State.shown, List.length_cons, List.length_cons, ih]

/-- Each character is shown by the states around it. -/
theorem getElem?_shown (s : State) (t : Text) (i : Nat) : (s.shown t)[i]? = t[i]?.map
    (partOf (s.after (t.take i)) (s.after (t.take (i + 1))) (s.after (t.take (i + 2)))).mask := by
  induction t generalizing s i with
  | nil => rfl
  | cons c t ih =>
    cases i with
    | zero => rfl
    | succ i => exact ih (s.next c) i

/-- What the automaton shows is said character by character. -/
theorem eq_shown_iff {t m : Text} : m = State.code.shown t ↔ m.length = t.length ∧
    ∀ i c, t[i]? = some c → m[i]? = some ((partAt t i).mask c) := by
  constructor
  · rintro rfl
    refine ⟨length_shown _ t, fun i c hc => ?_⟩
    rw [getElem?_shown, hc]
    rfl
  · rintro ⟨hlen, h⟩
    refine List.ext_getElem? fun i => ?_
    rw [getElem?_shown]
    cases hc : t[i]? with
    | none =>
      rw [List.getElem?_eq_none_iff] at hc
      exact List.getElem?_eq_none (by omega)
    | some c => exact h i c hc

/-- Reading `u` from `s` leads to `s'` and shows `v`, when `t` follows. -/
structure Shows (s : State) (u v : Text) (s' : State) (t : Text) : Prop where
  after : s.after u = s'
  shown : s.shown (u ++ t) = v ++ s'.shown t

namespace Shows

variable {s s' s'' : State} {u u' v v' t : Text} {c d : Char}

theorem nil : Shows s [] [] s t := ⟨rfl, rfl⟩

theorem cons (hnext : s.next c = s'') (h : Shows s'' u v s' t)
    (hd : (partOf s s'' (s''.after ((u ++ t).take 1))).mask c = d) :
    Shows s (c :: u) (d :: v) s' t := by
  subst hnext
  refine ⟨h.after, ?_⟩
  rw [List.cons_append, State.shown, hd, h.shown, List.cons_append]

theorem append (h : Shows s u v s' (u' ++ t)) (h' : Shows s' u' v' s'' t) :
    Shows s (u ++ u') (v ++ v') s'' t := by
  refine ⟨?_, ?_⟩
  · rw [State.after_append, h.after, h'.after]
  · rw [List.append_assoc, h.shown, h'.shown, List.append_assoc]

end Shows

/-- The text is read from `s` as it is read from code: what is pending does not come about. -/
def Ready (s : State) (t : Text) : Prop :=
  s = .code ∨ (s = .slash ∧ t.head? ≠ some '/' ∧ t.head? ≠ some '*') ∨
    (s = .lineComment ∧ ∀ c ∈ t.head?, c = '\n')

namespace Ready

variable {s s' : State} {t u v : Text} {c : Char}

theorem next_eq (h : Ready s (c :: t)) : s.next c = State.code.next c := by
  rcases h with rfl | ⟨rfl, h1, h2⟩ | ⟨rfl, h⟩
  · rfl
  · have hslash : c ≠ '/' := fun hc => h1 (by rw [hc]; rfl)
    have hstar : c ≠ '*' := fun hc => h2 (by rw [hc]; rfl)
    simp only [State.next, if_neg hslash, if_neg hstar]
  · obtain rfl := h c rfl
    rfl

theorem partOf_eq (h : Ready s t) (after later : State) :
    partOf s after later = partOf .code after later := by
  rcases h with rfl | ⟨rfl, -⟩ | ⟨rfl, -⟩
  · rfl
  · cases after <;> cases later <;> rfl
  · cases after <;> cases later <;> rfl

theorem closed (h : Ready s t) : s.closed := by
  rcases h with rfl | ⟨rfl, -⟩ | ⟨rfl, -⟩ <;> rfl

theorem shows (h : Ready s (c :: u ++ t)) (hs : Shows .code (c :: u) v s' t) :
    Shows s (c :: u) v s' t := by
  have hnext := h.next_eq
  refine ⟨?_, ?_⟩
  · rw [State.after_cons, hnext]
    exact hs.after
  · rw [List.cons_append, State.shown, hnext, h.partOf_eq]
    exact hs.shown

end Ready

/-! ### Lexemes -/

/-- A line comment is shown as spaces. -/
theorem shows_lineComment {body : Text} (h : '\n' ∉ body) (t : Text) :
    Shows .lineComment body (body.map fun _ => ' ') .lineComment t := by
  induction body with
  | nil => exact .nil
  | cons c body ih =>
    rw [List.mem_cons, not_or] at h
    exact .cons (if_neg (Ne.symm h.1)) (ih h.2) rfl

/-- Inside a block comment, and after a star only if no slash follows. -/
def InComment (s : State) (t : Text) : Prop :=
  s = .blockComment ∨ s = .star ∧ t.head? ≠ some '/'

namespace InComment

variable {s s' : State} {c : Char} {t t' : Text}

/-- It makes no difference that a star was read if no slash follows. -/
theorem next_eq (h : InComment s (c :: t)) : s.next c = State.blockComment.next c := by
  rcases h with rfl | ⟨rfl, h⟩
  · rfl
  · exact if_neg fun hc => h (by rw [hc]; rfl)

theorem next (h : InComment s (c :: t)) (hc : c = '*' → t.head? ≠ some '/') :
    InComment (s.next c) t := by
  rw [h.next_eq]
  by_cases hs : c = '*'
  · exact .inr ⟨if_pos hs, hc hs⟩
  · exact .inl (if_neg hs)

theorem partOf_eq (h : InComment s t) (h' : InComment s' t') (later : State) :
    partOf s s' later = .blockComment := by
  rcases h' with rfl | ⟨rfl, -⟩ <;> rcases h with rfl | ⟨rfl, -⟩ <;> rfl

theorem within (h : InComment s t) : s.within .blockComment := by
  rcases h with rfl | ⟨rfl, -⟩ <;> rfl

end InComment

/-- A block comment is shown as spaces and line feeds. -/
theorem shows_blockComment {s : State} {body : Text}
    (h : splitBlockComment (body ++ ['*', '/']) = some (body, []))
    (hs : InComment s (body ++ ['*', '/'])) (t : Text) :
    Shows s (body ++ ['*', '/'])
      ((body.map fun c => if c = '\n' then '\n' else ' ') ++ [' ', ' ']) .code t := by
  induction body generalizing s with
  | nil =>
    have hstar : InComment .star ['*'] := .inr ⟨rfl, by decide⟩
    refine .cons hs.next_eq (.cons rfl .nil rfl) ?_
    exact congrArg (Part.mask · '*') (hs.partOf_eq hstar _)
  | cons c body ih =>
    obtain ⟨hbody, hc⟩ := splitBlockComment_tail h
    have hnext := hs.next hc
    refine .cons rfl (ih hbody hnext) ?_
    rw [hs.partOf_eq hnext]
    rfl

/-- The inside of a literal is hidden, and its closing quote leads back to code. -/
theorem shows_inside {quote : Char} (hq : quote ≠ '\\') {body : Text} (h : Inside quote body)
    (t : Text) : Shows (.literal quote) (body ++ [quote])
      ((body.map fun _ => '_') ++ [quote]) .code t := by
  induction h with
  | nil => exact .cons ((if_neg hq).trans (if_pos rfl)) .nil rfl
  | escape c _ ih => exact .cons rfl (.cons rfl ih rfl) rfl
  | plain hb hc hn _ ih => exact .cons (State.next_inside hb hc hn) ih rfl

/-- A slash of code is seen if it does not start a comment. -/
theorem partOf_slash {t : Text} (h : Ready .slash t) :
    partOf .code .slash (State.slash.after (t.take 1)) = .code := by
  cases t with
  | nil => rfl
  | cons c t =>
    have hnext := h.next_eq
    have hc : c ≠ '/' := by
      rcases h with h | ⟨-, h, -⟩ | ⟨h, -⟩
      · cases h
      · simpa using h
      · cases h
    rw [State.next, if_neg hc] at hnext
    rw [List.take_succ_cons, State.after_cons, hnext]
    split <;> rfl

/-- A lexeme is shown masked, and leads back to code. -/
theorem shows_text {l : Lexeme} {t : Text} (hw : l.WellFormed) (hb : l.EndsBefore t) :
    ∃ s, Shows .code l.text l.masked s t ∧ Ready s t := by
  cases l with
  | code c =>
    by_cases hc : c = '/'
    · subst hc
      have hready : Ready .slash t := .inr (.inl ⟨rfl, hb rfl⟩)
      refine ⟨.slash, .cons rfl .nil ?_, hready⟩
      exact congrArg (Part.mask · '/') (partOf_slash hready)
    · have hq : ¬ isQuote c = true := Bool.eq_false_iff.1 hw
      exact ⟨.code, .cons ((if_neg hc).trans (if_neg hq)) .nil rfl, .inl rfl⟩
  | lineComment body =>
    have hbody := shows_lineComment hw t
    exact ⟨.lineComment, .cons rfl (.cons rfl hbody rfl) rfl, .inr (.inr ⟨rfl, hb⟩)⟩
  | blockComment body =>
    have hbody := shows_blockComment hw (.inl rfl) t
    exact ⟨.code, .cons rfl (.cons rfl hbody rfl) rfl, .inl rfl⟩
  | literal quote body =>
    obtain ⟨hq, hi⟩ := hw
    have hbody := shows_inside (ne_backslash_of_isQuote hq) hi t
    exact ⟨.code, .cons (State.next_quote hq) hbody rfl, .inl rfl⟩

/-- The lexemes of a cut are shown masked, one after the other. -/
theorem shows_flatMap_text {ls : List Lexeme} {t : Text} (h : Lexeme.Cut ls t) {s : State}
    (hs : Ready s (ls.flatMap Lexeme.text ++ t)) :
    ∃ s', Shows s (ls.flatMap Lexeme.text) (ls.flatMap Lexeme.masked) s' t ∧ Ready s' t := by
  induction ls generalizing s with
  | nil => exact ⟨s, .nil, hs⟩
  | cons l ls ih =>
    obtain ⟨hw, hb, hcut⟩ := h
    obtain ⟨s₁, hl, hready⟩ := shows_text hw hb
    obtain ⟨s₂, hls, hready'⟩ := ih hcut hready
    refine ⟨s₂, .append (u := l.text) ?_ hls, hready'⟩
    rw [List.flatMap_cons, List.append_assoc] at hs
    obtain ⟨c, u, hu⟩ := List.exists_cons_of_ne_nil l.text_ne_nil
    rw [hu] at hs hl ⊢
    exact hs.shows hl

/-- A text that can be masked is shown so, and leads to a state in which a text may end. -/
theorem shown_of_mask {t m : Text} (h : mask t = .ok m) :
    m = State.code.shown t ∧ (State.code.after t).closed := by
  obtain ⟨ls, hs, rfl⟩ := map_eq_ok_iff.1 h
  obtain ⟨rfl, hcut⟩ := scan_eq_ok_iff.1 hs
  obtain ⟨s, hshows, hready⟩ := shows_flatMap_text hcut (s := .code) (.inl rfl)
  refine ⟨?_, ?_⟩
  · simpa [State.shown] using hshows.shown.symm
  · rw [hshows.after]
    exact hready.closed

/-! ### Faults -/

/-- What follows the mark does not close the comment or literal that starts with it. -/
def Stays : Opening → Text → Text → Prop
  | .blockComment, mark, t => mark = "/*".toList ∧ splitBlockComment t = none
  | .literal, mark, t => ∃ quote, isQuote quote ∧ mark = [quote] ∧ splitLiteral quote t = none

theorem within_of_splitBlockComment {s : State} {t : Text} (h : splitBlockComment t = none)
    (hs : InComment s t) (j : Nat) : (s.after (t.take j)).within .blockComment := by
  induction t generalizing s j with
  | nil => simpa using hs.within
  | cons c t ih =>
    cases j with
    | zero => exact hs.within
    | succ j =>
      have hc : c = '*' → t.head? ≠ some '/' := by
        rintro rfl ht
        obtain ⟨u, rfl⟩ : ∃ u, t = '/' :: u := List.head?_eq_some_iff.1 ht
        simp [splitBlockComment] at h
      rw [splitBlockComment_cons hc, Option.map_eq_none_iff] at h
      exact ih h (hs.next hc) j

theorem within_of_splitLiteral {quote : Char} {t : Text} (h : splitLiteral quote t = none)
    (j : Nat) : ((State.literal quote).after (t.take j)).within .literal := by
  fun_induction splitLiteral quote t generalizing j with
  | case1 => rw [List.take_nil]; rfl
  | case2 c t ih =>
    rw [Option.map_eq_none_iff] at h
    obtain _ | _ | j := j
    · rfl
    · rfl
    · exact ih h j
  | case3 => cases h
  | case4 c t hescape hquote hc =>
    cases j with
    | zero => rfl
    | succ j =>
      rw [List.take_succ_cons, State.after_cons]
      by_cases hb : c = '\\'
      · -- the backslash is the last character, so that it takes nothing
        obtain rfl : t = [] := by
          cases t with
          | nil => rfl
          | cons d t => exact absurd rfl (hescape d t hb)
        rw [List.take_nil, State.after_nil, State.next, if_pos hb]
        rfl
      · have hn : c = '\n' := by simpa [hb] using hc
        rw [State.next, if_neg hb, if_neg hquote, if_pos hn, State.after_broken]
        rfl
  | case5 c t hescape hquote hc ih =>
    rw [Option.map_eq_none_iff] at h
    simp only [Bool.or_eq_true, decide_eq_true_eq, not_or] at hc
    cases j with
    | zero => rfl
    | succ j =>
      rw [List.take_succ_cons, State.after_cons, State.next_inside hc.2 hquote hc.1]
      exact ih h j

namespace Stays

variable {opening : Opening} {mark t : Text} {s : State}

theorem mem_marks (h : Stays opening mark t) : mark ∈ marks opening := by
  cases opening with
  | blockComment => exact List.mem_singleton.2 h.1
  | literal =>
    obtain ⟨quote, hq, rfl, -⟩ := h
    rw [isQuote, Bool.or_eq_true, beq_iff_eq, beq_iff_eq] at hq
    rcases hq with rfl | rfl <;> decide

/-- The automaton is in code before the mark, and is held after it. -/
theorem within (h : Stays opening mark t) (hs : Ready s (mark ++ t)) :
    s.inCode ∧ ∀ j, (s.after (mark ++ t.take j)).within opening := by
  cases opening with
  | blockComment =>
    obtain ⟨rfl, ht⟩ := h
    obtain rfl : s = .code := by
      rcases hs with rfl | ⟨-, hs, -⟩ | ⟨-, hs⟩
      · rfl
      · exact absurd rfl hs
      · exact absurd (hs '/' rfl) (by decide)
    exact ⟨rfl, within_of_splitBlockComment ht (.inl rfl)⟩
  | literal =>
    obtain ⟨quote, hq, rfl, ht⟩ := h
    refine ⟨?_, fun j => ?_⟩
    · rcases hs with rfl | ⟨rfl, -⟩ | ⟨-, hs⟩
      · rfl
      · rfl
      · obtain rfl := hs quote rfl
        simp [isQuote] at hq
    · have hnext : s.next quote = .literal quote := (Ready.next_eq hs).trans (State.next_quote hq)
      rw [List.singleton_append, State.after_cons, hnext]
      exact within_of_splitLiteral ht j

end Stays

/-- The text is a cut up to the comment or literal, which never closes. -/
def Stuck (offset : Nat) (t : Text) (u : Unclosed) : Prop :=
  ∃ ls mark rest, t = ls.flatMap Lexeme.text ++ (mark ++ rest) ∧ Lexeme.Cut ls (mark ++ rest) ∧
    u.offset = offset + (ls.flatMap Lexeme.text).length ∧ Stays u.opening mark rest

/-- Another lexeme may stand before. -/
theorem Stuck.cons {l : Lexeme} {offset offset' : Nat} {t t' : Text} {u : Unclosed}
    (h : Stuck offset' t' u) (hw : l.WellFormed) (hb : l.EndsBefore t') (ht : l.text ++ t' = t)
    (ho : offset' = offset + l.text.length) : Stuck offset t u := by
  subst ht ho
  obtain ⟨ls, mark, rest, rfl, hcut, hu, hstays⟩ := h
  refine ⟨l :: ls, mark, rest, ?_, ⟨hw, hb, hcut⟩, ?_, hstays⟩
  · rw [List.flatMap_cons, List.append_assoc]
  · rw [hu, List.flatMap_cons, List.length_append, Nat.add_assoc]

/-- Only a comment or literal that never closes stops the scan. -/
theorem stuck_of_scanFrom {offset : Nat} {t : Text} {u : Unclosed}
    (h : scanFrom offset t = .error u) : Stuck offset t u := by
  fun_induction scanFrom offset t with
  | case1 => cases h
  | case2 offset t =>
    rename_i ih
    obtain ⟨hw, hb⟩ := Lexeme.lineComment_ends t
    refine (ih (map_eq_error_iff.1 h)).cons hw hb ?_ ?_
    · exact congrArg ('/' :: '/' :: ·) List.takeWhile_append_dropWhile
    · exact (Nat.add_right_comm ..).trans (Nat.add_assoc ..)
  | case3 offset t hsplit =>
    cases h
    exact ⟨[], "/*".toList, t, rfl, trivial, rfl, rfl, hsplit⟩
  | case4 offset t body rest hsplit ih =>
    have hw : (Lexeme.blockComment body).WellFormed := splitBlockComment_closed hsplit
    refine (ih (map_eq_error_iff.1 h)).cons hw trivial ?_ ?_
    · rw [eq_of_splitBlockComment hsplit]
      simp [Lexeme.text]
    · simp only [Lexeme.text, List.length_cons, List.length_append, List.length_nil]
      omega
  | case5 offset c t _ _ hq hsplit =>
    cases h
    exact ⟨[], [c], t, rfl, trivial, rfl, c, hq, rfl, hsplit⟩
  | case6 offset c t _ _ hq body rest hsplit ih =>
    have hw : (Lexeme.literal c body).WellFormed := ⟨hq, inside_of_splitLiteral hsplit⟩
    refine (ih (map_eq_error_iff.1 h)).cons hw trivial ?_ ?_
    · rw [eq_of_splitLiteral hsplit]
      simp [Lexeme.text]
    · simp only [Lexeme.text, List.length_cons, List.length_append, List.length_nil]
      omega
  | case7 offset c t h1 h2 hq ih =>
    have hw : (Lexeme.code c).WellFormed := Bool.eq_false_iff.2 hq
    exact (ih (map_eq_error_iff.1 h)).cons hw (Lexeme.code_ends h1 h2) rfl rfl

/-- The fault that is told is a comment or literal that never closes. -/
theorem neverCloses_of_mask {t : Text} {u : Unclosed} (h : mask t = .error u) :
    NeverCloses t u := by
  obtain ⟨ls, mark, rest, rfl, hcut, hu, hstays⟩ := stuck_of_scanFrom (map_eq_error_iff.1 h)
  rw [Nat.zero_add] at hu
  obtain ⟨s, hshows, hready⟩ := shows_flatMap_text hcut (s := .code) (.inl rfl)
  obtain ⟨hcode, hheld⟩ := hstays.within hready
  refine ⟨?_, mark, hstays.mem_marks, ?_, fun k hk => ?_⟩
  · rw [stateAt, hu, List.take_left, hshows.after]
    exact hcode
  · rw [hu, List.drop_left]
    exact List.prefix_append mark rest
  · obtain ⟨j, rfl⟩ := Nat.exists_eq_add_of_le hk
    rw [stateAt, hu, Nat.add_assoc, List.take_length_add_append, List.take_length_add_append,
      State.after_append, hshows.after]
    exact hheld j

/-- A mark is one character, which tells what it starts, and a star at most. -/
theorem exists_of_mem_marks {opening : Opening} {mark : Text} (h : mark ∈ marks opening) :
    ∃ c rest, mark = c :: rest ∧ c ≠ '*' ∧ (c = '/' ↔ opening = .blockComment) ∧
      (rest = [] ∨ rest = ['*']) := by
  cases opening with
  | blockComment =>
    obtain rfl := List.mem_singleton.1 h
    exact ⟨'/', ['*'], rfl, by decide, by decide, .inr rfl⟩
  | literal =>
    simp only [marks, List.mem_cons, List.not_mem_nil, or_false] at h
    rcases h with rfl | rfl
    · exact ⟨'"', [], rfl, by decide, by decide, .inl rfl⟩
    · exact ⟨'\'', [], rfl, by decide, by decide, .inl rfl⟩

theorem State.closed_of_inCode {s : State} (h : s.inCode) : s.closed := by
  cases s with
  | code => rfl
  | slash => rfl
  | _ => cases h

theorem State.within_of_closed {s : State} (h : s.closed) (opening : Opening) :
    s.within opening = false := by
  cases s with
  | code => cases opening <;> rfl
  | slash => cases opening <;> rfl
  | lineComment => cases opening <;> rfl
  | _ => cases h

namespace NeverCloses

variable {t : Text} {u u' : Unclosed}

/-- No comment or literal starts after one that never closes. -/
theorem offset_le (h : NeverCloses t u) (h' : NeverCloses t u') : u'.offset ≤ u.offset := by
  obtain ⟨-, mark, hmark, ⟨later, hlater⟩, hheld⟩ := h
  obtain ⟨hcode, mark', hmark', ⟨later', hlater'⟩, -⟩ := h'
  obtain ⟨c, rest, rfl, -, -, hrest⟩ := exists_of_mem_marks hmark
  obtain ⟨c', rest', rfl, hstar, -⟩ := exists_of_mem_marks hmark'
  by_contra hlt
  -- the automaton is in code there, so it is not held yet
  have hnot : ¬ u.offset + (c :: rest).length ≤ u'.offset := fun hle => by
    have hfree := State.within_of_closed (State.closed_of_inCode hcode) u.opening
    rw [hheld _ hle] at hfree
    cases hfree
  rcases hrest with rfl | rfl
  · exact hnot (Nat.lt_of_not_le hlt)
  · -- and it is no star with which the later one starts
    have hoffset : u'.offset = u.offset + 1 := by
      simp only [List.length_cons, List.length_nil] at hnot
      omega
    rw [hoffset, ← List.drop_drop, ← hlater] at hlater'
    exact hstar (List.cons.inj hlater').1

/-- At most one comment or literal never closes. -/
theorem unique (h : NeverCloses t u) (h' : NeverCloses t u') : u = u' := by
  have hoffset : u.offset = u'.offset := Nat.le_antisymm (h'.offset_le h) (h.offset_le h')
  obtain ⟨-, mark, hmark, ⟨later, hlater⟩, -⟩ := h
  obtain ⟨-, mark', hmark', ⟨later', hlater'⟩, -⟩ := h'
  obtain ⟨c, rest, rfl, -, hkind, -⟩ := exists_of_mem_marks hmark
  obtain ⟨c', rest', rfl, -, hkind', -⟩ := exists_of_mem_marks hmark'
  rw [← hoffset, ← hlater] at hlater'
  obtain rfl := (List.cons.inj hlater').1
  have hsame : u.opening = .blockComment ↔ u'.opening = .blockComment := hkind.symm.trans hkind'
  have hopening : u.opening = u'.opening := by
    cases ho : u.opening with
    | blockComment => exact (hsame.1 ho).symm
    | literal =>
      cases ho' : u'.opening with
      | blockComment => exact absurd (hsame.2 ho') (by rw [ho]; decide)
      | literal => rfl
  cases u
  cases u'
  exact congrArg₂ Unclosed.mk hopening hoffset

theorem not_closed (h : NeverCloses t u) : (stateAt t t.length).closed = false := by
  obtain ⟨-, mark, hmark, hprefix, hheld⟩ := h
  obtain ⟨c, rest, rfl, -⟩ := exists_of_mem_marks hmark
  have hlen := hprefix.length_le
  rw [List.length_drop, List.length_cons] at hlen
  have hend := hheld t.length (by rw [List.length_cons]; omega)
  refine Bool.eq_false_iff.2 fun hclosed => ?_
  rw [State.within_of_closed hclosed] at hend
  cases hend

end NeverCloses

/-! ### Agreement -/

theorem stateAt_length (t : Text) : stateAt t t.length = State.code.after t := by
  rw [stateAt, List.take_length]

/-- A text can be masked exactly if it ends outside block comments and literals. -/
theorem exists_mask_iff {t : Text} : (∃ m, mask t = .ok m) ↔ (stateAt t t.length).closed := by
  constructor
  · rintro ⟨m, hm⟩
    rw [stateAt_length]
    exact (shown_of_mask hm).2
  · intro hclosed
    cases hm : mask t with
    | ok m => exact ⟨m, rfl⟩
    | error u =>
      rw [(neverCloses_of_mask hm).not_closed] at hclosed
      cases hclosed

theorem mask_eq_error_iff {t : Text} {u : Unclosed} : mask t = .error u ↔ NeverCloses t u := by
  refine ⟨neverCloses_of_mask, fun h => ?_⟩
  cases hm : mask t with
  | ok m =>
    have hclosed := exists_mask_iff.1 ⟨m, hm⟩
    rw [h.not_closed] at hclosed
    cases hclosed
  | error u' => rw [(neverCloses_of_mask hm).unique h]

/-- Masking and the automaton agree on every text. It can be masked exactly if the automaton ends
outside block comments and literals, and then each character is shown by what it belongs to.
Otherwise the fault names the comment or literal in which the automaton is held, by its kind and by
the line on which it starts. -/
theorem mask_agrees (t : Text) :
    ((∃ m, mask t = .ok m) ↔ (stateAt t t.length).closed) ∧
    (∀ m, mask t = .ok m ↔ (stateAt t t.length).closed ∧ m.length = t.length ∧
      ∀ i c, t[i]? = some c → m[i]? = some ((partAt t i).mask c)) ∧
    (∀ u, mask t = .error u ↔ NeverCloses t u) ∧
    ∀ e, (mask t).mapError (Unclosed.toSyntaxError t) = .error e ↔
      ∃ u, NeverCloses t u ∧
        e = ⟨u.opening.summary, some (1 + (t.take u.offset).count '\n')⟩ := by
  refine ⟨exists_mask_iff, fun m => ?_, fun u => mask_eq_error_iff, fun e => ?_⟩
  · rw [← eq_shown_iff]
    constructor
    · intro hm
      exact ⟨exists_mask_iff.1 ⟨m, hm⟩, (shown_of_mask hm).1⟩
    · rintro ⟨hclosed, rfl⟩
      obtain ⟨m, hm⟩ := exists_mask_iff.2 hclosed
      rw [hm, (shown_of_mask hm).1]
  · rw [mapError_eq_error_iff]
    refine exists_congr fun u => ?_
    rw [mask_eq_error_iff, Unclosed.toSyntaxError, lineAt, Text.lineFeeds, Nat.add_comm 1,
      eq_comm (b := e)]

end Flattener.Automaton
