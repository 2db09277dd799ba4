import Flattener.Marker.Token
import Flattener.Text.Case

/-!
# Marker templates

Every file of the output is announced by a marker, written from a template. A template is text
with expressions in double braces, for which the label and the position of the file are put
in, and with comments. A minus sign just inside a delimiter removes the blanks next to it.

* `Template.parse` reads a template.
* `Template.render` writes the marker of a file.
-/

namespace Flattener.Marker

/-- What an expression starts from. -/
inductive Operand where
  | name (n : Text)
  | string (t : Text)
  | integer (n : Nat)
  deriving DecidableEq, Repr

/-- The functions that an expression may apply. -/
inductive Filter where
  | upper
  | lower
  | length
  deriving DecidableEq, Repr

/-- An expression: an operand and what is applied to it, in order. -/
structure Expr (φ : Type) where
  operand : Operand
  filters : List φ
  deriving DecidableEq, Repr

/-- A piece of a template. -/
inductive Piece (φ : Type) where
  | literal (t : Text)
  | print (e : Expr φ)
  deriving DecidableEq, Repr

/-- The filter with the given name. -/
def Filter.ofName? (name : Text) : Option Filter :=
  [("upper".toList, upper), ("lower".toList, lower), ("length".toList, length),
    ("count".toList, length)].lookup name

/-! ### Reading expressions -/

/-- Reads the names of the filters after an expression, and gives the tokens after them. -/
def filterNames : List Token → Except SyntaxFault (List Text × List Token)
  | .sign ['|'] :: .name n :: ts => (filterNames ts).map fun r => (n :: r.1, r.2)
  | .sign ['|'] :: .fault e :: _ => .error e
  | .sign ['|'] :: .finish :: _ => .error (.cutShort "name".toList)
  | .sign ['|'] :: token :: _ => .error (.wrongToken "name".toList token.describe)
  | ts => .ok ([], ts)

/-- The strings that stand side by side at the start, as one. -/
def stringRun : List Token → Text × List Token
  | .string t :: ts => let r := stringRun ts; (t ++ r.1, r.2)
  | ts => ([], ts)

/-- Checks that the next token is the given one, and gives those after it. -/
def expect (token : Token) : List Token → Except SyntaxFault (List Token)
  | [] => .error (.cutShort token.describe)
  | .fault e :: _ => .error e
  | t :: ts =>
    if t = token then .ok ts
    else if t = .finish then .error (.cutShort token.describe)
    else .error (.wrongToken token.describe t.describe)

/-- Reads an expression, which may stand in parentheses, and gives the tokens after it. -/
def operation : List Token → Except SyntaxFault (Expr Text × List Token)
  | .name n :: ts => (filterNames ts).map fun r => (⟨.name n, r.1⟩, r.2)
  | .integer n :: ts => (filterNames ts).map fun r => (⟨.integer n, r.1⟩, r.2)
  | .string t :: ts =>
    let s := stringRun ts
    (filterNames s.2).map fun r => (⟨.string (t ++ s.1), r.1⟩, r.2)
  | .sign ['('] :: ts => do
    let (e, rest) ← operation ts
    let (names, rest) ← filterNames (← expect (.sign [')']) rest)
    return (⟨e.operand, e.filters ++ names⟩, rest)
  | .fault e :: _ => .error e
  | token :: _ => .error (.unexpected token.describe)
  | [] => .error (.unexpected Token.finish.describe)

/-- Reads the expression of a print. -/
def parseExpr : List Token → Except SyntaxFault (Expr Text)
  | .close :: _ => .error (.noExpression Token.close.describe)
  | ts => do
    let (e, rest) ← operation ts
    let _ ← expect .close rest
    return e

/-! ### Reading templates -/

/-- What the two characters of an opening delimiter start. -/
inductive Delimited where
  | print
  | tag
  | comment
  deriving DecidableEq, Repr

/-- The text up to the first opening delimiter, what it starts, and the text after it. -/
def splitDelimiter : Text → Text × Option (Delimited × Text)
  | [] => ([], none)
  | '\x7b' :: '\x7b' :: t => ([], some (.print, t))
  | '\x7b' :: '%' :: t => ([], some (.tag, t))
  | '\x7b' :: '#' :: t => ([], some (.comment, t))
  | c :: t => let r := splitDelimiter t; (c :: r.1, r.2)

/-- What follows the end of a comment. A minus sign before it removes the blanks after it. -/
def afterComment : Text → Option Text
  | [] => none
  | '-' :: '#' :: '\x7d' :: t => some (Text.trimLeft t)
  | '#' :: '\x7d' :: t => some t
  | _ :: t => afterComment t

/-- The text after a word, which may stand between blanks. -/
def afterWord? (word t : Text) : Option Text :=
  (Text.dropPrefix? word (Text.trimLeft t)).map Text.trimLeft

/-- What follows the end of a tag. A minus sign before it removes the blanks after it. -/
def afterTag? : Text → Option Text
  | '-' :: '%' :: '\x7d' :: t => some (Text.trimLeft t)
  | '%' :: '\x7d' :: t => some t
  | _ => none

/-- What follows the tag that starts a part which is taken as it is; `t` is the text after the
opening delimiter and its sign. -/
def afterRaw? (t : Text) : Option Text := (afterWord? "raw".toList t).bind afterTag?

/-- What follows the tag that ends a part which is taken as it is. A plus sign may stand before the
closing delimiter. -/
def afterEndRaw? (t : Text) : Option Text :=
  (afterWord? "endraw".toList t).bind fun t =>
    match t with
    | '+' :: '%' :: '\x7d' :: t => some t
    | t => afterTag? t

/-- Takes the sign off the text after an opening delimiter and tells whether it is a minus. -/
def splitSign : Text → Bool × Text
  | '-' :: t => (true, t)
  | '+' :: t => (false, t)
  | t => (false, t)

/-- The text after the tag that ends a part which is taken as it is, if it stands at the start of
`t`, and whether it removes the blanks before it. -/
def endRaw? : Text → Option (Bool × Text)
  | '\x7b' :: '%' :: t =>
    let sign := splitSign t
    (afterEndRaw? sign.2).map fun rest => (sign.1, rest)
  | _ => none

/-- The part that is taken as it is up to the tag that ends it, whether that removes the blanks
before it, and what follows it. -/
def splitRaw : Text → Option (Text × Bool × Text)
  | [] => none
  | c :: t =>
    match endRaw? (c :: t) with
    | some r => some ([], r)
    | none => (splitRaw t).map fun r => (c :: r.1, r.2)

theorem length_trimLeft_le (t : Text) : (Text.trimLeft t).length ≤ t.length :=
  (List.dropWhile_suffix isBlank).length_le

theorem length_afterWord?_le {word t rest : Text} (h : afterWord? word t = some rest) :
    rest.length ≤ t.length := by
  obtain ⟨u, hu, rfl⟩ := Option.map_eq_some_iff.1 h
  have h₁ := length_trimLeft_le t
  have h₂ := length_trimLeft_le u
  unfold Text.dropPrefix? at hu
  split at hu
  · cases hu
    have := List.length_drop (i := word.length) (l := Text.trimLeft t)
    omega
  · simp at hu

theorem length_afterTag?_le {t rest : Text} (h : afterTag? t = some rest) :
    rest.length ≤ t.length := by
  unfold afterTag? at h
  split at h
  · next u =>
    cases h
    have := length_trimLeft_le u
    simp only [List.length_cons]
    omega
  · cases h
    simp only [List.length_cons]
    omega
  · simp at h

theorem length_afterRaw?_le {t rest : Text} (h : afterRaw? t = some rest) :
    rest.length ≤ t.length := by
  obtain ⟨u, hu, hr⟩ := Option.bind_eq_some_iff.1 h
  have h₁ := length_afterWord?_le hu
  have h₂ := length_afterTag?_le hr
  omega

theorem length_afterEndRaw?_le {t rest : Text} (h : afterEndRaw? t = some rest) :
    rest.length ≤ t.length := by
  obtain ⟨u, hu, hr⟩ := Option.bind_eq_some_iff.1 h
  have h₁ := length_afterWord?_le hu
  split at hr
  · cases hr
    simp only [List.length_cons] at h₁
    omega
  · have h₂ := length_afterTag?_le hr
    omega

theorem length_splitDelimiter {t rest : Text} {d : Delimited}
    (h : (splitDelimiter t).2 = some (d, rest)) : rest.length < t.length := by
  fun_induction splitDelimiter t with
  | case1 => simp at h
  | case2 => cases h; simp only [List.length_cons]; omega
  | case3 => cases h; simp only [List.length_cons]; omega
  | case4 => cases h; simp only [List.length_cons]; omega
  | case5 c t _ _ _ r ih => have := ih h; simp only [List.length_cons]; omega

theorem length_splitSign (t : Text) : (splitSign t).2.length ≤ t.length := by
  unfold splitSign
  split <;> simp

theorem length_afterComment {t rest : Text} (h : afterComment t = some rest) :
    rest.length ≤ t.length := by
  fun_induction afterComment t with
  | case1 => simp at h
  | case2 t =>
    cases h
    have := (List.dropWhile_suffix (l := t) isBlank).length_le
    simp only [Text.trimLeft, List.length_cons]
    omega
  | case3 t => cases h; simp only [List.length_cons]; omega
  | case4 c t _ _ ih => have := ih h; simp only [List.length_cons]; omega

theorem length_endRaw?_le {t rest : Text} {minus : Bool} (h : endRaw? t = some (minus, rest)) :
    rest.length ≤ t.length := by
  unfold endRaw? at h
  split at h
  · next u =>
    obtain ⟨v, hv, hr⟩ := Option.map_eq_some_iff.1 h
    cases hr
    have h₁ := length_afterEndRaw?_le hv
    have h₂ := length_splitSign u
    simp only [List.length_cons]
    omega
  · simp at h

theorem length_splitRaw_le {t raw rest : Text} {minus : Bool}
    (h : splitRaw t = some (raw, minus, rest)) : rest.length ≤ t.length := by
  fun_induction splitRaw t generalizing raw with
  | case1 => simp at h
  | case2 c t r hr => cases h; exact length_endRaw?_le hr
  | case3 c t _ ih =>
    obtain ⟨⟨u, r⟩, hu, he⟩ := Option.map_eq_some_iff.1 h
    cases he
    have := ih hu
    simp only [List.length_cons]
    omega

set_option linter.unusedVariables false in
/-- The pieces of `t`, the rest of a template of `size` characters. -/
def piecesFrom (size : Nat) (t : Text) : Except SyntaxFault (List (Piece Text)) :=
  match h : (splitDelimiter t).2 with
  | none => .ok [.literal t]
  | some (kind, afterDelimiter) =>
    let sign := splitSign afterDelimiter
    let before := (splitDelimiter t).1
    let literal : Piece Text := .literal (if sign.1 then Text.trimRight before else before)
    match kind with
    | .print => do
      let tokens := tokensFrom size [] sign.2
      let e ← parseExpr tokens.1
      return literal :: .print e :: (← piecesFrom size tokens.2)
    | .tag =>
      match h₁ : afterRaw? sign.2 with
      | some body =>
        match h₂ : splitRaw body with
        | some (raw, minus, rest) => do
          let part : Piece Text := .literal (if minus then Text.trimRight raw else raw)
          return literal :: part :: (← piecesFrom size rest)
        | none => if body.isEmpty then .ok [literal] else .error .openRaw
      | none =>
        match (tokensFrom size [] sign.2).1 with
        | .name n :: _ => .error (.unknownTag n)
        | .fault e :: _ => .error e
        | _ => .error .namelessTag
    | .comment =>
      match h' : afterComment sign.2 with
      | some rest => (piecesFrom size rest).map (literal :: ·)
      | none => if sign.2.isEmpty then .ok [literal] else .error .openComment
termination_by t.length
decreasing_by
  · have h₁ := length_splitDelimiter h
    have h₂ := length_splitSign afterDelimiter
    have h₃ := length_tokensFrom_le size [] (splitSign afterDelimiter).2
    omega
  · have h₃ := length_splitDelimiter h
    have h₄ : sign.2.length ≤ afterDelimiter.length := length_splitSign afterDelimiter
    have h₅ := length_afterRaw?_le h₁
    have h₆ := length_splitRaw_le h₂
    omega
  · have h₁ := length_splitDelimiter h
    have h₂ : sign.2.length ≤ afterDelimiter.length := length_splitSign afterDelimiter
    have h₃ := length_afterComment h'
    omega

/-- The filters with the given names; the last one is looked at first. -/
def knownFilters : List Text → Except SyntaxFault (List Filter)
  | [] => .ok []
  | n :: ns => do
    let fs ← knownFilters ns
    match Filter.ofName? n with
    | some f => return f :: fs
    | none => .error (.unknownFilter n)

/-- The piece with its filters looked up. -/
def Piece.known : Piece Text → Except SyntaxFault (Piece Filter)
  | literal t => .ok (literal t)
  | print e => do return print ⟨e.operand, ← knownFilters e.filters⟩

/-- A template is the list of its pieces. -/
structure Template where
  pieces : List (Piece Filter)
  deriving DecidableEq, Repr

/-- The text without one line feed at its end. -/
def dropFinalNewline (t : Text) : Text := if t.getLast? = some '\n' then t.dropLast else t

/-- Reads a template. Line breaks become line feeds, and one at the end does not count. -/
def Template.parse (t : Text) : Except SyntaxFault Template := do
  let t := dropFinalNewline (Text.unifyNewlines t)
  return ⟨← (← piecesFrom t.length t).mapM Piece.known⟩

/-! ### Writing markers -/

/-- Why a marker cannot be written. -/
inductive RenderFault where
  /-- A name has no value. -/
  | undefined (name : Text)
  /-- A value has no length. -/
  | lengthless
  deriving DecidableEq, Repr

/-- What is said about a marker that cannot be written. -/
def RenderFault.message : RenderFault → Text
  | undefined name => Text.quoted name ++ " is undefined".toList
  | lengthless => "the value has no length".toList

/-- The value of an expression. -/
inductive Value where
  | text (t : Text)
  | number (n : Nat)
  /-- A value that is only known by its text, such as a truth value. -/
  | word (t : Text)
  deriving DecidableEq, Repr

/-- A value as text. -/
def Value.toText : Value → Text
  | text t => t
  | number n => Text.ofNat n
  | word t => t

/-- The names with a fixed value: words, and what every template knows. -/
def constants : List (Text × Value) :=
  [("true", "True"), ("True", "True"), ("false", "False"), ("False", "False"), ("none", "None"),
    ("None", "None"), ("self", "<TemplateReference None>"), ("range", "<class 'range'>"),
    ("dict", "<class 'dict'>"), ("cycler", "<class 'jinja2.utils.Cycler'>"),
    ("joiner", "<class 'jinja2.utils.Joiner'>"),
    ("namespace", "<class 'jinja2.utils.Namespace'>")].map fun c => (c.1.toList, .word c.2.toList)

/-- The names that a template may use for the file labelled `path` at position `index`. -/
def names (path : Text) (index : Nat) : List (Text × Value) :=
  [("path".toList, .text path), ("index".toList, .number index)] ++ constants

/-- The value of an operand for the file labelled `path` at position `index`. -/
def Operand.value (path : Text) (index : Nat) : Operand → Except RenderFault Value
  | name n =>
    match (names path index).lookup n with
    | some v => .ok v
    | none => .error (.undefined n)
  | string t => .ok (.text t)
  | integer n => .ok (.number n)

/-- Applies a filter. -/
def Filter.apply (v : Value) : Filter → Except RenderFault Value
  | upper => .ok (.text (Text.upper v.toText))
  | lower => .ok (.text (Text.lower v.toText))
  | length =>
    match v with
    | .text t => .ok (.number t.length)
    | _ => .error .lengthless

/-- The text of a piece for the file labelled `path` at position `index`. -/
def Piece.render (path : Text) (index : Nat) : Piece Filter → Except RenderFault Text
  | literal t => .ok t
  | print e => do
    let v ← e.operand.value path index
    return (← e.filters.foldlM Filter.apply v).toText

/-- The marker of the file labelled `path` at position `index`, without trailing blanks. -/
def Template.render (m : Template) (path : Text) (index : Nat) : Except RenderFault Text := do
  return Text.trimRight (← m.pieces.mapM (Piece.render path index)).flatten

end Flattener.Marker
