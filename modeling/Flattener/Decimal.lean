import Flattener.Text.Basic

/-!
# Decimal numbers

A number that is not written as an integer: decimal digits with a point, an exponent, or both, as
the shortest writing of a binary number has them.

* `Decimal.toText` writes the number.
* `Decimal.truncate` is the integer that a place for integers shows of it.
-/

namespace Flattener

/-- A number written with a point or with an exponent. -/
structure Decimal where
  negative : Bool
  whole : Nat
  /-- The digits after the point; without any there is no point. -/
  fraction : List (Fin 10)
  exponent : Option Int
  notInteger : fraction ≠ [] ∨ exponent.isSome
  deriving DecidableEq, Repr

namespace Decimal

/-- The digits after the point, with the point. -/
def fractionText : List (Fin 10) → Text
  | [] => []
  | ds => '.' :: ds.map fun d : Fin 10 => Nat.digitChar d.val

/-- The digits of an exponent, two of them at least. -/
def exponentDigits (n : Nat) : Text :=
  List.replicate (2 - (Text.ofNat n).length) '0' ++ Text.ofNat n

/-- An exponent. Its sign is always written. -/
def exponentText : Option Int → Text
  | none => []
  | some e => 'e' :: (if e < 0 then '-' else '+') :: exponentDigits e.natAbs

/-- A number as it is written. -/
def toText (d : Decimal) : Text :=
  (if d.negative then ['-'] else []) ++
    (Text.ofNat d.whole ++ (fractionText d.fraction ++ exponentText d.exponent))

/-- All digits as one number, and the power of ten that it is to be multiplied by. -/
def scaled (d : Decimal) : Nat × Int :=
  (d.fraction.foldl (fun n c => 10 * n + c.val) d.whole, d.exponent.getD 0 - d.fraction.length)

/-- The nearest number that has at most 53 binary digits before its zeros, the even one of two. -/
def roundBinary (n : Nat) : Nat :=
  let unit := Nat.pow 2 (n.log2 + 1 - 53)
  let below := n / unit
  let rest := n % unit
  if unit < 2 * rest ∨ (unit = 2 * rest ∧ below % 2 = 1) then (below + 1) * unit else below * unit

/-- The number without what follows its point. Digits beyond those that a binary number keeps are
those of that number. -/
def truncate (d : Decimal) : Int :=
  let (digits, power) := d.scaled
  let scale := Nat.pow 10 power.natAbs
  let whole := if 0 ≤ power then digits * scale else digits / scale
  if d.negative then -(roundBinary whole : Int) else roundBinary whole

/-- The shortest writing of a large number names another one than the number kept. -/
example : truncate ⟨false, 1, [], some 23, .inr rfl⟩ = 99999999999999991611392 := by
  decide +kernel

end Decimal

end Flattener
