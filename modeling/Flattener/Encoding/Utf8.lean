import Flattener.Text.Basic

/-!
# UTF-8

Reading and writing text as bytes in UTF-8. A byte sequence that is no text is refused at the
first character that cannot be read, and `Utf8.Flaw` says which bytes are at fault.
-/

namespace Flattener.Utf8

/-- Why bytes are no text. -/
inductive Reason where
  | startByte
  | continuationByte
  | endOfData
  deriving DecidableEq, Repr

/-- The first bytes that cannot be read: where, which and how many, and why. -/
structure Flaw where
  offset : Nat
  byte : UInt8
  count : Nat
  reason : Reason
  deriving DecidableEq, Repr

/-- The number of bytes after the first one, the least and greatest second byte, and the bits
that the first byte contributes; nothing if no character starts with it. -/
def lead? (b : UInt8) : Option (Nat × Nat × Nat × Nat) :=
  let n := b.toNat
  if n < 0x80 then some (0, 0, 0, n)
  else if n < 0xC2 then none
  else if n < 0xE0 then some (1, 0x80, 0xBF, n - 0xC0)
  else if n = 0xE0 then some (2, 0xA0, 0xBF, 0)
  else if n = 0xED then some (2, 0x80, 0x9F, 13)
  else if n < 0xF0 then some (2, 0x80, 0xBF, n - 0xE0)
  else if n = 0xF0 then some (3, 0x90, 0xBF, 0)
  else if n < 0xF4 then some (3, 0x80, 0xBF, n - 0xF0)
  else if n = 0xF4 then some (3, 0x80, 0x8F, 4)
  else none

/-- Reads the bytes that continue a character. `low` and `high` bound the next one, `seen` counts
the bytes before it. The result is the code point, or how many bytes are at fault and why. -/
def continued : (more low high seen value : Nat) → List UInt8 → Except (Nat × Reason) Nat
  | 0, _, _, _, value, _ => .ok value
  | _ + 1, _, _, seen, _, [] => .error (seen, .endOfData)
  | more + 1, low, high, seen, value, b :: bs =>
    if low ≤ b.toNat && b.toNat ≤ high then
      continued more 0x80 0xBF (seen + 1) (64 * value + (b.toNat - 0x80)) bs
    else .error (seen, .continuationByte)

/-- Reads bytes that start at `offset`. -/
def decodeFrom (offset : Nat) (bytes : List UInt8) : Except Flaw Text :=
  match bytes with
  | [] => .ok []
  | b :: bs =>
    match lead? b with
    | none => .error ⟨offset, b, 1, .startByte⟩
    | some (more, low, high, value) =>
      match continued more low high 1 value bs with
      | .error (count, reason) => .error ⟨offset, b, count, reason⟩
      | .ok n => (decodeFrom (offset + more + 1) (bs.drop more)).map (Char.ofNat n :: ·)
termination_by bytes.length
decreasing_by simp only [List.length_cons, List.length_drop]; omega

/-- Reads bytes as text. -/
def decode (bytes : List UInt8) : Except Flaw Text := decodeFrom 0 bytes

/-- Writes text as bytes. -/
def encode (t : Text) : List UInt8 := t.flatMap String.utf8EncodeChar

/-- The number of bytes of a text. -/
def length (t : Text) : Nat := (encode t).length

end Flattener.Utf8
