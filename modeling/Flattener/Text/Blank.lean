import Flattener.Text.Ranges

/-!
# Blanks

The characters that separate words: the Unicode white space characters together with the
four information separators `U+001C` to `U+001F`.
-/

namespace Flattener

/-- The code points of the blanks, as closed ranges in increasing order. -/
def blankRanges : List (Nat × Nat) :=
  [(0x9, 0xD), (0x1C, 0x20), (0x85, 0x85), (0xA0, 0xA0), (0x1680, 0x1680), (0x2000, 0x200A),
    (0x2028, 0x2029), (0x202F, 0x202F), (0x205F, 0x205F), (0x3000, 0x3000)]

/-- Whether the character separates words. -/
def isBlank (c : Char) : Bool := inRanges blankRanges c.toNat

end Flattener
