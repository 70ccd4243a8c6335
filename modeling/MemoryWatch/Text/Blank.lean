import MemoryWatch.Text.Ranges

/-!
# Blanks

The characters that only keep others apart, which are those with the property
`White_Space` of Unicode.
-/

namespace MemoryWatch

namespace Blank

/-- Code points of the blanks, as inclusive ranges in ascending order. -/
def ranges : List (Nat × Nat) :=
  [(0x9, 0xD), (0x20, 0x20), (0x85, 0x85), (0xA0, 0xA0), (0x1680, 0x1680),
   (0x2000, 0x200A), (0x2028, 0x2029), (0x202F, 0x202F), (0x205F, 0x205F),
   (0x3000, 0x3000)]

/-- Whether a character is a blank. -/
def isBlank (character : Char) : Bool :=
  Ranges.contain ranges character

/-- A text without the blanks at both of its ends. -/
def trim (text : List Char) : List Char :=
  ((text.dropWhile isBlank).reverse.dropWhile isBlank).reverse

end Blank

end MemoryWatch
