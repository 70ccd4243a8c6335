/-!
# Ranges of code points

A property of characters is given by the ranges of the code points that have
it.
-/

namespace MemoryWatch

namespace Ranges

/-- Whether a character lies in one of some inclusive ranges. -/
def contain (ranges : List (Nat × Nat)) (character : Char) : Bool :=
  ranges.any fun range =>
    range.1 ≤ character.toNat && character.toNat ≤ range.2

end Ranges

end MemoryWatch
