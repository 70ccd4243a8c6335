/-!
# Hexadecimal digits

A byte that cannot be shown is written with two hexadecimal digits.  Letters
are written small and read in either case.
-/

namespace MemoryWatch

namespace Hexadecimal

/-- The two digits of a byte. -/
def pair (value : Nat) : List Char :=
  [Nat.digitChar (value / 16 % 16), Nat.digitChar (value % 16)]

/-- The value of a digit. -/
def digit? (character : Char) : Option Nat :=
  if character.isDigit then some (character.toNat - '0'.toNat)
  else if 'a' ≤ character ∧ character ≤ 'f' then
    some (character.toNat - 'a'.toNat + 10)
  else if 'A' ≤ character ∧ character ≤ 'F' then
    some (character.toNat - 'A'.toNat + 10)
  else none

end Hexadecimal

end MemoryWatch
