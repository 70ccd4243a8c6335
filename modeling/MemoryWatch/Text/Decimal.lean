/-!
# Reading decimal numbers

A number on the command line is written in decimal digits, perhaps after a
plus sign, and has to fit into a 64-bit word.  The digits are read from the
left, and the first thing that goes wrong decides the complaint: a character
that is no digit, or the digit with which the number grows too large.
-/

namespace MemoryWatch

namespace Decimal

/-- What is wrong with a text that should be a number. -/
inductive Fault where
  | empty
  | invalidDigit
  | tooLarge
  deriving DecidableEq, Repr

namespace Fault

/-- The text of a fault. -/
def message : Fault → String
  | empty => "cannot parse integer from empty string"
  | invalidDigit => "invalid digit found in string"
  | tooLarge => "number too large to fit in target type"

end Fault

/-- The number of values of a word. -/
def wordCount : Nat := UInt64.size

/-- The value of a digit. -/
def digit? (character : Char) : Option Nat :=
  if character.isDigit then some (character.toNat - '0'.toNat) else none

/-- Read the remaining digits of a number. -/
def readDigits : Nat → List Char → Except Fault UInt64
  | value, [] => .ok (UInt64.ofNat value)
  | value, character :: rest =>
    match digit? character with
    | none => .error .invalidDigit
    | some digit =>
      if wordCount ≤ value * 10 + digit then .error .tooLarge
      else readDigits (value * 10 + digit) rest

/-- Read a number.  A sign alone is no number, and only a plus sign may stand
before digits. -/
def readWord : List Char → Except Fault UInt64
  | [] => .error .empty
  | ['+'] => .error .invalidDigit
  | '+' :: digits => readDigits 0 digits
  | digits => readDigits 0 digits

end Decimal

end MemoryWatch
