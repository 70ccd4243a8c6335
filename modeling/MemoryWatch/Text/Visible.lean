import MemoryWatch.Text.Hexadecimal
import MemoryWatch.Text.Quoted

/-!
# Visible control characters

The text of a log line may quote what somebody else has written.  The control
characters that could begin an instruction for the terminal or hide other text
are written by their numbers; line ends and tabs are left as they are.
-/

namespace MemoryWatch

namespace Visible

/-- The control characters of ASCII that are written by their numbers: bell,
backspace, form feed, escape and delete. -/
def escapedControls : List Nat :=
  [0x07, 0x08, 0x0C, 0x1B, 0x7F]

/-- The number of a control character of ASCII, in two hexadecimal digits. -/
def controlCode (character : Char) : List Char :=
  ['\\', 'x'] ++ Hexadecimal.pair character.toNat

/-- One character as it is written in a log line. -/
def escape (character : Char) : List Char :=
  if escapedControls.contains character.toNat then controlCode character
  else if 0x80 ≤ character.toNat ∧ character.toNat ≤ 0x9F then
    Quoted.codePoint character
  else [character]

/-- A text as it is written in a log line. -/
def ofString (text : String) : String :=
  String.ofList (text.toList.flatMap escape)

end Visible

end MemoryWatch
