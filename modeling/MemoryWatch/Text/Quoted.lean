import MemoryWatch.Text.Printable

/-!
# Quoted text

A text inside an error message is written between double quotes.  The quote,
the backslash, the tab, the line ends and the null character have short
escapes; a character that is unprintable or extends the one before it is
written by its code point in hexadecimal; every other character stands for
itself.
-/

namespace MemoryWatch

namespace Quoted

/-- The hexadecimal form of a code point inside a quoted text. -/
def codePoint (character : Char) : List Char :=
  ['\\', 'u', '\x7b'] ++ Nat.toDigits 16 character.toNat ++ ['\x7d']

/-- One character as it is written inside quotes. -/
def escape (character : Char) : List Char :=
  if character = Char.ofNat 0 then ['\\', '0']
  else if character = '\t' then ['\\', 't']
  else if character = '\r' then ['\\', 'r']
  else if character = '\n' then ['\\', 'n']
  else if character = '"' then ['\\', '"']
  else if character = '\\' then ['\\', '\\']
  else if Printable.isExtending character then codePoint character
  else if Printable.isPrintable character then [character]
  else codePoint character

/-- A text between double quotes. -/
def ofString (text : String) : String :=
  String.ofList (['"'] ++ text.toList.flatMap escape ++ ['"'])

end Quoted

end MemoryWatch
