import MemoryWatch.Text.Blank
import MemoryWatch.Text.Hexadecimal

/-!
# Flags and escapes of patterns

A pattern is read with the flags that are in force at each of its places.  It
knows the tables of ASCII only: the classes of digits, blanks and word
characters, the edges of words, and letters of either case can be asked for
just where a flag turns characters into bytes.  There, in turn, nothing may
match a byte that is not ASCII.
-/

namespace MemoryWatch

namespace Pattern

/-- The flags in force at a place of a pattern. -/
structure Flags where
  /-- Whether a letter stands for both of its cases. -/
  foldsCase : Bool := false
  /-- Whether characters are matched, and not bytes. -/
  matchesCharacters : Bool := true
  /-- Whether blanks and comments are left out. -/
  skipsBlanks : Bool := false
  deriving DecidableEq, Repr

namespace Flags

/-- Switch a flag on or off.  The other flags change no pattern's fate. -/
def switch (flags : Flags) (letter : Char) (value : Bool) : Flags :=
  if letter = 'i' then { flags with foldsCase := value }
  else if letter = 'u' then { flags with matchesCharacters := value }
  else if letter = 'x' then { flags with skipsBlanks := value }
  else flags

/-- Whether characters of either case are asked for, which takes a table. -/
def needsCases (flags : Flags) : Bool :=
  flags.foldsCase && flags.matchesCharacters

end Flags

/-- A text from its first character that counts on. -/
def skip (flags : Flags) (text : List Char) : List Char :=
  if flags.skipsBlanks then skipAll text.length text else text
where
  /-- Leave out as many blanks and comments as there can be. -/
  skipAll : Nat → List Char → List Char
    | bound + 1, '#' :: rest =>
      skipAll bound ((rest.dropWhile (· ≠ '\n')).drop 1)
    | bound + 1, character :: rest =>
      if Blank.isBlank character then skipAll bound rest
      else character :: rest
    | _, text => text

/-- What a backslash and the characters after it stand for. -/
inductive Escaped where
  | character (shown : Char)
  /-- A character that is given by two hexadecimal digits, or the byte with
  that value. -/
  | byte (value : Nat)
  /-- One of the classes of digits, blanks and word characters, or all
  characters outside of it. -/
  | kind (isNegated : Bool)
  /-- The beginning or the end of the text. -/
  | edge
  /-- A place where a word begins or ends, or where none does. -/
  | wordEdge
  deriving DecidableEq, Repr

namespace Escaped

/-- Whether an escape can stand in a pattern. -/
def isAdmitted (flags : Flags) : Escaped → Bool
  | character _ => !flags.needsCases
  | byte value =>
    if flags.matchesCharacters then !flags.foldsCase else value < 0x80
  | kind isNegated => !flags.matchesCharacters && !isNegated
  | edge => true
  | wordEdge => !flags.matchesCharacters

/-- The code point of an escape that stands for one character. -/
def codePoint? : Escaped → Option Nat
  | character shown => some shown.toNat
  | byte value => some value
  | kind _ | edge | wordEdge => none

/-- Whether an escape can stand in a class. -/
def isMember (flags : Flags) : Escaped → Bool
  | kind isNegated => !flags.matchesCharacters && !isNegated
  | edge | wordEdge => false
  | escaped =>
    !flags.needsCases &&
      (flags.matchesCharacters || escaped.codePoint?.all (· < 0x80))

end Escaped

/-- Read so many hexadecimal digits. -/
def readDigits (flags : Flags) :
    Nat → Nat → List Char → Option (Nat × List Char)
  | 0, value, text => some (value, text)
  | count + 1, value, text =>
    match skip flags text with
    | [] => none
    | character :: rest =>
      match Hexadecimal.digit? character with
      | none => none
      | some digit => readDigits flags count (16 * value + digit) rest

/-- Read a character that is given by so many hexadecimal digits. -/
def readCodePoint (flags : Flags) (count : Nat) (text : List Char) :
    Option (Escaped × List Char) :=
  match readDigits flags count 0 text with
  | none => none
  | some (value, rest) =>
    if count = 2 then some (.byte value, skip flags rest)
    else if Nat.isValidChar value then
      some (.character (Char.ofNat value), skip flags rest)
    else none

/-- Whether a backslash takes away the meaning of a character. -/
def isEscapable (character : Char) : Bool :=
  character.toNat < 0x80 && !character.isAlphanum &&
    character ≠ '<' && character ≠ '>'

/-- The control characters that have a letter after a backslash. -/
def controls : List (Char × Nat) :=
  [('a', 0x07), ('f', 0x0C), ('t', 0x09), ('n', 0x0A), ('r', 0x0D),
   ('v', 0x0B)]

/-- Read what follows a backslash. -/
def readEscape (flags : Flags) : List Char → Option (Escaped × List Char)
  | [] => none
  | letter :: rest =>
    if letter = 'x' then readCodePoint flags 2 rest
    else if letter = 'u' then readCodePoint flags 4 rest
    else if letter = 'U' then readCodePoint flags 8 rest
    else if ['d', 's', 'w'].contains letter then some (.kind false, rest)
    else if ['D', 'S', 'W'].contains letter then some (.kind true, rest)
    else if ['A', 'z'].contains letter then some (.edge, rest)
    else if ['b', 'B', '<', '>'].contains letter then some (.wordEdge, rest)
    else if isEscapable letter then some (.character letter, rest)
    else
      (controls.lookup letter).map fun value =>
        (.character (Char.ofNat value), rest)

end Pattern

end MemoryWatch
