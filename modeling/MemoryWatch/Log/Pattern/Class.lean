import MemoryWatch.Log.Pattern.Escape
import MemoryWatch.Log.Pattern.Height

/-!
# Classes of characters

A class stands in brackets and holds characters, ranges, named classes and
further classes.  Two signs in a row combine what is before them with what is
after them.  A class that has any member of its own cannot be asked for where
characters of either case are meant, since the other case takes a table.
-/

namespace MemoryWatch

namespace Pattern

/-- Read one member of a class, or one end of a range in it. -/
def readMember (flags : Flags) : List Char → Option (Escaped × List Char)
  | [] => none
  | '\\' :: rest => readEscape flags rest
  | character :: rest => some (.character character, rest)

/-- The next character after a dash.  Where blanks are left out, the sign that
begins a comment is passed over once, but not the comment. -/
def peek (flags : Flags) (text : List Char) : Option Char :=
  if flags.skipsBlanks then
    match text.dropWhile Blank.isBlank with
    | '#' :: comment => (comment.dropWhile Blank.isBlank).head?
    | rest => rest.head?
  else text.head?

/-- Read a member of a class or a range of them.  A dash before the end of the
class or before another dash makes no range. -/
def readRange (flags : Flags) (text : List Char) : Option (List Char) :=
  match readMember flags text with
  | none => none
  | some (first, rest) =>
    let alone := fun rest =>
      if first.isMember flags then some rest else none
    match skip flags rest with
    | '-' :: after =>
      if peek flags after = some ']' ∨ peek flags after = some '-' then
        alone ('-' :: after)
      else
        match readMember flags (skip flags after) with
        | none => none
        | some (last, rest) =>
          match first.codePoint?, last.codePoint? with
          | some low, some high =>
            if first.isMember flags && last.isMember flags && low ≤ high then
              some rest
            else none
          | _, _ => none
    | rest => alone rest

/-- The named classes. -/
def classNames : List String :=
  ["alnum", "alpha", "ascii", "blank", "cntrl", "digit", "graph", "lower",
   "print", "punct", "space", "upper", "word", "xdigit"]

/-- Read a named class after its opening bracket: whether it stands for all
other characters, and what follows it. -/
def namedClass? : List Char → Option (Bool × List Char)
  | ':' :: rest =>
    let isNegated := rest.head? = some '^'
    let rest := if isNegated then rest.drop 1 else rest
    let name := rest.takeWhile (· ≠ ':')
    match rest.dropWhile (· ≠ ':') with
    | ':' :: ']' :: rest =>
      if classNames.contains (String.ofList name) then some (isNegated, rest)
      else none
    | _ => none
  | _ => none

/-- A class that is still open, as far as it has been read. -/
structure OpenClass where
  /-- The height of what stands before the sign that was read last. -/
  combined : Option Nat := none
  /-- The heights of the members since then, the last one first. -/
  members : List Nat := []
  deriving DecidableEq, Repr

namespace OpenClass

/-- The height of what has been read of a class. -/
def height (opened : OpenClass) : Nat :=
  match opened.combined with
  | none => together opened.members
  | some before => max before (together opened.members) + 1

/-- A class with one more member. -/
def add (opened : OpenClass) (height : Nat) : OpenClass :=
  { opened with members := height :: opened.members }

/-- A class after a sign that combines what is before it with what follows. -/
def combine (opened : OpenClass) : OpenClass :=
  { combined := some opened.height }

end OpenClass

/-- Count the dashes that begin a text.  The bound is at least the length of
the text. -/
def readDashes (flags : Flags) : Nat → List Char → Nat × List Char
  | bound + 1, '-' :: rest =>
    let (count, rest) := readDashes flags bound (skip flags rest)
    (count + 1, rest)
  | _, text => (0, text)

/-- Read the beginning of a class after its opening bracket: the sign that
negates it, dashes, and a bracket that would make the class empty.  The bound
is at least the length of the text. -/
def openClass? (flags : Flags) (bound : Nat) (text : List Char) :
    Option (OpenClass × List Char) :=
  let text := skip flags text
  let isNegated := text.head? = some '^'
  let text := if isNegated then skip flags (text.drop 1) else text
  let (dashes, rest) := readDashes flags bound text
  let hasBracket := dashes = 0 ∧ rest.head? = some ']'
  if isNegated && !flags.matchesCharacters then none
  else if flags.needsCases ∧ (dashes ≠ 0 ∨ hasBracket) then none
  else if hasBracket then some ({ members := [0] }, skip flags (rest.drop 1))
  else some ({ members := List.replicate dashes 0 }, rest)

/-- Read a class up to the bracket that closes it, and answer with its height.
The classes around it are given from the innermost to the outermost.  The bound
is more than the length of the text. -/
def readClass (flags : Flags) :
    Nat → OpenClass → List OpenClass → List Char → Option (Nat × List Char)
  | 0, _, _, _ => none
  | bound + 1, opened, outer, text =>
    match skip flags text with
    | [] => none
    | '[' :: rest =>
      match namedClass? rest with
      | some (isNegated, rest) =>
        if flags.needsCases || (isNegated && !flags.matchesCharacters) then
          none
        else readClass flags bound (opened.add 0) outer rest
      | none =>
        match openClass? flags bound rest with
        | none => none
        | some (inner, rest) =>
          readClass flags bound inner (opened :: outer) rest
    | ']' :: rest =>
      match outer with
      | [] => some (opened.height + 1, rest)
      | around :: outer =>
        readClass flags bound (around.add (opened.height + 1)) outer rest
    | '&' :: '&' :: rest | '-' :: '-' :: rest | '~' :: '~' :: rest =>
      readClass flags bound opened.combine outer rest
    | text =>
      match readRange flags text with
      | none => none
      | some rest => readClass flags bound (opened.add 0) outer rest

end Pattern

end MemoryWatch
