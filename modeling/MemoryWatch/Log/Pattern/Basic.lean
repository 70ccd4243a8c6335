import MemoryWatch.Log.Pattern.Class
import MemoryWatch.Text.Letter

/-!
# Patterns of values

A log directive may ask for a value that a regular expression matches.  Only
spans of work are compared with such a value, and the program has none, so that
all that counts is whether the pattern can be read: whether it has the form of
one, asks for nothing that takes a table, and is not too high.
-/

namespace MemoryWatch

namespace Pattern

/-- A branch that is being read, with the branches before it between which and
this one there is a choice. -/
structure Choice where
  /-- The heights of the branches before, the last one first. -/
  branches : List Nat := []
  /-- The heights of the things in this branch, the last one first. -/
  row : List Nat := []
  deriving DecidableEq, Repr

namespace Choice

/-- The height of what has been read of a choice. -/
def height (choice : Choice) : Nat :=
  together (together choice.row :: choice.branches)

/-- A choice with one more thing in its last branch. -/
def add (choice : Choice) (height : Nat) : Choice :=
  { choice with row := height :: choice.row }

/-- A choice in which another branch begins. -/
def branch (choice : Choice) : Choice :=
  { branches := together choice.row :: choice.branches }

/-- A choice in which the last thing is repeated. -/
def repeated (choice : Choice) : Choice :=
  match choice.row with
  | [] => choice
  | last :: before => { choice with row := (last + 1) :: before }

end Choice

/-- Where the reader of a pattern stands. -/
structure State where
  flags : Flags := {}
  choice : Choice := {}
  /-- The flags and the choice outside of each open group, the innermost
  first. -/
  outer : List (Flags × Choice) := []
  /-- The names of the groups so far. -/
  names : List (List Char) := []
  /-- Whether there is something before this place that can be repeated. -/
  isRepeatable : Bool := false
  deriving DecidableEq, Repr

namespace State

/-- The state inside a group that opens. -/
def opened (state : State) (flags : Flags) : State :=
  { state with
    flags, choice := {}, outer := (state.flags, state.choice) :: state.outer,
    isRepeatable := false }

/-- The state after something of some height that can be repeated. -/
def passed (state : State) (height : Nat) : State :=
  { state with choice := state.choice.add height, isRepeatable := true }

/-- The state after the group that was opened last, if one is open. -/
def closed? (state : State) : Option State :=
  match state.outer with
  | [] => none
  | (flags, choice) :: outer =>
    some ({ state with flags, choice, outer }.passed (state.choice.height + 1))

/-- The state where another branch begins. -/
def branched (state : State) : State :=
  { state with choice := state.choice.branch, isRepeatable := false }

/-- The state after a sign that repeats what stands before it. -/
def repeated (state : State) : State :=
  { state with choice := state.choice.repeated }

/-- The state after flags that hold from now on.  They cannot be repeated. -/
def reflagged (state : State) (flags : Flags) : State :=
  { state with flags, choice := state.choice.add 0, isRepeatable := false }

/-- Whether a pattern can end here. -/
def isComplete (state : State) : Bool :=
  state.outer.isEmpty && state.choice.height ≤ tallest

end State

/-- Whether a text can name a group. -/
def isGroupName : List Char → Bool
  | [] => false
  | first :: rest =>
    (first = '_' || Letter.isAlphabetic first) &&
      rest.all fun character =>
        ['_', '.', '[', ']'].contains character ||
          Letter.isAlphanumeric character

/-- Read the name of a group and open it. -/
def openNamed (state : State) (text : List Char) :
    Option (State × List Char) :=
  let name := text.takeWhile (· ≠ '>')
  match text.dropWhile (· ≠ '>') with
  | [] => none
  | _ :: rest =>
    if isGroupName name && !state.names.contains name then
      some ({ state.opened state.flags with names := name :: state.names },
        rest)
    else none

/-- Whether a text can stand between a question mark and the end of some
flags: known letters and a minus sign, none of them twice and the sign not at
the end. -/
def areFlags (text : List Char) : Bool :=
  text.all (['i', 'm', 's', 'U', 'u', 'R', 'x', '-'].contains ·) &&
    text.Nodup && text.getLast? ≠ some '-'

/-- Flags after they have been switched by a text. -/
def switched (flags : Flags) (text : List Char) : Flags :=
  let on := text.takeWhile (· ≠ '-')
  let off := text.dropWhile (· ≠ '-')
  off.foldl (·.switch · false) (on.foldl (·.switch · true) flags)

/-- Read flags after a question mark.  They hold for the group that they open,
or from now on. -/
def readFlags (state : State) (text : List Char) :
    Option (State × List Char) :=
  let isLetter := fun character => character ≠ ':' && character ≠ ')'
  let letters := text.takeWhile isLetter
  let flags := switched state.flags letters
  if !areFlags letters then none
  else
    match text.dropWhile isLetter with
    | ':' :: rest => some (state.opened flags, rest)
    | ')' :: rest =>
      if letters = [] then none else some (state.reflagged flags, rest)
    | _ => none

/-- Read what follows an opening parenthesis. -/
def openGroup (state : State) (text : List Char) :
    Option (State × List Char) :=
  match skip state.flags text with
  | '?' :: 'P' :: '<' :: rest => openNamed state rest
  | '?' :: '<' :: rest => openNamed state rest
  | '?' :: rest => readFlags state rest
  | text => some (state.opened state.flags, text)

/-- Read a class or a single character, and answer with its height.  The bound
is at least the length of the text. -/
def readItem (flags : Flags) (bound : Nat) :
    List Char → Option (Nat × List Char)
  | [] => none
  | '[' :: rest =>
    match openClass? flags bound rest with
    | none => none
    | some (opened, rest) => readClass flags bound opened [] rest
  | '\\' :: rest =>
    match readEscape flags rest with
    | none => none
    | some (escaped, rest) =>
      if escaped.isAdmitted flags then some (0, rest) else none
  | '.' :: rest => if flags.matchesCharacters then some (0, rest) else none
  | '^' :: rest | '$' :: rest => some (0, rest)
  | '\x7b' :: _ => none
  | _ :: rest => if flags.needsCases then none else some (0, rest)

/-- Read the rest of a pattern.  A sign that repeats what stands before it may
be followed by a question mark.  The bound is more than the length of the
text. -/
def readFrom : Nat → State → List Char → Bool
  | 0, _, _ => false
  | bound + 1, state, text =>
    match skip state.flags text with
    | [] => state.isComplete
    | '(' :: rest =>
      match openGroup state rest with
      | none => false
      | some (state, rest) => readFrom bound state rest
    | ')' :: rest =>
      match state.closed? with
      | none => false
      | some state => readFrom bound state rest
    | '|' :: rest => readFrom bound state.branched rest
    | '?' :: rest | '*' :: rest | '+' :: rest =>
      let rest := if rest.head? = some '?' then rest.drop 1 else rest
      state.isRepeatable && readFrom bound state.repeated rest
    | text =>
      match readItem state.flags bound.succ text with
      | none => false
      | some (height, rest) => readFrom bound (state.passed height) rest

/-- Whether digits, perhaps with a point among them and an exponent after them,
form a number. -/
def isDecimal (text : List Char) : Bool :=
  let whole := text.takeWhile Char.isDigit
  let rest := text.dropWhile Char.isDigit
  let hasPoint := rest.head? = some '.'
  let rest := if hasPoint then rest.drop 1 else rest
  let fraction := if hasPoint then rest.takeWhile Char.isDigit else []
  let rest := if hasPoint then rest.dropWhile Char.isDigit else rest
  (whole ≠ [] || fraction ≠ []) &&
    match rest with
    | [] => true
    | mark :: rest =>
      let digits :=
        if rest.head? = some '+' ∨ rest.head? = some '-' then rest.drop 1
        else rest
      (mark = 'e' || mark = 'E') && digits ≠ [] && digits.all Char.isDigit

/-- Whether a plus sign and some more text are a number.  All other numbers are
patterns too. -/
def isSignedNumber : List Char → Bool
  | '+' :: rest =>
    isDecimal rest ||
      ["inf", "infinity", "nan"].contains
        (String.ofList (rest.map Char.toLower))
  | _ => false

/-- Whether a text can be asked for: a number, or a pattern that can be
read. -/
def isReadable (text : List Char) : Bool :=
  isSignedNumber text || readFrom text.length.succ {} text

end Pattern

end MemoryWatch
