/-!
# Plain text

A message that quotes what somebody typed could carry instructions for the
terminal.  The plain form of a text leaves them out: control characters other
than blanks, and the control sequences that an escape character begins.

A blank that cannot belong to the sequence it stands in is kept.  It ends the
sequence when a text is made plain as a whole.  When a text is printed as a
stream, it only interrupts the sequence: what follows shows up to the next
control character that does not, with which the sequence goes on.
-/

namespace MemoryWatch

namespace Plain

/-- Where the reader of a text stands. -/
inductive State where
  | outside
  /-- After an escape character. -/
  | escaped
  /-- After an escape character and some characters between blank and slash. -/
  | prolonged
  /-- Inside a control sequence, which a letter or a sign like it ends. -/
  | sequence
  /-- Inside a command for the terminal, which a bell ends. -/
  | command
  /-- At the start of a string for a device. -/
  | device
  /-- Inside the numbers that a string for a device begins with. -/
  | deviceNumbers
  /-- Inside the signs that a string for a device goes on with. -/
  | deviceSigns
  /-- Inside the body of a string, which the string terminator ends. -/
  | body
  /-- After a blank that has interrupted a sequence. -/
  | interrupted (inner : State)
  deriving DecidableEq, Repr

/-- The character that begins a control sequence. -/
def escape : Char := Char.ofNat 0x1B

/-- The character that rings the bell. -/
def bell : Char := Char.ofNat 0x07

/-- The blanks among the control characters. -/
def isControlBlank (character : Char) : Bool :=
  character = '\t' || character = '\n' || character = '\r' ||
    character = Char.ofNat 0x0C

/-- The two control characters that break off a control sequence. -/
def isBreak (character : Char) : Bool :=
  character = Char.ofNat 0x18 || character = Char.ofNat 0x1A

/-- Whether a character shows outside of any control sequence. -/
def isShown (character : Char) : Bool :=
  isControlBlank character ||
    (0x20 ≤ character.toNat && character.toNat ≠ 0x7F)

/-- Whether a character may prolong an escape sequence. -/
def isIntermediate (character : Char) : Bool :=
  0x20 ≤ character.toNat && character.toNat ≤ 0x2F

/-- Whether a character may end an escape sequence. -/
def isFinal (character : Char) : Bool :=
  0x30 ≤ character.toNat && character.toNat ≤ 0x7E

/-- Whether a character belongs to the numbers of a sequence. -/
def isNumeric (character : Char) : Bool :=
  0x30 ≤ character.toNat && character.toNat ≤ 0x3B

/-- Whether a character may end a control sequence. -/
def isSequenceFinal (character : Char) : Bool :=
  0x40 ≤ character.toNat && character.toNat ≤ 0x7E

/-- Whether the string terminator is among the bytes of a character.  The
terminal reads bytes, so that any such character ends a string. -/
def hasTerminator (character : Char) : Bool :=
  (String.utf8EncodeChar character).contains 0x9C

/-- What an escape character begins together with the character after it. -/
def afterEscape (character : Char) : State :=
  if isIntermediate character then .prolonged
  else if character = '[' then .sequence
  else if character = ']' then .command
  else if character = 'P' then .device
  else if character = 'X' ∨ character = '^' ∨ character = '_' then .body
  else if isFinal character then .outside
  else .escaped

/-- Where the reader of a string for a device stands after a character, given
that its body has not begun. -/
def afterDevice (state : State) (character : Char) : State :=
  if isIntermediate character then .deviceSigns
  else if isSequenceFinal character then .body
  else if isFinal character then
    if state = .device then .deviceNumbers
    else if state = .deviceNumbers ∧ isNumeric character then .deviceNumbers
    else .body
  else state

/-- How a text is made plain. -/
inductive Manner where
  | whole
  | stream
  deriving DecidableEq, Repr

/-- Where the reader stands after a blank inside a sequence. -/
def afterBlank (manner : Manner) (inner : State) : State :=
  match manner with
  | .whole => .outside
  | .stream => .interrupted inner

/-- Where the reader stands after a character that no sequence contains, when
an interrupted sequence may go on. -/
def afterInterruption (inner : State) (character : Char) : State :=
  if !isShown character then inner
  else if character.toNat < 0x80 then .interrupted inner
  else .outside

/-- Read one character: whether it shows, and where the reader stands after
it. -/
def step (manner : Manner) (state : State) (character : Char) : Bool × State :=
  if character = escape then (false, .escaped)
  else if isBreak character then (false, .outside)
  else
    match state with
    | .outside => (isShown character, .outside)
    | .interrupted inner =>
      (isShown character, afterInterruption inner character)
    | .escaped =>
      if isControlBlank character then (true, afterBlank manner .escaped)
      else (false, afterEscape character)
    | .prolonged =>
      if isControlBlank character then (true, afterBlank manner .prolonged)
      else (false, if isFinal character then .outside else .prolonged)
    | .sequence =>
      if isControlBlank character then (true, afterBlank manner .sequence)
      else (false, if isSequenceFinal character then .outside else .sequence)
    | .command => (false, if character = bell then .outside else .command)
    | .device | .deviceNumbers | .deviceSigns =>
      (false, afterDevice state character)
    | .body => (false, if hasTerminator character then .outside else .body)

/-- The characters of a text that show, from some point on. -/
def shownFrom (manner : Manner) : State → List Char → List Char
  | _, [] => []
  | state, character :: rest =>
    let (shown, next) := step manner state character
    if shown then character :: shownFrom manner next rest
    else shownFrom manner next rest

/-- The plain form of a text. -/
def ofString (manner : Manner) (text : String) : String :=
  String.ofList (shownFrom manner .outside text.toList)

end Plain

end MemoryWatch
