import MemoryWatch.Log.Pattern.Basic
import MemoryWatch.Packages
import MemoryWatch.Text.Decimal
import MemoryWatch.Text.Separated

/-!
# Log filters

A log setting is a list of directives separated by commas.  A directive is a
level, or the beginning of the names of some parts of the program, perhaps with
a level for them.  Of the directives that cover an event the most specific one
decides, and an event that none covers is left out.  A setting that cannot be
read is put aside.

A directive may also name a span of work or a value in brackets.  The program
has no spans, so the former never covers anything; the latter covers the events
that have such a value.

Blanks around a directive do not count when its parts are told apart, but the
parts are cut out of the whole text at the places found, so that blanks before
a directive move each of its parts.  A text cannot be cut inside a character:
the reader breaks off the program when a directive would have to be.
-/

namespace MemoryWatch

/-- One directive of a log setting. -/
structure LogDirective where
  /-- What the names of the covered parts begin with. -/
  target : List Char := []
  /-- A value that a covered event has. -/
  field : Option (List Char) := none
  /-- Whether the directive is about spans of work alone. -/
  spansOnly : Bool := false
  /-- The detail that the directive allows. -/
  detail : Nat
  deriving DecidableEq, Repr

/-- Why a directive is not read. -/
inductive DirectiveFault where
  /-- It has not the form of a directive. -/
  | malformed
  /-- One of its parts would begin or end inside a character. -/
  | cutCharacter
  deriving DecidableEq, Repr

namespace LogDirective

/-- The names of the levels with the detail that each stands for. -/
def levelNames : List (String × Nat) :=
  [("off", 0), ("error", 1), ("warn", 2), ("info", 3), ("debug", 4),
   ("trace", 5)]

/-- The detail of everything. -/
def everything : Nat := 5

/-- The detail of a level that is given by its name or its number. -/
def level? (text : List Char) : Option Nat :=
  match Decimal.readWord text with
  | .ok number =>
    if number.toNat ≤ everything then some number.toNat else none
  | .error _ =>
    (levelNames.find? fun entry =>
      RecordFormat.foldCase entry.1 = text.map Char.toLower).map Prod.snd

/-- The number of bytes of a text. -/
def size (text : List Char) : Nat :=
  (Utf8.encode text).length

/-- Split a text after so many bytes, if no character is cut by that. -/
def splitAt? : Nat → List Char → Option (List Char × List Char)
  | 0, text => some ([], text)
  | _, [] => none
  | place, character :: rest =>
    if character.utf8Size ≤ place then
      (splitAt? (place - character.utf8Size) rest).map fun (before, after) =>
        (character :: before, after)
    else none

/-- The part of a text between two places, counted in bytes. -/
def cut (text : List Char) (start stop : Nat) :
    Except DirectiveFault (List Char) :=
  match (splitAt? start text).bind fun (_, rest) =>
      splitAt? (stop - start) rest with
  | none => .error .cutCharacter
  | some (part, _) => .ok part

/-- The detail at the end of a directive, where `rest` begins so many bytes
after the start of the directive.  Without a level it is everything. -/
def limit (text : List Char) (place : Nat) :
    List Char → Except DirectiveFault Nat
  | [] => .ok everything
  | '=' :: _ =>
    match cut text (place + 1) (size text) with
    | .error fault => .error fault
    | .ok [] => .ok everything
    | .ok level =>
      match level? level with
      | none => .error .malformed
      | some detail => .ok detail
  | _ => .error .malformed

/-- Whether a directive can begin with a character. -/
def isOpening (character : Char) : Bool :=
  Letter.isAlphanumeric character || character = '-' || character = ':' ||
    character = '_' || character = '['

/-- Whether a value can be asked for, with a pattern between the first and the
second equals sign if there is one. -/
def isReadableField (field : List Char) : Bool :=
  field ≠ [] &&
    match Separated.parts '=' field with
    | _ :: pattern :: _ => Pattern.isReadable pattern
    | _ => true

/-- Read the value that a directive asks for, which begins so many bytes after
the start of the directive. -/
def readField (text : List Char) (place : Nat) (inner : List Char)
    (directive : LogDirective) : Except DirectiveFault LogDirective :=
  let stop := place + size (inner.takeWhile (· ≠ '\x7d'))
  match inner.dropWhile (· ≠ '\x7d') with
  | [] => .error .malformed
  | _ :: rest =>
    match cut text place stop with
    | .error fault => .error fault
    | .ok field =>
      match isReadableField field, rest with
      | true, ']' :: rest =>
        match limit text (stop + 2) rest with
        | .error fault => .error fault
        | .ok detail =>
          .ok
            { directive with
              field := some field
              spansOnly := directive.spansOnly || field.contains '='
              detail }
      | _, _ => .error .malformed

/-- Read what follows an opening bracket, which begins so many bytes after the
start of the directive. -/
def readBracket (text target : List Char) (place : Nat) (inner : List Char) :
    Except DirectiveFault LogDirective :=
  let isName := fun character => character ≠ ']' && character ≠ '\x7b'
  let name := inner.takeWhile isName
  let stop := place + size name
  match inner.dropWhile isName with
  | [] => .error .malformed
  | mark :: rest =>
    match cut text place stop with
    | .error fault => .error fault
    | .ok _ =>
      if mark = ']' then
        match limit text (stop + 1) rest with
        | .error fault => .error fault
        | .ok detail => .ok { target, spansOnly := true, detail }
      else
        readField text (stop + 1) rest
          { target, spansOnly := name ≠ [], detail := everything }

/-- Read a directive. -/
def read (text : List Char) : Except DirectiveFault LogDirective :=
  let shape := Blank.trim text
  let isName := fun character => character ≠ '=' && character ≠ '['
  let place := size (shape.takeWhile isName)
  if !shape.head?.any isOpening then .error .malformed
  else
    match shape.dropWhile isName with
    | [] =>
      match level? text with
      | some detail => .ok { detail }
      | none => .ok { target := text, detail := everything }
    | mark :: rest =>
      match cut text 0 place with
      | .error fault => .error fault
      | .ok target =>
        if mark = '[' then readBracket text target (place + 1) rest
        else
          match limit text place (mark :: rest) with
          | .error fault => .error fault
          | .ok detail => .ok { target, detail }

/-- Whether an event has a value.  Every event has a message. -/
def hasField (event : LogEvent) (name : List Char) : Bool :=
  name = "message".toList ||
    event.fields.any fun field => field.1.toList = name

/-- Whether a directive covers an event. -/
def covers (directive : LogDirective) (event : LogEvent) : Bool :=
  !directive.spansOnly &&
    directive.target.isPrefixOf event.target.toList &&
    directive.field.all (hasField event)

/-- How specific a directive is: first by the length of its target, then by
whether it asks for a value.  Between two that are alike in this, the order of
their names decides. -/
def rank (directive : LogDirective) : List Nat :=
  let target := Utf8.encode directive.target
  let field := directive.field.map Utf8.encode
  target.length :: field.toList.length ::
    (target ++ field.getD []).map UInt8.toNat

end LogDirective

/-- Which events are shown. -/
structure LogFilter where
  directives : List LogDirective
  deriving DecidableEq, Repr

namespace LogFilter

/-- The filter that goes by the level alone. -/
def ofLevel (level : Level) : LogFilter :=
  ⟨[{ detail := level.detail }]⟩

/-- The directive that decides about an event.  Of two with the same names it
is the later. -/
def deciding (filter : LogFilter) (event : LogEvent) : Option LogDirective :=
  filter.directives.foldl
    (fun best directive =>
      if directive.covers event &&
          best.all fun (other : LogDirective) =>
            !directive.rank.lex other.rank
      then some directive
      else best)
    none

/-- Whether an event is shown. -/
def shows (filter : LogFilter) (event : LogEvent) : Bool :=
  (filter.deciding event).any fun directive =>
    event.level.detail ≤ directive.detail

/-- Read a log setting up to the first fault.  One without directives shows
errors. -/
def read (text : List Char) : Except DirectiveFault LogFilter :=
  let parts := (Separated.parts ',' text).filter (· ≠ [])
  match parts.mapM LogDirective.read with
  | .error fault => .error fault
  | .ok [] => .ok (ofLevel .error)
  | .ok directives => .ok ⟨directives⟩

/-- Read a log setting.  One that would have to be cut inside a character breaks
off the program. -/
def ofSetting (setting : Option (List UInt8)) : FilterReading :=
  match (setting.bind Utf8.decode?).map read with
  | some (.ok filter) => .filter filter.shows
  | some (.error .cutCharacter) => .panicked
  | some (.error .malformed) | none => .refused

end LogFilter

end MemoryWatch
