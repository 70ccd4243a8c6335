/-!
# UTF-8 text and its lossy reading

Cgroup paths are arbitrary bytes, while log lines, error messages and JSON
records are text.  This file reads bytes as UTF-8 one byte at a time: every
maximal ill-formed part, that is the longest beginning of a well-formed
sequence found before the byte that breaks it, counts as one ill-formed piece.
The lossy reading shows each such piece as one replacement character.
-/

namespace MemoryWatch

namespace Utf8

/-- The bytes of a text. -/
def encode (text : List Char) : List UInt8 :=
  text.flatMap String.utf8EncodeChar

/-- The bytes of a string. -/
def ofString (text : String) : List UInt8 :=
  encode text.toList

/-- Where the reader stands between two bytes: either between characters, or
inside a sequence that still owes some bytes, the next of which has to lie
between two bounds. -/
inductive State where
  | between
  | inside (owed : Nat) (low high : UInt8) (gathered : Nat)
  deriving DecidableEq, Repr

/-- One piece of the input: a character, or `none` for one maximal ill-formed
part. -/
abbrev Piece := Option Char

/-- Read the first byte of a sequence.  The bounds on the second byte exclude
overlong forms, surrogates and numbers above the last code point. -/
def begin (byte : UInt8) : List Piece × State :=
  let value := byte.toNat
  if value < 0x80 then ([some (Char.ofNat value)], .between)
  else if value < 0xC2 then ([none], .between)
  else if value < 0xE0 then ([], .inside 1 0x80 0xBF (value - 0xC0))
  else if value = 0xE0 then ([], .inside 2 0xA0 0xBF (value - 0xE0))
  else if value = 0xED then ([], .inside 2 0x80 0x9F (value - 0xE0))
  else if value < 0xF0 then ([], .inside 2 0x80 0xBF (value - 0xE0))
  else if value = 0xF0 then ([], .inside 3 0x90 0xBF (value - 0xF0))
  else if value < 0xF4 then ([], .inside 3 0x80 0xBF (value - 0xF0))
  else if value = 0xF4 then ([], .inside 3 0x80 0x8F (value - 0xF0))
  else ([none], .between)

/-- Read one byte.  A byte outside the bounds ends the piece before it as
ill-formed and is then read as a first byte. -/
def step : State → UInt8 → List Piece × State
  | .between, byte => begin byte
  | .inside owed low high gathered, byte =>
    if low ≤ byte ∧ byte ≤ high then
      let value := gathered * 64 + (byte.toNat - 0x80)
      if owed ≤ 1 then ([some (Char.ofNat value)], .between)
      else ([], .inside (owed - 1) 0x80 0xBF value)
    else
      let (pieces, state) := begin byte
      (none :: pieces, state)

/-- The pieces of the remaining bytes.  Input that ends inside a sequence ends
with one ill-formed piece. -/
def piecesFrom : State → List UInt8 → List Piece
  | .between, [] => []
  | .inside _ _ _ _, [] => [none]
  | state, byte :: rest =>
    let (pieces, next) := step state byte
    pieces ++ piecesFrom next rest

/-- The pieces of a byte string. -/
def pieces (bytes : List UInt8) : List Piece :=
  piecesFrom .between bytes

/-- The character that stands for one ill-formed piece. -/
def replacement : Char := Char.ofNat 0xFFFD

/-- Read bytes as text, one replacement character per ill-formed piece. -/
def decodeLossy (bytes : List UInt8) : List Char :=
  (pieces bytes).map (·.getD replacement)

/-- The text of well-formed bytes, and `none` when some piece is ill-formed. -/
def decode? (bytes : List UInt8) : Option (List Char) :=
  (pieces bytes).mapM id

/-- The lossy reading as a string. -/
def lossy (bytes : List UInt8) : String :=
  String.ofList (decodeLossy bytes)

end Utf8

end MemoryWatch
