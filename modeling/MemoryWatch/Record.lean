import MemoryWatch.Counter
import MemoryWatch.Settings
import MemoryWatch.Text.Hexadecimal

/-!
# Notification records

Each notification becomes one record: a line of text, a line holding one JSON
object, or the eight bytes of the counter.  A line ends with the only line feed
it contains, since the quoting of the cgroup's name escapes every control
character.
-/

namespace MemoryWatch

namespace Record

/-- One character inside a JSON string. -/
def escape (character : Char) : List Char :=
  if character = '"' then ['\\', '"']
  else if character = '\\' then ['\\', '\\']
  else if character = Char.ofNat 0x08 then ['\\', 'b']
  else if character = Char.ofNat 0x0C then ['\\', 'f']
  else if character = '\n' then ['\\', 'n']
  else if character = '\r' then ['\\', 'r']
  else if character = '\t' then ['\\', 't']
  else if character.toNat < 0x20 then
    ['\\', 'u', '0', '0'] ++ Hexadecimal.pair character.toNat
  else [character]

/-- A JSON string. -/
def quote (text : List Char) : List Char :=
  '"' :: text.flatMap escape ++ ['"']

/-- The decimal digits of a counter. -/
def decimal (counter : UInt64) : List Char :=
  Nat.toDigits 10 counter.toNat

/-- The line of text for a counter. -/
def textLine (counter : UInt64) : List Char :=
  "oom ".toList ++ decimal counter ++ ['\n']

/-- The line with the JSON object for a counter. -/
def jsonLine (cgroup : List Char) (counter : UInt64) : List Char :=
  "\x7b\"event\":\"oom\",\"cgroup\":".toList ++ quote cgroup ++
    ",\"counter\":".toList ++ decimal counter ++ ['\x7d', '\n']

/-- The record of one notification. -/
def encode (format : RecordFormat) (cgroup : Path) (counter : UInt64) :
    List UInt8 :=
  match format with
  | .text => Utf8.encode (textLine counter)
  | .json => Utf8.encode (jsonLine (Utf8.decodeLossy cgroup.bytes) counter)
  | .binary => Counter.toBytes counter

end Record

end MemoryWatch
