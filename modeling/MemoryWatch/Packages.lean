import MemoryWatch.CommandLine.Invocation
import MemoryWatch.Host.Basic
import MemoryWatch.Log.Event

/-!
# What the program is built on

The program leaves it to packages to read its command line and its log setting,
and to make the runtime and the thread that it watches on.  What it relies on is
only how they answer.
-/

namespace MemoryWatch

/-- What a parser of command lines has to tell instead of an invocation. -/
structure Notice where
  /-- Whether the command line is at fault.  If not, it has asked for the
  text. -/
  isFault : Bool
  text : String
  deriving DecidableEq, Repr

/-- What comes of reading a log setting. -/
inductive FilterReading where
  | filter (shows : LogEvent → Bool)
  /-- There is no setting, or none that can be read. -/
  | refused
  /-- The reader breaks off the program. -/
  | panicked

/-- The packages that the program is built on.  What needs the system may change
the host. -/
structure Packages where
  /-- Read a command line, the first word of which is the program's name. -/
  parse : List Path → Except Notice Invocation
  /-- Read a log setting. -/
  readSetting : Option (List UInt8) → FilterReading
  /-- Whether an event is shown by a filter for a level. -/
  showsAt : Level → LogEvent → Bool
  /-- Make the runtime, if that is possible. -/
  runtime : Host → Option Host
  /-- Make the thread for the watch, if that is possible. -/
  thread : Host → Option Host
  /-- Listen for requests to shut down. -/
  listen : Host → Except SystemError Host

end MemoryWatch
