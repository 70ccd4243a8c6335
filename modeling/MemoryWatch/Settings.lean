import MemoryWatch.Duration
import MemoryWatch.WatchError

/-!
# Settings of a watcher

A watcher is told which cgroup to watch, in which format to report, how often
to look for the cgroup while nothing happens, and what to do when the
registration with the kernel does not go through whole.
-/

namespace MemoryWatch

/-- How a notification is written. -/
inductive RecordFormat where
  | text
  | json
  | binary
  deriving DecidableEq, Repr

namespace RecordFormat

/-- Every format. -/
def all : List RecordFormat := [text, json, binary]

/-- The name of a format on the command line. -/
def name : RecordFormat → String
  | text => "text"
  | json => "json"
  | binary => "binary"

/-- The name of a format in a log line. -/
def label : RecordFormat → String
  | text => "Text"
  | json => "Json"
  | binary => "Binary"

/-- A text with its ASCII capitals made small. -/
def foldCase (text : String) : List Char :=
  text.toList.map Char.toLower

/-- The format with a name, where the case of ASCII letters may be ignored. -/
def ofName? (ignoreCase : Bool) (given : String) : Option RecordFormat :=
  all.find? fun format =>
    if ignoreCase then foldCase format.name = foldCase given
    else format.name = given

end RecordFormat

/-- What to do about a registration that was written short or not at all. -/
inductive RegistrationPolicy where
  | strict
  | lenient
  deriving DecidableEq, Repr

/-- What a watcher is told. -/
structure Settings where
  cgroup : Path
  format : RecordFormat := .text
  probeInterval : Option Duration := none
  registration : RegistrationPolicy := .strict
  deriving DecidableEq, Repr

namespace Settings

/-- Settings are usable when the cgroup path is not empty and the probe
interval, if there is one, is not zero. -/
def validate (settings : Settings) : Except WatchError Unit :=
  if settings.cgroup.isEmpty then
    .error (.misuse .emptyCgroup)
  else if settings.probeInterval = some ⟨0⟩ then
    .error (.misuse .zeroProbeInterval)
  else
    .ok ()

end Settings

end MemoryWatch
