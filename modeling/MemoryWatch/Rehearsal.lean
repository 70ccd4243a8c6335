import MemoryWatch.CommandLine.Reader
import MemoryWatch.Log.Filter
import MemoryWatch.Program

/-!
# Rehearsals

A rehearsal runs the program on a host of its own, so that nothing depends on a
kernel with memory cgroups.  Its packages read command lines and log settings as
those of the program do, and always have a runtime and a thread.  The script of
a rehearsal has one line for each notification, with its count; the end of the
script asks the program to shut down.
-/

namespace MemoryWatch

namespace Rehearsal

/-- The packages of a rehearsal. -/
def packages : Packages where
  parse := CommandLine.parse
  readSetting := LogFilter.ofSetting
  showsAt level := (LogFilter.ofLevel level).shows
  runtime := some
  thread := some
  listen := .ok

/-- The count on a line of a script, if there is one. -/
def count? (line : String) : Option UInt64 :=
  match Decimal.readWord line.toList with
  | .ok count => some count
  | .error _ => none

/-- The schedule that a script stands for. -/
def schedule (lines : List String) : Schedule :=
  ((lines.filterMap count?).map fun count => [.notify count]) ++ [[.shutdown]]

/-- The cgroup that a command line names, if it names one. -/
def cgroup? (words : List Path) : Option Path :=
  match CommandLine.read words with
  | .ok invocation => some invocation.cgroup
  | .error _ => none

/-- The surroundings of a rehearsal, with the directory of a cgroup if there is
to be one. -/
def environment (cgroup : Option Path) (lines : List String) : Environment :=
  let env := Environment.fresh {}
  let env :=
    match cgroup with
    | none => env
    | some path => env.makeCgroup path
  { env with schedule := schedule lines }

end Rehearsal

end MemoryWatch
