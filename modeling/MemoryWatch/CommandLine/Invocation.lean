import MemoryWatch.Settings

/-!
# Invocations of the program

A command line names the cgroup to watch and may ask for verbose logs, another
format, a probe interval in milliseconds and lenient registration.
-/

namespace MemoryWatch

/-- What a command line asks for. -/
structure Invocation where
  cgroup : Path
  verbose : Bool := false
  format : RecordFormat := .text
  probeInterval : Option UInt64 := none
  lenient : Bool := false
  deriving DecidableEq, Repr

namespace Invocation

/-- The settings that an invocation stands for, usable or not. -/
def request (invocation : Invocation) : Settings where
  cgroup := invocation.cgroup
  format := invocation.format
  probeInterval :=
    invocation.probeInterval.map fun milliseconds =>
      Duration.ofMilliseconds milliseconds.toNat
  registration := if invocation.lenient then .lenient else .strict

/-- The settings for an invocation, if they are usable. -/
def settings (invocation : Invocation) : Except WatchError Settings :=
  match invocation.request.validate with
  | .error error => .error error
  | .ok () => .ok invocation.request

end Invocation

end MemoryWatch
