import MemoryWatch.Path

/-!
# Control files of a memory cgroup

A watcher needs two files of the cgroup directory: the one to which a listener
is written, and the one that the listener is tied to.
-/

namespace MemoryWatch

namespace Cgroup

/-- The file that takes registrations. -/
def eventControlName : String := "cgroup.event_control"

/-- The file whose events are reported. -/
def oomControlName : String := "memory.oom_control"

/-- The path of the file that takes registrations. -/
def eventControl (root : Path) : Path :=
  root.join (Utf8.ofString eventControlName)

/-- The path of the file whose events are reported. -/
def oomControl (root : Path) : Path :=
  root.join (Utf8.ofString oomControlName)

end Cgroup

end MemoryWatch
