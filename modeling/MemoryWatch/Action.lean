import MemoryWatch.Path

/-!
# Actions from outside

While a watcher waits or hands a record to its sink, the rest of the system
goes on: files change, the kernel counts further events, somebody asks the
watcher to stop, a signal arrives, the limit on descriptors moves, or the time
that a wait was given is over.  A schedule lists such actions in groups; the
actions of one group happen together.  Time passes only in a schedule: it says
after which of the other actions a limit expires.
-/

namespace MemoryWatch

/-- Something that happens outside the watcher. -/
inductive Action where
  | makeDirectories (path : Path)
  | writeFile (path : Path) (content : List UInt8)
  | makeLink (path target : Path)
  | remove (path : Path)
  | rename (path destination : Path)
  | notify (count : UInt64)
  | cancel
  | interrupt
  /-- The limit of the wait that goes on expires, if it has one. -/
  | expire
  | shutdown
  | allowMore (descriptors : Nat)
  | allowNone
  | allowAll
  deriving DecidableEq, Repr

/-- Groups of actions, the earliest first. -/
abbrev Schedule := List (List Action)

end MemoryWatch
