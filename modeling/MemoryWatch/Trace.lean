import MemoryWatch.Host.Basic

/-!
# Outward steps

The trace of a watcher lists what it did to the world around it, in order:
descriptors made and given up, the registration write, waits, reads, records
handed to the sink, and looks at the cgroup.  It also lists the additions that
others made to the event counter, so that what was added can be compared with
what was read.
-/

namespace MemoryWatch

/-- How a wait on the event channel ends. -/
inductive Wake where
  | notified
  | cancelled
  | timedOut
  deriving DecidableEq, Repr

namespace Wake

/-- The name of a wake. -/
def label : Wake → String
  | notified => "Notified"
  | cancelled => "Cancelled"
  | timedOut => "TimedOut"

end Wake

/-- One outward step. -/
inductive Step where
  | opened (descriptor : Descriptor)
  | closed (descriptor : Descriptor)
  | registered (message : List UInt8) (answer : Answer SystemError Nat)
  | waited (milliseconds : Option Nat) (answer : Answer SystemError Wake)
  | read (answer : Answer SystemError (List UInt8))
  | delivered (counter : UInt64) (outcome : Except SystemError Unit)
  | probed (present : Bool)
  | added (count : UInt64)
  /-- A wait or a read was interrupted and is repeated. -/
  | interrupted
  deriving Repr

end MemoryWatch
