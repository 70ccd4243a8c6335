/-!
# How a watch ends

A watch that does not fail ends because the cgroup is gone or because somebody
asked for it, and counts the records that it delivered.
-/

namespace MemoryWatch

/-- Why a watch ended without an error. -/
inductive Termination where
  | cgroupRemoved
  | cancelled
  deriving DecidableEq, Repr

namespace Termination

/-- The name of an end in a log line. -/
def label : Termination → String
  | cgroupRemoved => "CgroupRemoved"
  | cancelled => "Cancelled"

end Termination

/-- The end of a watch and the number of delivered records. -/
structure Summary where
  termination : Termination
  notifications : Nat
  deriving DecidableEq, Repr

end MemoryWatch
