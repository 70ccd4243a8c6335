/-!
# Durations

A duration counts nanoseconds.  The operating system waits in whole
milliseconds held in a signed 32-bit number, so a wait rounds down and
saturates.
-/

namespace MemoryWatch

/-- A length of time. -/
structure Duration where
  nanoseconds : Nat
  deriving DecidableEq, Repr

namespace Duration

/-- A duration of whole seconds and some nanoseconds. -/
def ofParts (seconds nanoseconds : Nat) : Duration :=
  ⟨seconds * 1000000000 + nanoseconds⟩

/-- A duration of whole milliseconds. -/
def ofMilliseconds (milliseconds : Nat) : Duration :=
  ⟨milliseconds * 1000000⟩

/-- The whole seconds. -/
def seconds (duration : Duration) : Nat :=
  duration.nanoseconds / 1000000000

/-- The nanoseconds beyond the whole seconds. -/
def subsecond (duration : Duration) : Nat :=
  duration.nanoseconds % 1000000000

/-- The longest wait in milliseconds. -/
def longestWait : Nat := 2147483647

/-- The length of the wait for a duration, in milliseconds. -/
def waitMilliseconds (duration : Duration) : Nat :=
  min (duration.nanoseconds / 1000000) longestWait

end Duration

end MemoryWatch
