import MemoryWatch.Path
import MemoryWatch.SystemError
import MemoryWatch.Text.Quoted

/-!
# Errors of the watcher

Every failure of the watcher is a cause with its data.  `WatchError.message` is
the only place that words them; `WatchError.chain` adds the cause of the
operating system where the message does not already contain it.
-/

namespace MemoryWatch

/-- Why a request does not fit the settings or the state of the watcher. -/
inductive Misuse where
  | emptyCgroup
  | zeroProbeInterval
  | channelExists
  | noChannel
  | channelClosed
  | alreadySubscribed (cgroup : Path)
  | notSubscribed
  | stated (text : String)
  deriving DecidableEq, Repr

namespace Misuse

/-- The text of a misuse. -/
def message : Misuse → String
  | emptyCgroup => "cgroup path is empty"
  | zeroProbeInterval => "probe interval must be greater than zero"
  | channelExists => "eventfd already created"
  | noChannel => "eventfd has not been created"
  | channelClosed => "eventfd has been closed"
  | alreadySubscribed cgroup => s!"{cgroup.display} is already subscribed"
  | notSubscribed => "watch called before subscribe"
  | stated text => text

end Misuse

/-- Why a read of the event channel gave no counter. -/
inductive ReadFailure where
  | failed (cause : SystemError)
  | short (length : Nat)
  deriving DecidableEq, Repr

namespace ReadFailure

/-- The text of a failed read. -/
def message : ReadFailure → String
  | failed cause => cause.message
  | short length => s!"short read of {length} bytes, expected 8"

end ReadFailure

/-- Why an operation of the watcher failed. -/
inductive WatchError where
  | channelCreation (cause : SystemError)
  | controlUnavailable (path : Path) (cause : SystemError)
  | messageTooLong (message : String) (capacity : Nat)
  | channelRead (descriptor : Int) (reason : ReadFailure)
  | registrationIncomplete (path : Path) (written expected : Nat)
  | sink (cause : SystemError)
  | misuse (fault : Misuse)
  deriving DecidableEq, Repr

namespace WatchError

/-- The text of an error. -/
def message : WatchError → String
  | channelCreation _ => "eventfd() failed"
  | controlUnavailable path _ =>
    s!"cgroup control file {path.display} is unavailable"
  | messageTooLong refused capacity =>
    s!"subscription message {Quoted.ofString refused} does not fit in " ++
      s!"{capacity} bytes"
  | channelRead descriptor reason =>
    s!"could not read from eventfd {descriptor}: {reason.message}"
  | registrationIncomplete path written expected =>
    s!"registration write to {path.display} incomplete: " ++
      s!"{written} of {expected} bytes"
  | sink _ => "could not write notification to sink"
  | misuse fault => s!"configuration error: {fault.message}"

/-- The cause behind an error that its message leaves out. -/
def cause? : WatchError → Option SystemError
  | channelCreation cause => some cause
  | controlUnavailable _ cause => some cause
  | sink cause => some cause
  | messageTooLong _ _ => none
  | channelRead _ _ => none
  | registrationIncomplete _ _ _ => none
  | misuse _ => none

/-- The text of an error together with the cause behind it. -/
def chain (error : WatchError) : String :=
  match error.cause? with
  | some cause => s!"{error.message}: {cause.message}"
  | none => error.message

end WatchError

end MemoryWatch
