import MemoryWatch.Environment

/-!
# The event channel

The kernel adds to an event counter; the watcher waits until there is something
to read, reads the sum and thereby clears it.  A second counter that nobody
reads serves as a cancel handle: once it has been added to, every wait that
looks at it ends as cancelled.

A wait looks at both files first.  If neither is ready, the next group of
scheduled actions happens, and so on until something is ready, a group has let
the limit of the wait expire, or no group is left; then a wait with a limit
times out and one without a limit goes on for ever.  How long a limit is makes
no difference to what may happen before it expires.
-/

namespace MemoryWatch

namespace Channel

/-- Make an event channel. -/
def create (env : Environment) : Except WatchError Descriptor × Environment :=
  match env.create (.counter 0) with
  | (.error cause, env) => (.error (.channelCreation cause), env)
  | (.ok channel, env) => (.ok channel, env.note (.channelCreated channel))

/-- Make a cancel handle.  It is a counter too, but nothing is logged. -/
def createCancel (env : Environment) :
    Except WatchError Descriptor × Environment :=
  match env.create (.counter 0) with
  | (.error cause, env) => (.error (.channelCreation cause), env)
  | (.ok handle, env) => (.ok handle, env)

/-- How a wait ends at once, if it does.  A cancel handle counts when it can be
read; the channel counts when a read of it has something to tell. -/
def glance (channel : Descriptor) (cancel : Option Descriptor)
    (env : Environment) : Option Wake :=
  let other :=
    match cancel with
    | some handle => env.host.readiness handle
    | none => ⟨false, false⟩
  if other.readable then some .cancelled
  else if (env.host.readiness channel).any || other.any then some .notified
  else none

/-- Whether a wait cannot begin, since it is about more descriptors than the
process may have. -/
def isBarred (cancel : Option Descriptor) (env : Environment) : Bool :=
  env.host.allowance.bars (cancel.toList.length + 1)

/-- Wait while the scheduled groups happen, until something is ready or the
limit has expired.  What a group has made ready ends the wait even if the limit
expires with it.  A group with an interruption makes the wait begin anew unless
the group has made something ready. -/
def await (channel : Descriptor) (cancel : Option Descriptor)
    (limit : Option Nat) :
    Schedule → Environment → Answer SystemError Wake × Environment
  | [], env =>
    (if limit.isSome then .done .timedOut else .blocked,
     { env with schedule := [] })
  | group :: later, env =>
    let isInterrupted := group.contains .interrupt
    let env := { env with schedule := later }.actAll (some channel) group
    let env := if isInterrupted then env.record .interrupted else env
    match glance channel cancel env with
    | some wake => (.done wake, env)
    | none =>
      if isInterrupted && isBarred cancel env then
        (.failed .invalidArgument, env)
      else if limit.isSome && group.contains .expire then
        (.done .timedOut, env)
      else await channel cancel limit later env

/-- Wait until the channel can be read, the cancel handle has fired, or the
time is over.  Without a time the wait has no end of its own. -/
def wait (channel : Descriptor) (cancel : Option Descriptor)
    (timeout : Option Duration) (env : Environment) :
    Answer WatchError Wake × Environment :=
  let limit := timeout.map Duration.waitMilliseconds
  let (answer, env) :=
    if isBarred cancel env then (.failed .invalidArgument, env)
    else
      match glance channel cancel env with
      | some wake => (.done wake, env)
      | none => await channel cancel limit env.schedule env
  (answer.mapCause fun cause => .channelRead channel (.failed cause),
   env.record (.waited limit answer))

/-- The counter in the bytes of a read, which have to be eight. -/
def decode (bytes : List UInt8) : Except ReadFailure UInt64 :=
  if bytes.length = Counter.size then .ok (Counter.ofBytes bytes)
  else .error (.short bytes.length)

/-- Read the bytes of the channel, again after each of so many
interruptions. -/
def readBytes (channel : Descriptor) :
    Nat → Environment → Answer SystemError (List UInt8) × Environment
  | interruptions + 1, env =>
    readBytes channel interruptions (env.record .interrupted)
  | 0, env =>
    let (answer, host) := env.host.read channel
    (answer, { env with host }.record (.read answer))

/-- Read the channel and thereby clear its counter. -/
def read (channel : Descriptor) (env : Environment) :
    Answer WatchError UInt64 × Environment :=
  let (answer, env) :=
    readBytes channel (env.interruptions.headD 0)
      { env with interruptions := env.interruptions.tail }
  match answer with
  | .done bytes =>
    match decode bytes with
    | .ok counter => (.done counter, env)
    | .error reason => (.failed (.channelRead channel reason), env)
  | .failed cause => (.failed (.channelRead channel (.failed cause)), env)
  | .blocked => (.blocked, env)

/-- A second descriptor for the channel's counter, for use outside. -/
def notifier (channel : Descriptor) (env : Environment) :
    Except SystemError Descriptor × Environment :=
  let (outcome, host) := env.host.duplicate channel
  (outcome, { env with host })

/-- Add to the channel's counter through a descriptor made for this purpose. -/
def notifyOnce (channel : Descriptor) (count : UInt64) (env : Environment) :
    Except SystemError (Answer SystemError Unit) × Environment :=
  match notifier channel env with
  | (.error cause, env) => (.error cause, env)
  | (.ok second, env) =>
    let (answer, env) := env.add second count
    (.ok answer, { env with host := env.host.close second })

end Channel

end MemoryWatch
