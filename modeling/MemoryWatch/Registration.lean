import MemoryWatch.Cgroup
import MemoryWatch.Channel

/-!
# Registration of a listener

The kernel learns about a listener from one line of text: the number of the
event channel, a space, and the number of the control file.  The line has to
arrive in a single write call, since the kernel reads it as a whole.  Under the
strict policy anything else is an error; under the lenient policy it is
reported in the log and the watcher goes on.
-/

namespace MemoryWatch

namespace Registration

/-- The most bytes of a registration. -/
def capacity : Nat := 25

/-- The text that registers an event channel for a control file, if it has at
most `capacity` bytes. -/
def message (channel oomControl : Int) (capacity : Nat) :
    Except WatchError String :=
  let text := s!"{channel} {oomControl}"
  if capacity < (Utf8.ofString text).length then
    .error (.messageTooLong text capacity)
  else .ok text

/-- What the outcome of the write call comes to. -/
def judge (policy : RegistrationPolicy) (path : Path) (expected : Nat)
    (outcome : Except SystemError Nat) :
    Except WatchError Nat × List LogEvent :=
  match outcome with
  | .ok written =>
    if written = expected then (.ok written, [])
    else
      let error := WatchError.registrationIncomplete path written expected
      match policy with
      | .strict => (.error error, [])
      | .lenient => (.ok written, [.registrationIncomplete error])
  | .error cause =>
    match policy with
    | .strict => (.error (.controlUnavailable path cause), [])
    | .lenient => (.ok 0, [.registrationFailed path cause])

/-- Register through an endpoint that `write` writes to: one call with the
whole text, whose outcome is judged by the policy. -/
def register {ε : Type} (write : List UInt8 → ε → Except SystemError Nat × ε)
    (policy : RegistrationPolicy) (path : Path) (text : String)
    (endpoint : ε) : Except WatchError Nat × List LogEvent × ε :=
  let bytes := Utf8.ofString text
  let (outcome, endpoint) := write bytes endpoint
  let (result, warnings) := judge policy path bytes.length outcome
  (result, warnings, endpoint)

/-- Write to an open control file.  The call does not wait. -/
def writeControl (control : Descriptor) (bytes : List UInt8)
    (env : Environment) : Except SystemError Nat × Environment :=
  let (answer, host) := env.host.write control bytes
  let env := { env with host }.record (.registered bytes answer)
  match answer with
  | .done written => (.ok written, env)
  | .failed cause => (.error cause, env)
  | .blocked => (.error .wouldWait, env)

end Registration

end MemoryWatch
