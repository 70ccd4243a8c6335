import MemoryWatch.CommandLine.Help
import MemoryWatch.Packages
import MemoryWatch.Watcher.Loop

/-!
# The program

The program reads its command line, watches the cgroup until that is over, and
writes the records to its output and everything else to its diagnostics.  A
request to shut down cancels the watch.  It exits with zero when it was asked
for information, when the cgroup is gone and when it was cancelled, and with
one after any error.

It breaks off when there is no runtime or no thread for it, when its name is not
well-formed text, and when the reader of its log setting does.
-/

namespace MemoryWatch

/-- One thing that the program tells besides its records. -/
inductive Diagnostic where
  /-- An event of the log. -/
  | event (reported : LogEvent)
  /-- A fault of the command line. -/
  | fault (text : String)
  /-- The error that ended the program of a name. -/
  | failure (name : String) (error : WatchError)
  deriving DecidableEq, Repr

namespace Diagnostic

/-- The text of a diagnostic. -/
def text : Diagnostic → String
  | event reported => reported.line
  | fault text => text
  | failure name error => s!"{name}: {error.chain}"

end Diagnostic

/-- What a program leaves behind when it has exited. -/
structure ProgramExit where
  exitCode : UInt8
  output : List UInt8
  diagnostics : List Diagnostic
  deriving DecidableEq, Repr

/-- What becomes of a program. -/
inductive ProgramOutcome where
  | exited (exit : ProgramExit)
  /-- It has broken off. -/
  | panicked
  /-- It never ends. -/
  | endless
  deriving DecidableEq, Repr

namespace Program

/-- The name under which the program was called, if it is well-formed. -/
def name? : List Path → Option String
  | [] => some CommandLine.programName
  | word :: _ => (Utf8.decode? word.bytes).map String.ofList

/-- Tell what the parser of the command line has to tell, and end.  A text for
the output that cannot be written is lost. -/
def tell (notice : Notice) (env : Environment) : ProgramExit :=
  if notice.isFault then ⟨1, [], [.fault notice.text]⟩
  else
    let (_, sink) := env.sink.writeAll (Utf8.ofString notice.text)
    ⟨0, Sink.received sink.calls, []⟩

/-- Listen for requests to shut down, which fire a handle.  If that fails, there
are none. -/
def listen (packages : Packages) (cancel : Descriptor) (env : Environment) :
    Environment :=
  match packages.listen env.host with
  | .ok host => { env with host, canceller := some cancel }
  | .error cause => { env with canceller := none }.note (.notListening cause)

/-- Watch as an invocation asks, with a cancel handle that a request to shut
down fires.  There is no answer when the program breaks off. -/
def supervise (packages : Packages) (invocation : Invocation)
    (env : Environment) : Option (Answer WatchError Summary × Environment) :=
  match invocation.settings with
  | .error error => some (.failed error, env)
  | .ok settings =>
    match Channel.createCancel
        (env.note (.watching settings.cgroup settings.format)) with
    | (.error error, env) => some (.failed error, env)
    | (.ok cancel, env) =>
      match packages.thread env.host with
      | none => none
      | some host =>
        let watcher : Watcher := { settings, cancel := some cancel }
        let (answer, _, env) :=
          watcher.run (listen packages cancel { env with host })
        some (answer, { env with canceller := none }.close cancel)

/-- The events that a filter shows. -/
def shown (shows : LogEvent → Bool) (events : List LogEvent) :
    List Diagnostic :=
  (events.filter shows).map .event

/-- What becomes of the program of a name after its watch, when it shows the
events that a filter lets through. -/
def conclude (name : String) (shows : LogEvent → Bool) :
    Option (Answer WatchError Summary × Environment) → ProgramOutcome
  | none => .panicked
  | some (.blocked, _) => .endless
  | some (.failed error, env) =>
    .exited ⟨1, Sink.received env.sink.calls,
      shown shows env.log ++ [.failure name error]⟩
  | some (.done summary, env) =>
    .exited ⟨0, Sink.received env.sink.calls,
      shown shows (env.log ++ [.stopped summary])⟩

/-- Carry out an invocation. -/
def perform (packages : Packages) (name : String) (shows : LogEvent → Bool)
    (invocation : Invocation) (env : Environment) : ProgramOutcome :=
  conclude name shows
    (supervise packages invocation (env.note (.starting CommandLine.version)))

/-- The level down to which events are shown without a log setting. -/
def usualLevel (invocation : Invocation) : Level :=
  if invocation.verbose then .debug else .info

/-- The events that are shown for an invocation under a log setting, unless its
reader breaks off. -/
def filter? (packages : Packages) (invocation : Invocation)
    (logSetting : Option (List UInt8)) : Option (LogEvent → Bool) :=
  match packages.readSetting logSetting with
  | .filter shows => some shows
  | .refused => some (packages.showsAt (usualLevel invocation))
  | .panicked => none

/-- Run the program with the words of its command line, the first of which is
its name, and a log setting. -/
def run (packages : Packages) (words : List Path)
    (logSetting : Option (List UInt8)) (env : Environment) : ProgramOutcome :=
  match packages.runtime env.host, name? words with
  | none, _ | some _, none => .panicked
  | some host, some name =>
    let env := { env with host }
    match packages.parse words with
    | .error notice => .exited (tell notice env)
    | .ok invocation =>
      match filter? packages invocation logSetting with
      | none => .panicked
      | some shows => perform packages name shows invocation env

end Program

end MemoryWatch
