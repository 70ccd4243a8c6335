import MemoryWatch.Settings
import MemoryWatch.Summary
import MemoryWatch.Text.Visible

/-!
# Log events

Everything that the program reports about its own work is an event with a
level, the part of the program it comes from, a text, and named values.
-/

namespace MemoryWatch

/-- How much an event matters, from most to least. -/
inductive Level where
  | error
  | warn
  | info
  | debug
  | trace
  deriving DecidableEq, Repr

namespace Level

/-- The name of a level in a log line. -/
def label : Level → String
  | error => "ERROR"
  | warn => "WARN"
  | info => "INFO"
  | debug => "DEBUG"
  | trace => "TRACE"

/-- The detail that it takes to see a level: one for errors, five for traces. -/
def detail : Level → Nat
  | error => 1
  | warn => 2
  | info => 3
  | debug => 4
  | trace => 5

end Level

/-- The handles that a watcher closes. -/
inductive HandleKind where
  | channel
  | eventControl
  | oomControl
  deriving DecidableEq, Repr

namespace HandleKind

/-- The name of a handle in a log line. -/
def label : HandleKind → String
  | channel => "eventfd"
  | eventControl => "cgroup.event_control"
  | oomControl => "memory.oom_control"

end HandleKind

/-- Something that the program reports about its own work. -/
inductive LogEvent where
  | starting (version : String)
  | watching (cgroup : Path) (format : RecordFormat)
  | shutdownRequested
  | notListening (cause : SystemError)
  | stopped (summary : Summary)
  | channelCreated (descriptor : Nat)
  | registering (message : String)
  | registrationIncomplete (error : WatchError)
  | registrationFailed (path : Path) (cause : SystemError)
  | subscribed (cgroup : Path) (channel oomControl : Nat)
  | notified (cgroup : Path) (counter : UInt64)
  | cgroupMissing (cgroup : Path) (cause : SystemError)
  | cgroupRemoved (cgroup : Path)
  | cancelled (cgroup : Path)
  | closing (kind : HandleKind) (descriptor : Nat)
  | released (handles : Nat)
  deriving DecidableEq, Repr

namespace LogEvent

/-- The level of an event. -/
def level : LogEvent → Level
  | starting _ | watching _ _ | shutdownRequested | stopped _ => .info
  | subscribed _ _ _ | notified _ _ | cgroupRemoved _ | cancelled _ => .info
  | registrationIncomplete _ | registrationFailed _ _ | notListening _ => .warn
  | channelCreated _ | registering _ | cgroupMissing _ _ => .debug
  | closing _ _ | released _ => .debug

/-- The part of the program that an event comes from. -/
def target : LogEvent → String
  | starting _ | stopped _ => "oomwatch"
  | watching _ _ | shutdownRequested | notListening _ =>
    "oomwatch::cli::commands"
  | channelCreated _ => "oomwatch::watcher::channel"
  | registering _ | subscribed _ _ _ => "oomwatch::watcher::subscription"
  | registrationIncomplete _ | registrationFailed _ _ =>
    "oomwatch::watcher::subscription"
  | notified _ _ | cgroupRemoved _ | cancelled _ | released _ =>
    "oomwatch::watcher"
  | cgroupMissing _ _ => "oomwatch::cgroup"
  | closing _ _ => "oomwatch::watcher::state"

/-- The text of an event. -/
def text : LogEvent → String
  | starting version => s!"Starting oomwatch v{version}"
  | watching _ _ => "Watching cgroup"
  | shutdownRequested => "Shutdown signal received"
  | notListening cause => s!"Failed to listen for Ctrl+C: {cause.message}"
  | stopped _ => "oomwatch stopped"
  | channelCreated _ => "eventfd created"
  | registering _ => "registering OOM listener"
  | registrationIncomplete error => s!"{error.message}; continuing"
  | registrationFailed path cause =>
    s!"registration write to {path.display} failed: {cause.message}; continuing"
  | subscribed _ _ _ => "subscribed to OOM notifications"
  | notified _ _ => "OOM notification"
  | cgroupMissing cgroup cause =>
    s!"cgroup {cgroup.display} no longer present: {cause.message}"
  | cgroupRemoved _ => "cgroup removed, stopping"
  | cancelled _ => "watch cancelled"
  | closing kind _ => s!"closing {kind.label}"
  | released _ => "watcher handles released"

/-- The named values of an event, in the order in which they are shown.  The
value named `message` continues the text. -/
def fields : LogEvent → List (String × String)
  | watching cgroup format =>
    [("cgroup", cgroup.display), ("format", format.label)]
  | stopped summary =>
    [("termination", summary.termination.label),
     ("notifications", toString summary.notifications)]
  | channelCreated descriptor => [("fd", toString descriptor)]
  | registering message => [("message", message)]
  | subscribed cgroup channel oomControl =>
    [("cgroup", cgroup.display), ("event_fd", toString channel),
     ("oom_control_fd", toString oomControl)]
  | notified cgroup counter =>
    [("cgroup", cgroup.display), ("counter", toString counter.toNat)]
  | cgroupRemoved cgroup => [("cgroup", cgroup.display)]
  | cancelled cgroup => [("cgroup", cgroup.display)]
  | closing _ descriptor => [("fd", toString descriptor)]
  | released handles => [("released", toString handles)]
  | starting _ | shutdownRequested | notListening _ | cgroupMissing _ _ => []
  | registrationIncomplete _ | registrationFailed _ _ => []

/-- One named value in a log line: the value named `message` stands alone, as
a text of its own. -/
def fieldText (field : String × String) : String :=
  if field.1 = "message" then Visible.ofString field.2
  else s!"{field.1}={field.2}"

/-- The line of an event in the program's log, with some named values. -/
def lineWith (event : LogEvent) (values : List (String × String)) : String :=
  " ".intercalate
    (event.level.label :: s!"{event.target}:" ::
      Visible.ofString event.text :: values.map fieldText)

/-- The line of an event in the program's log. -/
def line (event : LogEvent) : String :=
  event.lineWith event.fields

end LogEvent

end MemoryWatch
