import MemoryWatch.Record
import MemoryWatch.Watcher.Basic

/-!
# The notification loop

A watch goes through rounds.  A round waits; when the wait was cancelled the
watch is over; when the time was over the round looks whether the cgroup is
still there; and when the channel was notified the round reads the counter,
delivers a record and then looks for the cgroup.  The watch ends with the
cgroup, and a wait, read or delivery that fails ends it with that error.

Each round uses up a scheduled group, an answer of the sink's script, or
something that could be read.  A watch that outlasts all of those repeats one
round for ever, so the number of rounds given by `Watcher.patience` is enough
to decide how a watch ends, and whether it does.
-/

namespace MemoryWatch

/-- What one round of the loop comes to. -/
inductive Round where
  /-- The watch goes on, with the number of records delivered so far. -/
  | continued (notifications : Nat) (env : Environment)
  /-- The watch is over. -/
  | ended (answer : Answer WatchError Summary) (env : Environment)

namespace Watcher

/-- The end of a round that looked for the cgroup. -/
def afterProbe (watcher : Watcher) (notifications : Nat)
    (env : Environment) : Round :=
  let root := watcher.settings.cgroup
  match env.probe root with
  | (true, env) => .continued notifications env
  | (false, env) =>
    .ended (.done ⟨.cgroupRemoved, notifications⟩) (env.note (.cgroupRemoved root))

/-- Read the channel, deliver a record and look for the cgroup. -/
def report (watcher : Watcher) (channel : Descriptor) (notifications : Nat)
    (env : Environment) : Round :=
  let root := watcher.settings.cgroup
  match Channel.read channel env with
  | (.blocked, env) => .ended .blocked env
  | (.failed error, env) => .ended (.failed error) env
  | (.done counter, env) =>
    let record := Record.encode watcher.settings.format root counter
    let (outcome, env) :=
      (env.note (.notified root counter)).deliver (some channel) record
    let env := env.record (.delivered counter outcome)
    match outcome with
    | .error cause => .ended (.failed (.sink cause)) env
    | .ok () => watcher.afterProbe (notifications + 1) env

/-- One round of the loop. -/
def round (watcher : Watcher) (channel : Descriptor) (notifications : Nat)
    (env : Environment) : Round :=
  let root := watcher.settings.cgroup
  match
    Channel.wait channel watcher.cancel watcher.settings.probeInterval env
  with
  | (.blocked, env) => .ended .blocked env
  | (.failed error, env) => .ended (.failed error) env
  | (.done .cancelled, env) =>
    .ended (.done ⟨.cancelled, notifications⟩) (env.note (.cancelled root))
  | (.done .timedOut, env) => watcher.afterProbe notifications env
  | (.done .notified, env) => watcher.report channel notifications env

/-- At most so many rounds.  A watch that is not over after them is taken not
to end. -/
def rounds (watcher : Watcher) (channel : Descriptor) :
    Nat → Nat → Environment → Answer WatchError Summary × Environment
  | 0, _, env => (.blocked, env)
  | bound + 1, notifications, env =>
    match watcher.round channel notifications env with
    | .ended answer env => (answer, env)
    | .continued notifications env =>
      watcher.rounds channel bound notifications env

/-- How often a read of an open file can give something. -/
def supply : OpenContent → Nat
  | .counter _ => 1
  | .stored unread => unread.length + 1
  | .pipe unread _ => unread.length + 1
  | .directory | .endpoint _ | .device _ _ => 1

/-- The number of rounds after which a watch that goes on will go on for
ever. -/
def patience (channel : Descriptor) (env : Environment) : Nat :=
  2 * (env.schedule.length + env.sink.duringFlush.length) +
    env.sink.writes.length + env.sink.flushes.length +
    ((env.host.openFile? channel).map fun file => supply file.content).getD 0 + 2

/-- Deliver a record for every notification until the cgroup is gone, the
cancel handle fires, or something fails. -/
def watch (watcher : Watcher) (env : Environment) :
    Answer WatchError Summary × Environment :=
  match watcher.handles.registration, watcher.handles.channel with
  | none, _ => (.failed (.misuse .notSubscribed), env)
  | some _, none => (.failed (.misuse .channelClosed), env)
  | some _, some channel =>
    watcher.rounds channel (patience channel env) 0 env

/-- Set up, subscribe and watch, stopping at the first failure. -/
def attempt (watcher : Watcher) (env : Environment) :
    Answer WatchError Summary × Watcher × Environment :=
  match watcher.setup env with
  | (.error error, watcher, env) => (.failed error, watcher, env)
  | (.ok (), watcher, env) =>
    match watcher.subscribe env with
    | (.error error, watcher, env) => (.failed error, watcher, env)
    | (.ok (), watcher, env) =>
      let (answer, env) := watcher.watch env
      (answer, watcher, env)

/-- Set up, subscribe and watch, then close every handle whatever came of it.
A watch that does not end is not cleaned up after. -/
def run (watcher : Watcher) (env : Environment) :
    Answer WatchError Summary × Watcher × Environment :=
  match watcher.attempt env with
  | (.blocked, watcher, env) => (.blocked, watcher, env)
  | (answer, watcher, env) =>
    let (released, watcher, env) := watcher.cleanup env
    (answer, watcher, env.note (.released released))

end Watcher

end MemoryWatch
