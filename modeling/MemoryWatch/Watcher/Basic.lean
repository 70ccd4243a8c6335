import MemoryWatch.Registration

/-!
# Watchers

A watcher holds at most three descriptors: the event channel, the control file
that takes registrations, and the control file that the listener is tied to.
It makes the channel first, then opens both files and registers; the file for
registrations is let go as soon as a registration has gone through.  The text
of the registration is kept as a mark that one was written.

Replacing a held descriptor closes the old one after the new one was made.
-/

namespace MemoryWatch

/-- The descriptors that a watcher holds, and the registration it wrote. -/
structure Handles where
  channel : Option Descriptor := none
  eventControl : Option Descriptor := none
  oomControl : Option Descriptor := none
  registration : Option String := none
  deriving DecidableEq, Repr

namespace Handles

/-- The descriptors held, in the order in which they are closed. -/
def held (handles : Handles) : List (HandleKind × Descriptor) :=
  (handles.channel.map (HandleKind.channel, ·)).toList ++
    (handles.eventControl.map (HandleKind.eventControl, ·)).toList ++
    (handles.oomControl.map (HandleKind.oomControl, ·)).toList

/-- The number of descriptors held. -/
def count (handles : Handles) : Nat :=
  handles.held.length

/-- Whether a registration was written. -/
def isSubscribed (handles : Handles) : Bool :=
  handles.registration.isSome

end Handles

/-- A watcher: its settings, the handle that can cancel it, and what it
holds. -/
structure Watcher where
  settings : Settings
  cancel : Option Descriptor := none
  handles : Handles := {}
  deriving DecidableEq, Repr

namespace Watcher

/-- A watcher with usable settings. -/
def create (settings : Settings) : Except WatchError Watcher :=
  match settings.validate with
  | .error error => .error error
  | .ok () => .ok { settings }

/-- Make the event channel. -/
def setup (watcher : Watcher) (env : Environment) :
    Except WatchError Unit × Watcher × Environment :=
  match watcher.handles.channel with
  | some _ => (.error (.misuse .channelExists), watcher, env)
  | none =>
    match Channel.create env with
    | (.error error, env) => (.error error, watcher, env)
    | (.ok channel, env) =>
      (.ok (),
       { watcher with
         handles := { watcher.handles with channel := some channel } },
       env)

/-- Register the channel through both open control files.  The registration
counts as written whatever comes of the write call; only when it has gone
through is the file for registrations let go. -/
def register (watcher : Watcher) (channel control oomControl : Descriptor)
    (env : Environment) : Except WatchError Unit × Watcher × Environment :=
  let root := watcher.settings.cgroup
  match Registration.message channel oomControl Registration.capacity with
  | .error error => (.error error, watcher, env)
  | .ok text =>
    let (result, warnings, env) :=
      Registration.register (Registration.writeControl control)
        watcher.settings.registration (Cgroup.eventControl root) text
        (env.note (.registering text))
    let env := { env with log := env.log ++ warnings }
    let handles := { watcher.handles with registration := some text }
    match result with
    | .error error => (.error error, { watcher with handles }, env)
    | .ok _ =>
      (.ok (), { watcher with handles := { handles with eventControl := none } },
       (env.close control).note (.subscribed root channel oomControl))

/-- Open both control files and register the channel. -/
def subscribe (watcher : Watcher) (env : Environment) :
    Except WatchError Unit × Watcher × Environment :=
  let root := watcher.settings.cgroup
  match watcher.handles.registration, watcher.handles.channel with
  | some _, _ => (.error (.misuse (.alreadySubscribed root)), watcher, env)
  | none, none => (.error (.misuse .noChannel), watcher, env)
  | none, some channel =>
    let path := Cgroup.eventControl root
    match env.openPath path .writing with
    | (.error cause, env) =>
      (.error (.controlUnavailable path cause), watcher, env)
    | (.ok control, env) =>
      let env := env.closeHeld watcher.handles.eventControl
      let watcher :=
        { watcher with
          handles := { watcher.handles with eventControl := some control } }
      let path := Cgroup.oomControl root
      match env.openPath path .reading with
      | (.error cause, env) =>
        (.error (.controlUnavailable path cause), watcher, env)
      | (.ok oomControl, env) =>
        let env := env.closeHeld watcher.handles.oomControl
        let watcher :=
          { watcher with
            handles := { watcher.handles with oomControl := some oomControl } }
        watcher.register channel control oomControl env

/-- Close one handle and say so. -/
def closeHandle (env : Environment) (handle : HandleKind × Descriptor) :
    Environment :=
  (env.note (.closing handle.1 handle.2)).close handle.2

/-- Close every handle still held.  The answer is their number; the mark of a
registration stays. -/
def cleanup (watcher : Watcher) (env : Environment) :
    Nat × Watcher × Environment :=
  (watcher.handles.count,
   { watcher with
     handles := { registration := watcher.handles.registration } },
   watcher.handles.held.foldl closeHandle env)

/-- Let go of a watcher.  What it still holds is closed. -/
def dispose (watcher : Watcher) (env : Environment) : Environment :=
  let (_, _, env) := watcher.cleanup env
  env

/-- A second descriptor for the counter of the channel, for use outside. -/
def notifier (watcher : Watcher) (env : Environment) :
    Except WatchError Descriptor × Environment :=
  match watcher.handles.channel with
  | none => (.error (.misuse .noChannel), env)
  | some channel =>
    match Channel.notifier channel env with
    | (.error cause, env) => (.error (.channelCreation cause), env)
    | (.ok second, env) => (.ok second, env)

/-- Add to the counter of the channel through a notifier that is made for this
purpose and given up at once. -/
def notify (watcher : Watcher) (count : UInt64) (env : Environment) :
    Except WatchError (Answer SystemError Unit) × Environment :=
  match watcher.notifier env with
  | (.error error, env) => (.error error, env)
  | (.ok second, env) =>
    let (answer, env) := env.add second count
    (.ok answer, { env with host := env.host.close second })

end Watcher

end MemoryWatch
