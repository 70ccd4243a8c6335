import MemoryWatch.Cgroup
import MemoryWatch.Log.Event
import MemoryWatch.Sink
import MemoryWatch.Trace

/-!
# The surroundings of a watcher

An environment is everything outside a watcher: the host, the sink, the
schedule of what others will do, the interruptions to come, the handle with
which others can cancel the watch, and the log and the trace that have been
written so far.  Every operation of a watcher takes an environment and answers
with the one after it.
-/

namespace MemoryWatch

/-- Everything outside a watcher. -/
structure Environment where
  host : Host
  sink : Sink := {}
  schedule : Schedule := []
  /-- How often each coming read of an event channel is interrupted before it
  goes through. -/
  interruptions : List Nat := []
  canceller : Option Descriptor := none
  log : List LogEvent := []
  trace : List Step := []

namespace Environment

/-- Surroundings with the usual files, the three standard descriptors and a
sink. -/
def fresh (sink : Sink) : Environment where
  host := Host.fresh
  sink := sink

/-- Write an event to the log. -/
def note (env : Environment) (event : LogEvent) : Environment :=
  { env with log := env.log ++ [event] }

/-- Write a step to the trace. -/
def record (env : Environment) (step : Step) : Environment :=
  { env with trace := env.trace ++ [step] }

/-- Make a descriptor for a new open file. -/
def create (env : Environment) (content : OpenContent) :
    Except SystemError Descriptor × Environment :=
  match env.host.create content with
  | (.error cause, host) => (.error cause, { env with host })
  | (.ok descriptor, host) =>
    (.ok descriptor, { env with host }.record (.opened descriptor))

/-- Open the file that a path names. -/
def openPath (env : Environment) (path : Path) (access : Access) :
    Except SystemError Descriptor × Environment :=
  match env.host.openPath path access with
  | (.error cause, host) => (.error cause, { env with host })
  | (.ok descriptor, host) =>
    (.ok descriptor, { env with host }.record (.opened descriptor))

/-- Give up a descriptor. -/
def close (env : Environment) (descriptor : Descriptor) : Environment :=
  { env with host := env.host.close descriptor }.record (.closed descriptor)

/-- Give up a descriptor if there is one. -/
def closeHeld (env : Environment) : Option Descriptor → Environment
  | none => env
  | some descriptor => env.close descriptor

/-- Add to the event counter behind a descriptor, as the kernel does. -/
def add (env : Environment) (channel : Descriptor) (count : UInt64) :
    Answer SystemError Unit × Environment :=
  match env.host.write channel (Counter.toBytes count) with
  | (.done _, host) => (.done (), { env with host }.record (.added count))
  | (.failed cause, host) => (.failed cause, { env with host })
  | (.blocked, host) => (.blocked, { env with host })

/-- Fire a cancel handle. -/
def fire (env : Environment) (handle : Descriptor) :
    Answer SystemError Unit × Environment :=
  match env.host.write handle (Counter.toBytes 1) with
  | (.done _, host) => (.done (), { env with host })
  | (.failed cause, host) => (.failed cause, { env with host })
  | (.blocked, host) => (.blocked, { env with host })

/-- Change the file tree by something that leaves it alone when it fails. -/
def edit (env : Environment)
    (change : FileTree → Except SystemError FileTree) :
    Except SystemError Unit × Environment :=
  match change env.host.tree with
  | .error cause => (.error cause, env)
  | .ok tree => (.ok (), { env with host := { env.host with tree } })

/-- Change the file tree by something that may fail half way. -/
def rework (env : Environment)
    (change : FileTree → Except SystemError Unit × FileTree) :
    Except SystemError Unit × Environment :=
  let (outcome, tree) := change env.host.tree
  (outcome, { env with host := { env.host with tree } })

/-- Set the allowance of descriptors. -/
def allow (env : Environment) (allowance : Allowance) :
    Except SystemError Unit × Environment :=
  (.ok (), { env with host := { env.host with allowance } })

/-- An answer of somebody who would rather fail than wait. -/
def settled : Answer SystemError Unit → Except SystemError Unit
  | .done () => .ok ()
  | .failed cause => .error cause
  | .blocked => .error .wouldWait

/-- One action from outside.  Notifications go to the event counter behind
`channel`, if there is one.  A request to shut down is logged once and fires
the cancel handle. -/
def act (env : Environment) (channel : Option Descriptor) :
    Action → Except SystemError Unit × Environment
  | .makeDirectories path => env.rework (·.makeDirectories path)
  | .writeFile path content => env.edit (·.writeFile path content)
  | .makeLink path target => env.edit (·.makeLink path target)
  | .remove path => env.rework (·.remove path)
  | .rename path destination => env.edit (·.rename path destination)
  | .notify count =>
    match channel with
    | none => (.ok (), env)
    | some channel =>
      let (answer, env) := env.add channel count
      (settled answer, env)
  | .cancel =>
    match env.canceller with
    | none => (.ok (), env)
    | some handle =>
      let (answer, env) := env.fire handle
      (settled answer, env)
  | .interrupt | .expire => (.ok (), env)
  | .shutdown =>
    match env.canceller with
    | none => (.ok (), env)
    | some handle =>
      if (env.host.readiness handle).readable then (.ok (), env)
      else
        let (answer, env) := (env.note .shutdownRequested).fire handle
        (settled answer, env)
  | .allowMore descriptors =>
    env.allow (.upTo (env.host.openCount + descriptors))
  | .allowNone => env.allow .nothing
  | .allowAll => env.allow .unlimited

/-- The actions of a group, one after the other.  An action that fails changes
nothing for the others. -/
def actAll (env : Environment) (channel : Option Descriptor)
    (actions : List Action) : Environment :=
  actions.foldl (fun env action => (env.act channel action).2) env

/-- Make the directory of a cgroup with both control files. -/
def makeCgroup (env : Environment) (cgroup : Path) : Environment :=
  env.actAll none
    [.makeDirectories cgroup, .writeFile (Cgroup.eventControl cgroup) [],
     .writeFile (Cgroup.oomControl cgroup) []]

/-- Look whether a cgroup is still there.  Every failure to look it up counts
as its absence. -/
def probe (env : Environment) (cgroup : Path) : Bool × Environment :=
  match env.host.tree.resolve cgroup with
  | .ok _ => (true, env.record (.probed true))
  | .error cause =>
    (false, (env.note (.cgroupMissing cgroup cause)).record (.probed false))

/-- Hand a record to the sink.  The actions that happen outside during the
flush happen before the answer. -/
def deliver (env : Environment) (channel : Option Descriptor)
    (bytes : List UInt8) : Except SystemError Unit × Environment :=
  let (outcome, actions, sink) := env.sink.deliver bytes
  (outcome, { env with sink }.actAll channel actions)

end Environment

end MemoryWatch
