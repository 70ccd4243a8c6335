import MemoryWatch.Proofs.Machine
import MemoryWatch.Proofs.Semblance

/-!
# Surroundings that look the same

Nothing that a watcher does depends on where the host keeps an open file, on
files that nobody refers to any longer, or on what was written to the log and to
the trace before.  In surroundings that differ in nothing else, everything that
a watcher does, and everything that others do, has the same answer, leaves the
surroundings differing in nothing else, and writes the same to the log and to
the trace.
-/

namespace MemoryWatch

namespace Host.Mirrors

variable {host other : Host}

theorem readiness (mirrors : host.Mirrors other) (descriptor : Descriptor) :
    other.readiness descriptor = host.readiness descriptor := by
  rw [Host.readiness, Host.readiness, mirrors.file]

/-- The same change of the files. -/
theorem retree (mirrors : host.Mirrors other) (tree : FileTree) :
    Mirrors { host with tree } { other with tree } :=
  ⟨mirrors.refile _ _, rfl⟩

theorem reallow (mirrors : host.Mirrors other) (allowance : Allowance) :
    Mirrors { host with allowance } { other with allowance } :=
  { mirrors with allowance := rfl }

theorem Both.eq {α : Type} {first second : α × Host}
    (both : Both first second) : second = (first.1, second.2) :=
  Prod.ext both.answer rfl

end Host.Mirrors

namespace Environment

/-- Two surroundings that look the same.  What was written to the log and to the
trace before may differ, and where the hosts keep their open files. -/
structure Mirrors (env other : Environment) : Prop where
  hosts : env.host.Mirrors other.host
  works : Works env other

/-- Two surroundings that look the same, and in which the same was written down
since two others. -/
structure Echoes (start twin env other : Environment) : Prop extends
    Mirrors env other where
  log : ∃ events, env.log = start.log ++ events ∧
    other.log = twin.log ++ events
  trace : ∃ steps, env.trace = start.trace ++ steps ∧
    other.trace = twin.trace ++ steps

/-- The same answer was given, and the surroundings go on to look the same. -/
structure Echoed {α : Type} (start twin : Environment)
    (first second : α × Environment) : Prop where
  answer : second.1 = first.1
  echoes : Echoes start twin first.2 second.2

namespace Echoes

variable {start twin env other : Environment}

theorem refl (mirrors : env.Mirrors other) : Echoes env other env other where
  hosts := mirrors.hosts
  works := mirrors.works
  log := ⟨[], by simp⟩
  trace := ⟨[], by simp⟩

theorem sink (echoes : Echoes start twin env other) :
    other.sink = env.sink := echoes.works.sink

theorem schedule (echoes : Echoes start twin env other) :
    other.schedule = env.schedule := echoes.works.schedule

theorem interruptions (echoes : Echoes start twin env other) :
    other.interruptions = env.interruptions := echoes.works.interruptions

theorem canceller (echoes : Echoes start twin env other) :
    other.canceller = env.canceller := by
  obtain ⟨_, _, _, rfl⟩ := echoes.works
  rfl

theorem note (echoes : Echoes start twin env other) (event : LogEvent) :
    Echoes start twin (env.note event) (other.note event) where
  hosts := echoes.hosts
  works := by
    obtain ⟨_, _, _, rfl⟩ := echoes.works
    exact ⟨_, _, _, rfl⟩
  log := by
    obtain ⟨events, here, there⟩ := echoes.log
    refine ⟨events ++ [event], ?_, ?_⟩
    · rw [Environment.note, here, List.append_assoc]
    · rw [Environment.note, there, List.append_assoc]
  trace := echoes.trace

theorem noteAll (echoes : Echoes start twin env other)
    (events : List LogEvent) :
    Echoes start twin { env with log := env.log ++ events }
      { other with log := other.log ++ events } where
  hosts := echoes.hosts
  works := by
    obtain ⟨_, _, _, rfl⟩ := echoes.works
    exact ⟨_, _, _, rfl⟩
  log := by
    obtain ⟨earlier, here, there⟩ := echoes.log
    exact ⟨earlier ++ events, by rw [here, List.append_assoc],
      by rw [there, List.append_assoc]⟩
  trace := echoes.trace

theorem record (echoes : Echoes start twin env other) (step : Step) :
    Echoes start twin (env.record step) (other.record step) where
  hosts := echoes.hosts
  works := by
    obtain ⟨_, _, _, rfl⟩ := echoes.works
    exact ⟨_, _, _, rfl⟩
  log := echoes.log
  trace := by
    obtain ⟨steps, here, there⟩ := echoes.trace
    refine ⟨steps ++ [step], ?_, ?_⟩
    · rw [Environment.record, here, List.append_assoc]
    · rw [Environment.record, there, List.append_assoc]

/-- Both hosts may change as long as they go on to look the same. -/
theorem rehost (echoes : Echoes start twin env other) {host counterpart : Host}
    (mirrors : host.Mirrors counterpart) :
    Echoes start twin { env with host } { other with host := counterpart } where
  hosts := mirrors
  works := by
    obtain ⟨_, _, _, rfl⟩ := echoes.works
    exact ⟨_, _, _, rfl⟩
  log := echoes.log
  trace := echoes.trace

/-- The same change of what is neither on the host nor written down. -/
theorem rescript (echoes : Echoes start twin env other) (sink : Sink)
    (schedule : Schedule) (interruptions : List Nat) :
    Echoes start twin { env with sink, schedule, interruptions }
      { other with sink, schedule, interruptions } where
  hosts := echoes.hosts
  works := by
    obtain ⟨_, _, _, rfl⟩ := echoes.works
    exact ⟨_, _, _, rfl⟩
  log := echoes.log
  trace := echoes.trace

theorem resink (echoes : Echoes start twin env other) (sink : Sink) :
    Echoes start twin { env with sink } { other with sink } := by
  rw [echoes.schedule, echoes.interruptions]
  exact echoes.rescript sink env.schedule env.interruptions

theorem reschedule (echoes : Echoes start twin env other)
    (schedule : Schedule) :
    Echoes start twin { env with schedule } { other with schedule } := by
  rw [echoes.sink, echoes.interruptions]
  exact echoes.rescript env.sink schedule env.interruptions

theorem interrupt (echoes : Echoes start twin env other)
    (interruptions : List Nat) :
    Echoes start twin { env with interruptions }
      { other with interruptions } := by
  rw [echoes.sink, echoes.schedule]
  exact echoes.rescript env.sink env.schedule interruptions

/-! ## Calls of the system -/

theorem create (echoes : Echoes start twin env other)
    (content : OpenContent) :
    Echoed start twin (env.create content) (other.create content) := by
  have both := echoes.hosts.create content
  rw [Environment.create, Environment.create, both.eq]
  generalize env.host.create content = made at both ⊢
  have next := echoes.rehost both.mirrors
  obtain ⟨cause | descriptor, host⟩ := made
  · exact ⟨rfl, next⟩
  · exact ⟨rfl, next.record _⟩

theorem openPath (echoes : Echoes start twin env other) (path : Path)
    (access : Access) :
    Echoed start twin (env.openPath path access)
      (other.openPath path access) := by
  have both := echoes.hosts.openPath path access
  rw [Environment.openPath, Environment.openPath, both.eq]
  generalize env.host.openPath path access = opened at both ⊢
  have next := echoes.rehost both.mirrors
  obtain ⟨cause | descriptor, host⟩ := opened
  · exact ⟨rfl, next⟩
  · exact ⟨rfl, next.record _⟩

theorem close (echoes : Echoes start twin env other)
    (descriptor : Descriptor) :
    Echoes start twin (env.close descriptor) (other.close descriptor) :=
  (echoes.rehost (echoes.hosts.close descriptor)).record _

theorem closeHeld (echoes : Echoes start twin env other)
    (held : Option Descriptor) :
    Echoes start twin (env.closeHeld held) (other.closeHeld held) := by
  cases held with
  | none => exact echoes
  | some descriptor => exact echoes.close descriptor

theorem writeControl (echoes : Echoes start twin env other)
    (control : Descriptor) (bytes : List UInt8) :
    Echoed start twin (Registration.writeControl control bytes env)
      (Registration.writeControl control bytes other) := by
  obtain ⟨same, mirrors⟩ := echoes.hosts.write control bytes
  rw [Registration.writeControl_eq, Registration.writeControl_eq, same]
  exact ⟨rfl, (echoes.rehost mirrors).record _⟩

/-! ## What others do -/

theorem add (echoes : Echoes start twin env other) (channel : Descriptor)
    (count : UInt64) :
    Echoed start twin (env.add channel count) (other.add channel count) := by
  have both := echoes.hosts.write channel (Counter.toBytes count)
  rw [Environment.add, Environment.add, both.eq]
  generalize env.host.write channel (Counter.toBytes count) = added at both ⊢
  have next := echoes.rehost both.mirrors
  obtain ⟨written | cause | _, host⟩ := added
  · exact ⟨rfl, next.record _⟩
  · exact ⟨rfl, next⟩
  · exact ⟨rfl, next⟩

theorem fire (echoes : Echoes start twin env other) (handle : Descriptor) :
    Echoed start twin (env.fire handle) (other.fire handle) := by
  have both := echoes.hosts.write handle (Counter.toBytes 1)
  rw [Environment.fire, Environment.fire, both.eq]
  generalize env.host.write handle (Counter.toBytes 1) = fired at both ⊢
  have next := echoes.rehost both.mirrors
  obtain ⟨written | cause | _, host⟩ := fired <;> exact ⟨rfl, next⟩

theorem edit (echoes : Echoes start twin env other)
    (change : FileTree → Except SystemError FileTree) :
    Echoed start twin (env.edit change) (other.edit change) := by
  rw [Environment.edit, Environment.edit, echoes.hosts.tree]
  cases change env.host.tree with
  | error cause => exact ⟨rfl, echoes⟩
  | ok tree => exact ⟨rfl, echoes.rehost (echoes.hosts.retree tree)⟩

theorem rework (echoes : Echoes start twin env other)
    (change : FileTree → Except SystemError Unit × FileTree) :
    Echoed start twin (env.rework change) (other.rework change) := by
  rw [Environment.rework, Environment.rework, echoes.hosts.tree]
  exact ⟨rfl, echoes.rehost (echoes.hosts.retree _)⟩

theorem allow (echoes : Echoes start twin env other) (allowance : Allowance) :
    Echoed start twin (env.allow allowance) (other.allow allowance) :=
  ⟨rfl, echoes.rehost (echoes.hosts.reallow allowance)⟩

/-- The answer to somebody who would rather fail than wait. -/
theorem settle {answered counterpart : Answer SystemError Unit × Environment}
    (echoed : Echoed start twin answered counterpart) :
    Echoed start twin (settled answered.1, answered.2)
      (settled counterpart.1, counterpart.2) :=
  ⟨congrArg settled echoed.answer, echoed.echoes⟩

theorem act (echoes : Echoes start twin env other)
    (channel : Option Descriptor) (action : Action) :
    Echoed start twin (env.act channel action) (other.act channel action) := by
  cases action with
  | makeDirectories path => exact echoes.rework (·.makeDirectories path)
  | remove path => exact echoes.rework (·.remove path)
  | writeFile path content => exact echoes.edit (·.writeFile path content)
  | makeLink path target => exact echoes.edit (·.makeLink path target)
  | rename path destination => exact echoes.edit (·.rename path destination)
  | notify count =>
      cases channel with
      | none => exact ⟨rfl, echoes⟩
      | some channel => exact settle (echoes.add channel count)
  | cancel =>
      rw [Environment.act, Environment.act, echoes.canceller]
      cases env.canceller with
      | none => exact ⟨rfl, echoes⟩
      | some handle => exact settle (echoes.fire handle)
  | interrupt | expire => exact ⟨rfl, echoes⟩
  | shutdown =>
      rw [Environment.act, Environment.act, echoes.canceller]
      cases env.canceller with
      | none => exact ⟨rfl, echoes⟩
      | some handle =>
          dsimp only
          rw [echoes.hosts.readiness]
          split
          · exact ⟨rfl, echoes⟩
          · exact settle ((echoes.note .shutdownRequested).fire handle)
  | allowMore descriptors =>
      rw [Environment.act, Environment.act, echoes.hosts.openCount]
      exact echoes.allow _
  | allowNone => exact echoes.allow .nothing
  | allowAll => exact echoes.allow .unlimited

theorem actAll (echoes : Echoes start twin env other)
    (channel : Option Descriptor) (actions : List Action) :
    Echoes start twin (env.actAll channel actions)
      (other.actAll channel actions) := by
  induction actions generalizing env other with
  | nil => exact echoes
  | cons action rest ih => exact ih (echoes.act channel action).echoes

/-! ## The sink and the cgroup -/

theorem probe (echoes : Echoes start twin env other) (cgroup : Path) :
    Echoed start twin (env.probe cgroup) (other.probe cgroup) := by
  rw [Environment.probe, Environment.probe, echoes.hosts.tree]
  split
  · exact ⟨rfl, echoes.record _⟩
  · exact ⟨rfl, (echoes.note _).record _⟩

theorem deliver (echoes : Echoes start twin env other)
    (channel : Option Descriptor) (bytes : List UInt8) :
    Echoed start twin (env.deliver channel bytes)
      (other.deliver channel bytes) := by
  rw [Environment.deliver, Environment.deliver, echoes.sink]
  exact ⟨rfl, (echoes.resink _).actAll channel _⟩

end Echoes

end Environment

end MemoryWatch
