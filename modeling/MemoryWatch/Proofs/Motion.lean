import MemoryWatch.Proofs.Descriptors
import MemoryWatch.Watcher.Loop
import Mathlib.Logic.Relation

/-!
# What moves during a watch

A watch takes its surroundings through many small changes: somebody outside
acts, the channel is read, a step is written into the trace, or a script
advances.  Each of them is one motion, and a watch is a sequence of motions.
What every motion preserves therefore holds at every moment of a watch, however
the schedule, the sink and the interruptions interleave, and also in a watch
that never ends.
-/

namespace MemoryWatch

open Relation

namespace Step

/-- Steps that tell of waiting, delivering and looking.  They concern neither a
counter nor a descriptor. -/
def isIdle : Step → Bool
  | waited _ _ | delivered _ _ | probed _ | interrupted => true
  | opened _ | closed _ | registered _ _ | read _ | added _ => false

/-- Steps that make a descriptor or give one up. -/
def isTurnover : Step → Bool
  | opened _ | closed _ => true
  | registered _ _ | waited _ _ | delivered _ _ | probed _ | interrupted
  | read _ | added _ => false

/-- Steps that make a descriptor, give one up or write a registration. -/
def isHandling : Step → Bool
  | opened _ | closed _ | registered _ _ => true
  | waited _ _ | delivered _ _ | probed _ | interrupted | read _ | added _ =>
    false

theorem isHandling_of_isTurnover (step : Step)
    (turnover : step.isTurnover = true) : step.isHandling = true := by
  cases step <;> simp_all [isTurnover, isHandling]

end Step

namespace Environment

/-- The trace has gone on from one surroundings to another, and all new steps
have a property. -/
def Continues (property : Step → Prop) (before after : Environment) : Prop :=
  ∃ steps, after.trace = before.trace ++ steps ∧
    ∀ step ∈ steps, property step

namespace Continues

variable {property : Step → Prop} {before between after : Environment}

theorem of_eq (same : after.trace = before.trace) :
    Continues property before after :=
  ⟨[], by rw [same, List.append_nil], by simp⟩

theorem single {step : Step} (shown : after.trace = before.trace ++ [step])
    (holds : property step) : Continues property before after :=
  ⟨[step], shown, by simpa using holds⟩

theorem trans (first : Continues property before between)
    (second : Continues property between after) :
    Continues property before after := by
  obtain ⟨steps, shown, all⟩ := first
  obtain ⟨more, further, others⟩ := second
  refine ⟨steps ++ more, by rw [further, shown, List.append_assoc], ?_⟩
  intro step member
  rcases List.mem_append.mp member with early | late
  · exact all step early
  · exact others step late

theorem mono {weaker : Step → Prop}
    (continues : Continues property before after)
    (weaken : ∀ step, property step → weaker step) :
    Continues weaker before after := by
  obtain ⟨steps, shown, all⟩ := continues
  exact ⟨steps, shown, fun step member => weaken step (all step member)⟩

end Continues

theorem add_snd (env : Environment) (channel : Descriptor) (count : UInt64) :
    (env.add channel count).2 =
      { env with
        host := (env.host.write channel (Counter.toBytes count)).2
        trace := env.trace ++
          match (env.host.write channel (Counter.toBytes count)).1 with
          | .done _ => [.added count]
          | .failed _ | .blocked => [] } := by
  rw [add]
  rcases env.host.write channel (Counter.toBytes count) with ⟨answer, host⟩
  cases answer <;> simp [record]

theorem fire_snd (env : Environment) (handle : Descriptor) :
    (env.fire handle).2 =
      { env with host := (env.host.write handle (Counter.toBytes 1)).2 } := by
  rw [fire]
  rcases env.host.write handle (Counter.toBytes 1) with ⟨answer, host⟩
  cases answer <;> rfl

/-- What an action from outside does: it adds to the channel, it fires the
cancel handle, or it changes the files or the allowance of the host. -/
theorem act_cases (env : Environment) (channel : Descriptor)
    (action : Action) :
    (∃ count, (env.act (some channel) action).2 = (env.add channel count).2) ∨
      (∃ handle log, env.canceller = some handle ∧
        (env.act (some channel) action).2 =
          ({ env with log }.fire handle).2) ∨
      ∃ tree allowance, (env.act (some channel) action).2 =
        { env with host := { env.host with tree, allowance } } := by
  cases action with
  | makeDirectories path | remove path =>
      exact Or.inr (Or.inr ⟨_, env.host.allowance, rfl⟩)
  | writeFile path content | makeLink path target | rename path target =>
      right
      right
      simp only [act, edit]
      split
      · exact ⟨env.host.tree, env.host.allowance, rfl⟩
      · exact ⟨_, env.host.allowance, rfl⟩
  | notify count => exact Or.inl ⟨count, rfl⟩
  | cancel =>
      obtain absent | ⟨handle, present⟩ :=
        Option.eq_none_or_eq_some env.canceller
      · have acted : (env.act (some channel) .cancel).2 = env := by
          simp only [act, absent]
        exact Or.inr (Or.inr ⟨env.host.tree, env.host.allowance, acted⟩)
      · have acted : (env.act (some channel) .cancel).2 =
            (env.fire handle).2 := by
          simp only [act, present]
        exact Or.inr (Or.inl ⟨handle, env.log, present, acted⟩)
  | interrupt | expire =>
      exact Or.inr (Or.inr ⟨env.host.tree, env.host.allowance, rfl⟩)
  | shutdown =>
      obtain absent | ⟨handle, present⟩ :=
        Option.eq_none_or_eq_some env.canceller
      · have acted : (env.act (some channel) .shutdown).2 = env := by
          simp only [act, absent]
        exact Or.inr (Or.inr ⟨env.host.tree, env.host.allowance, acted⟩)
      by_cases fired : (env.host.readiness handle).readable = true
      · have acted : (env.act (some channel) .shutdown).2 = env := by
          simp only [act, present, fired, if_true]
        exact Or.inr (Or.inr ⟨env.host.tree, env.host.allowance, acted⟩)
      · have acted : (env.act (some channel) .shutdown).2 =
            ((env.note .shutdownRequested).fire handle).2 := by
          simp only [act, present]
          rw [if_neg fired]
        exact Or.inr (Or.inl ⟨handle, _, present, acted⟩)
  | allowMore descriptors | allowNone | allowAll =>
      exact Or.inr (Or.inr ⟨env.host.tree, _, rfl⟩)

end Environment

namespace Channel

/-- The surroundings after one scheduled group. -/
def happen (channel : Descriptor) (group : List Action) (later : Schedule)
    (env : Environment) : Environment :=
  let acted := { env with schedule := later }.actAll (some channel) group
  if group.contains .interrupt then acted.record .interrupted else acted

theorem await_cons (channel : Descriptor) (cancel : Option Descriptor)
    (limit : Option Nat) (group : List Action) (later : Schedule)
    (env : Environment) :
    await channel cancel limit (group :: later) env =
      let after := happen channel group later env
      match glance channel cancel after with
      | some wake => (.done wake, after)
      | none =>
        if group.contains .interrupt && isBarred cancel after then
          (.failed .invalidArgument, after)
        else if limit.isSome && group.contains .expire then
          (.done .timedOut, after)
        else await channel cancel limit later after :=
  rfl

/-- No look at the files ends a wait as timed out. -/
theorem glance_ne_timedOut (channel : Descriptor)
    (cancel : Option Descriptor) (env : Environment) :
    glance channel cancel env ≠ some .timedOut := by
  cases cancel with
  | none =>
      simp only [glance]
      split <;> simp
  | some handle =>
      simp only [glance]
      split
      · simp
      · split <;> simp

/-- A wait before it is written down: how it ends, and the surroundings then. -/
def listen (channel : Descriptor) (cancel : Option Descriptor)
    (limit : Option Nat) (env : Environment) :
    Answer SystemError Wake × Environment :=
  if isBarred cancel env then (.failed .invalidArgument, env)
  else
    match glance channel cancel env with
    | some wake => (.done wake, env)
    | none => await channel cancel limit env.schedule env

theorem wait_eq (channel : Descriptor) (cancel : Option Descriptor)
    (timeout : Option Duration) (env : Environment) :
    wait channel cancel timeout env =
      let limit := timeout.map Duration.waitMilliseconds
      let heard := listen channel cancel limit env
      (heard.1.mapCause fun cause => .channelRead channel (.failed cause),
       heard.2.record (.waited limit heard.1)) :=
  rfl

theorem wait_of_listen {channel : Descriptor} {cancel : Option Descriptor}
    {timeout : Option Duration} {env heard : Environment} {wake : Wake}
    (listened :
      listen channel cancel (timeout.map Duration.waitMilliseconds) env =
        (.done wake, heard)) :
    wait channel cancel timeout env =
      (.done wake, heard.record
        (.waited (timeout.map Duration.waitMilliseconds) (.done wake))) := by
  rw [wait_eq]
  dsimp only
  rw [listened]
  rfl

end Channel

/-- One small change of the surroundings during a watch of a channel. -/
inductive Motion (channel : Descriptor) : Environment → Environment → Prop
  /-- Somebody outside acts. -/
  | act (env : Environment) (action : Action) :
      Motion channel env (env.act (some channel) action).2
  /-- The channel is read. -/
  | read (env : Environment) :
      Motion channel env
        ({ env with host := (env.host.read channel).2 }.record
          (.read (env.host.read channel).1))
  /-- A step that concerns neither a counter nor a descriptor is written
  down. -/
  | tell (env : Environment) (step : Step) (idle : step.isIdle = true) :
      Motion channel env (env.record step)
  /-- A script or the log goes on. -/
  | turn (env after : Environment) (host : after.host = env.host)
      (canceller : after.canceller = env.canceller)
      (trace : after.trace = env.trace) : Motion channel env after

/-- A sequence of small changes. -/
abbrev Motions (channel : Descriptor) : Environment → Environment → Prop :=
  ReflTransGen (Motion channel)

namespace Motions

section Combining

variable {channel : Descriptor}

theorem turn (env after : Environment) (host : after.host = env.host)
    (canceller : after.canceller = env.canceller)
    (trace : after.trace = env.trace) : Motions channel env after :=
  ReflTransGen.single (.turn env after host canceller trace)

theorem record {env after : Environment} (motions : Motions channel env after)
    {step : Step} (idle : step.isIdle = true) :
    Motions channel env (after.record step) :=
  motions.tail (.tell after step idle)

theorem note {env after : Environment} (motions : Motions channel env after)
    (event : LogEvent) : Motions channel env (after.note event) :=
  motions.tail (.turn after _ rfl rfl rfl)

end Combining

variable (channel : Descriptor)

theorem actAll (env : Environment) (actions : List Action) :
    Motions channel env (env.actAll (some channel) actions) := by
  induction actions generalizing env with
  | nil => exact ReflTransGen.refl
  | cons action rest ih => exact ReflTransGen.head (.act env action) (ih _)

theorem happen (group : List Action) (later : Schedule)
    (env : Environment) :
    Motions channel env (Channel.happen channel group later env) := by
  have acted : Motions channel env
      ({ env with schedule := later }.actAll (some channel) group) :=
    (turn env { env with schedule := later } rfl rfl rfl).trans
      (actAll channel _ group)
  rw [Channel.happen]
  split
  · exact acted.record rfl
  · exact acted

theorem readBytes (interruptions : Nat) (env : Environment) :
    Motions channel env (Channel.readBytes channel interruptions env).2 := by
  induction interruptions generalizing env with
  | zero => exact ReflTransGen.single (.read env)
  | succ interruptions ih =>
      exact ReflTransGen.head (.tell env .interrupted rfl) (ih _)

theorem read (env : Environment) :
    Motions channel env (Channel.read channel env).2 := by
  have bytes : Motions channel env
      (Channel.readBytes channel (env.interruptions.headD 0)
        { env with interruptions := env.interruptions.tail }).2 :=
    (turn env { env with interruptions := env.interruptions.tail }
      rfl rfl rfl).trans (readBytes channel _ _)
  rw [Channel.read]
  dsimp only
  split
  · split
    · exact bytes
    · exact bytes
  · exact bytes
  · exact bytes

theorem deliver (env : Environment) (bytes : List UInt8) :
    Motions channel env (env.deliver (some channel) bytes).2 := by
  rw [Environment.deliver]
  exact (turn env { env with sink := (env.sink.deliver bytes).2.2 }
    rfl rfl rfl).trans (actAll channel _ _)

theorem probe (env : Environment) (cgroup : Path) :
    Motions channel env (env.probe cgroup).2 := by
  rw [Environment.probe]
  split
  · exact record ReflTransGen.refl rfl
  · exact (note ReflTransGen.refl _).record rfl

/-- No step of a watch makes a descriptor, gives one up or writes a
registration. -/
theorem continues {channel : Descriptor} {before after : Environment}
    (moved : Motions channel before after) :
    Environment.Continues (fun step => step.isHandling = false) before
      after := by
  induction moved with
  | refl => exact .of_eq rfl
  | @tail between after _ motion ih =>
      refine ih.trans ?_
      cases motion with
      | act action =>
          obtain ⟨count, acted⟩ | ⟨handle, log, _, acted⟩ |
            ⟨tree, allowance, acted⟩ := between.act_cases channel action
          · rw [acted, Environment.add_snd]
            refine ⟨_, rfl, ?_⟩
            split <;> simp [Step.isHandling]
          · rw [acted, Environment.fire_snd]
            exact .of_eq rfl
          · rw [acted]
            exact .of_eq rfl
      | read => exact .single rfl rfl
      | tell step idle =>
          refine .single rfl ?_
          cases step <;> simp_all [Step.isIdle, Step.isHandling]
      | turn _ _ _ trace => exact .of_eq trace

end Motions

end MemoryWatch
