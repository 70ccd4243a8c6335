import MemoryWatch.Proofs.Output

/-!
# A watch as a reaction to answers

What a watch does depends on the answers of the system alone: how its waits and
reads end, which of them are interrupted, what its probes find, and how the sink
takes the records.  `Watcher.react` says what the watch does with one answer,
without any surroundings that would have to give it.  So it can be asked what a
watch does with any sequence of answers.

The trace of a watch holds the answers that it was given, and the watch is the
reaction to them.
-/

namespace MemoryWatch

namespace Step

/-- Steps in which the system answers a watch. -/
def isAnswer : Step → Bool
  | waited _ _ | read _ | probed _ | interrupted => true
  | opened _ | closed _ | registered _ _ | delivered _ _ | added _ => false

/-- The answers among some steps. -/
def answers (steps : List Step) : List Step :=
  steps.filter isAnswer

@[simp]
theorem answers_append (steps more : List Step) :
    answers (steps ++ more) = answers steps ++ answers more :=
  List.filter_append ..

theorem answers_of_not {steps : List Step}
    (silent : ∀ step ∈ steps, step.isAnswer = false) : answers steps = [] :=
  List.filter_eq_nil_iff.mpr fun step member => by simp [silent step member]

/-- What comes in while a watch waits: additions, and interruptions of the
wait. -/
def isIncoming : Step → Bool
  | added _ | interrupted => true
  | opened _ | closed _ | registered _ _ | waited _ _ | read _ | delivered _ _
  | probed _ => false

theorem answers_of_isIncoming {steps : List Step}
    (incoming : ∀ step ∈ steps, step.isIncoming = true) :
    ∀ step ∈ answers steps, step = .interrupted := by
  intro step member
  obtain ⟨present, answer⟩ := List.mem_filter.mp member
  have comes := incoming step present
  cases step <;> simp_all [isIncoming, isAnswer]

end Step

/-- The answer that a watch waits for next, or the answer with which it is
over. -/
inductive Stage where
  | waiting
  | reading
  | probing
  | finished (answer : Answer WatchError Summary)
  deriving DecidableEq, Repr

namespace Stage

/-- What a watch comes to if it gets no further. -/
def answer : Stage → Answer WatchError Summary
  | waiting | reading | probing => .blocked
  | finished answer => answer

/-- Whether the call that is made next can be interrupted. -/
def isInterruptible : Stage → Bool
  | waiting | reading => true
  | probing | finished _ => false

end Stage

/-- Where a watch stands between two answers. -/
structure Reaction where
  stage : Stage
  notifications : Nat
  sink : Sink
  deriving DecidableEq, Repr

namespace Reaction

/-- Where a watch begins. -/
def start (sink : Sink) : Reaction where
  stage := .waiting
  notifications := 0
  sink := sink

/-- The end with an answer. -/
def ended (now : Reaction) (answer : Answer WatchError Summary) : Reaction :=
  { now with stage := .finished answer }

/-- After a wait. -/
def heard (channel : Descriptor) (limit : Option Nat) (now : Reaction) :
    Answer SystemError Wake → Option Reaction
  | .blocked => some (now.ended .blocked)
  | .failed cause =>
    some (now.ended (.failed (.channelRead channel (.failed cause))))
  | .done .cancelled =>
    some (now.ended (.done ⟨.cancelled, now.notifications⟩))
  | .done .notified => some { now with stage := .reading }
  | .done .timedOut =>
    if limit.isSome then some { now with stage := .probing } else none

/-- After a delivery. -/
def delivered (now : Reaction) :
    Except SystemError Unit × List Action × Sink → Reaction
  | (.error cause, _, sink) =>
    { now with sink }.ended (.failed (.sink cause))
  | (.ok (), _, sink) =>
    { stage := .probing, notifications := now.notifications + 1, sink }

/-- After a probe. -/
def looked (now : Reaction) (present : Bool) : Reaction :=
  if present then { now with stage := .waiting }
  else now.ended (.done ⟨.cgroupRemoved, now.notifications⟩)

end Reaction

namespace Watcher

/-- After a read.  A counter is delivered at once. -/
def taken (watcher : Watcher) (channel : Descriptor) (now : Reaction)
    (answer : Answer SystemError (List UInt8)) : Reaction :=
  match Channel.interpret channel answer with
  | .blocked => now.ended .blocked
  | .failed error => now.ended (.failed error)
  | .done counter => now.delivered (now.sink.deliver (watcher.record counter))

/-- What a watch does with an answer.  An answer to a call that is not made next
is none that it can be given. -/
def react (watcher : Watcher) (channel : Descriptor) (now : Reaction)
    (step : Step) : Option Reaction :=
  match now.stage, step with
  | .waiting, .interrupted | .reading, .interrupted => some now
  | .waiting, .waited _ answer => now.heard channel watcher.limit answer
  | .reading, .read answer => some (watcher.taken channel now answer)
  | .probing, .probed present => some (now.looked present)
  | _, _ => none

/-- What a watch does with some answers, one after the other. -/
def reacts (watcher : Watcher) (channel : Descriptor) (now : Reaction)
    (answers : List Step) : Option Reaction :=
  answers.foldlM (watcher.react channel) now

section Reacting

variable {watcher : Watcher} {channel : Descriptor} {now next : Reaction}

@[simp]
theorem reacts_nil : watcher.reacts channel now [] = some now :=
  rfl

theorem reacts_cons (step : Step) (rest : List Step) :
    watcher.reacts channel now (step :: rest) =
      (watcher.react channel now step).bind
        (watcher.reacts channel · rest) :=
  List.foldlM_cons

theorem reacts_append (answers more : List Step) :
    watcher.reacts channel now (answers ++ more) =
      (watcher.reacts channel now answers).bind
        (watcher.reacts channel · more) :=
  List.foldlM_append

theorem react_waited (waiting : now.stage = .waiting) (limit : Option Nat)
    (answer : Answer SystemError Wake) :
    watcher.react channel now (.waited limit answer) =
      now.heard channel watcher.limit answer := by
  simp only [react, waiting]

theorem react_read (reading : now.stage = .reading)
    (answer : Answer SystemError (List UInt8)) :
    watcher.react channel now (.read answer) =
      some (watcher.taken channel now answer) := by
  simp only [react, reading]

theorem react_probed (probing : now.stage = .probing) (present : Bool) :
    watcher.react channel now (.probed present) =
      some (now.looked present) := by
  simp only [react, probing]

theorem react_interrupted (can : now.stage.isInterruptible = true) :
    watcher.react channel now .interrupted = some now := by
  rcases now with ⟨stage, notifications, sink⟩
  cases stage with
  | waiting | reading => rfl
  | probing | finished answer => cases can

theorem reacts_interrupted (can : now.stage.isInterruptible = true)
    {answers : List Step} (all : ∀ step ∈ answers, step = .interrupted) :
    watcher.reacts channel now answers = some now := by
  induction answers with
  | nil => rfl
  | cons first rest ih =>
      rw [all first (by simp), reacts_cons, react_interrupted can]
      exact ih fun step member => all step (by simp [member])

end Reacting

/-- Since a start the watch has reacted to the answers in the trace, and now it
stands somewhere. -/
def Reacted (watcher : Watcher) (channel : Descriptor)
    (start env : Environment) (now : Reaction) : Prop :=
  ∃ steps, env.trace = start.trace ++ steps ∧
    watcher.reacts channel (.start start.sink) (Step.answers steps) = some now

namespace Reacted

variable {watcher : Watcher} {channel : Descriptor}
  {start env after : Environment} {now next : Reaction}

/-- Steps that hold no answer change nothing. -/
theorem silent (reacted : watcher.Reacted channel start env now)
    (continues : Environment.Continues (fun step => step.isAnswer = false)
      env after) : watcher.Reacted channel start after now := by
  obtain ⟨steps, shown, reacts⟩ := reacted
  obtain ⟨more, further, silent⟩ := continues
  refine ⟨steps ++ more, by rw [further, shown, List.append_assoc], ?_⟩
  rwa [Step.answers_append, Step.answers_of_not silent, List.append_nil]

/-- What comes in while the watch waits or reads changes nothing. -/
theorem incoming (reacted : watcher.Reacted channel start env now)
    (can : now.stage.isInterruptible = true)
    (continues : Environment.Continues (fun step => step.isIncoming = true)
      env after) : watcher.Reacted channel start after now := by
  obtain ⟨steps, shown, reacts⟩ := reacted
  obtain ⟨more, further, comes⟩ := continues
  refine ⟨steps ++ more, by rw [further, shown, List.append_assoc], ?_⟩
  rw [Step.answers_append, reacts_append, reacts]
  exact reacts_interrupted can (Step.answers_of_isIncoming comes)

theorem answered (reacted : watcher.Reacted channel start env now)
    {step : Step} (shown : after.trace = env.trace ++ [step])
    (answer : step.isAnswer = true)
    (react : watcher.react channel now step = some next) :
    watcher.Reacted channel start after next := by
  obtain ⟨steps, before, reacts⟩ := reacted
  refine ⟨steps ++ [step], by rw [shown, before, List.append_assoc], ?_⟩
  rw [Step.answers_append, reacts_append, reacts]
  rw [show Step.answers [step] = [step] by simp [Step.answers, answer]]
  rw [Option.bind_some, reacts_cons, react]
  rfl

end Reacted

end Watcher

namespace Environment

/-- Others only ever add to the trace what they add to the counter. -/
theorem continues_act (env : Environment) (channel : Descriptor)
    (action : Action) :
    Continues (fun step => ∃ count, step = .added count) env
      (env.act (some channel) action).2 := by
  obtain ⟨count, acted⟩ | ⟨handle, log, _, acted⟩ | ⟨tree, allowance, acted⟩ :=
    env.act_cases channel action
  · rw [acted, add_snd]
    refine ⟨_, rfl, ?_⟩
    split <;> simp
  · rw [acted, fire_snd]
    exact .of_eq rfl
  · rw [acted]
    exact .of_eq rfl

theorem continues_actAll (env : Environment) (channel : Descriptor)
    (actions : List Action) :
    Continues (fun step => ∃ count, step = .added count) env
      (env.actAll (some channel) actions) := by
  induction actions generalizing env with
  | nil => exact .of_eq rfl
  | cons action rest ih =>
      exact (env.continues_act channel action).trans (ih _)

theorem continues_deliver (env : Environment) (channel : Descriptor)
    (bytes : List UInt8) :
    Continues (fun step => step.isAnswer = false) env
      (env.deliver (some channel) bytes).2 := by
  obtain ⟨steps, shown, added⟩ := continues_actAll
    { env with sink := (env.sink.deliver bytes).2.2 } channel
    (env.sink.deliver bytes).2.1
  refine ⟨steps, shown, fun step member => ?_⟩
  obtain ⟨count, rfl⟩ := added step member
  rfl

theorem trace_probe (env : Environment) (cgroup : Path) :
    (env.probe cgroup).2.trace =
      env.trace ++ [.probed (env.probe cgroup).1] := by
  rw [probe]
  split <;> rfl

end Environment

theorem Channel.continues_listen (channel : Descriptor)
    (cancel : Option Descriptor) (limit : Option Nat) (env : Environment) :
    Environment.Continues (fun step => step.isIncoming = true) env
      (listen channel cancel limit env).2 := by
  have lasts : Environment.Lasts channel
      (Environment.Continues (fun step => step.isIncoming = true) env) := by
    refine ⟨fun before action holds => ?_, fun _ _ holds => holds,
      fun _ holds => holds.trans (.single rfl rfl)⟩
    refine holds.trans ((before.continues_act channel action).mono ?_)
    rintro step ⟨count, rfl⟩
    rfl
  exact lasts.listen (.of_eq rfl) cancel limit

/-- What a round has come to is the reaction to the answers so far. -/
def Round.Reacted (watcher : Watcher) (channel : Descriptor)
    (start : Environment) : Round → Prop
  | continued notifications env =>
    watcher.Reacted channel start env ⟨.waiting, notifications, env.sink⟩
  | ended answer env =>
    ∃ notifications,
      watcher.Reacted channel start env ⟨.finished answer, notifications, env.sink⟩

namespace Watcher

namespace Reacted

variable {watcher : Watcher} {channel : Descriptor}
  {start env after : Environment} {now : Reaction} {notifications : Nat}

theorem wait {answer : Answer WatchError Wake}
    (reacted : watcher.Reacted channel start env now)
    (waiting : now.stage = .waiting)
    (waited : Channel.wait channel watcher.cancel
      watcher.settings.probeInterval env = (answer, after)) :
    ∃ given : Answer SystemError Wake,
      given.mapCause (fun cause => .channelRead channel (.failed cause)) =
        answer ∧
      ∀ next, now.heard channel watcher.limit given = some next →
        watcher.Reacted channel start after next := by
  rw [Channel.wait_eq] at waited
  obtain ⟨meaning, settled⟩ := Prod.mk.inj waited
  refine ⟨_, meaning, fun next heard => ?_⟩
  have can : now.stage.isInterruptible = true := by rw [waiting]; rfl
  have listened := reacted.incoming can
    (Channel.continues_listen channel watcher.cancel watcher.limit env)
  rw [← settled]
  exact listened.answered rfl rfl ((react_waited waiting _ _).trans heard)

theorem waited {wake : Wake} {next : Reaction}
    (reacted : watcher.Reacted channel start env now)
    (waiting : now.stage = .waiting)
    (wait : Channel.wait channel watcher.cancel
      watcher.settings.probeInterval env = (.done wake, after))
    (heard : now.heard channel watcher.limit (.done wake) = some next) :
    watcher.Reacted channel start after next := by
  obtain ⟨given, meaning, further⟩ := reacted.wait waiting wait
  cases given with
  | done other =>
      cases meaning
      exact further _ heard
  | failed cause => cases meaning
  | blocked => cases meaning

theorem readBytes (reacted : watcher.Reacted channel start env now)
    (reading : now.stage = .reading) (interruptions : Nat) :
    watcher.Reacted channel start
      (Channel.readBytes channel interruptions env).2
      (watcher.taken channel now
        (Channel.readBytes channel interruptions env).1) := by
  induction interruptions generalizing env with
  | zero => exact reacted.answered rfl rfl (react_read reading _)
  | succ interruptions ih =>
      have can : now.stage.isInterruptible = true := by rw [reading]; rfl
      exact ih (reacted.incoming can (.single rfl rfl))

theorem read {answer : Answer WatchError UInt64}
    (reacted : watcher.Reacted channel start env now)
    (reading : now.stage = .reading)
    (read : Channel.read channel env = (answer, after)) :
    ∃ given, Channel.interpret channel given = answer ∧
      watcher.Reacted channel start after
        (watcher.taken channel now given) := by
  rw [Channel.read_eq] at read
  obtain ⟨meaning, fetched⟩ := Prod.mk.inj read
  refine ⟨_, meaning, ?_⟩
  rw [← fetched]
  have begun : watcher.Reacted channel start
      { env with interruptions := env.interruptions.tail } now := reacted
  exact begun.readBytes reading _

theorem afterProbe
    (reacted : watcher.Reacted channel start env
      ⟨.probing, notifications, env.sink⟩) :
    (watcher.afterProbe notifications env).Reacted watcher channel start := by
  have shown := env.trace_probe watcher.settings.cgroup
  have kept := env.sink_probe watcher.settings.cgroup
  obtain ⟨found, result⟩ | ⟨found, result⟩ :=
    watcher.afterProbe_cases notifications env
  · rw [found] at shown
    rw [result, Round.Reacted, kept]
    exact reacted.answered shown rfl rfl
  · rw [found] at shown
    rw [result]
    refine ⟨notifications, ?_⟩
    rw [show ((env.probe watcher.settings.cgroup).2.note
      (.cgroupRemoved watcher.settings.cgroup)).sink = env.sink from kept]
    exact reacted.answered shown rfl rfl

theorem notified {waited : Environment}
    (reacted : watcher.Reacted channel start env
      ⟨.waiting, notifications, env.sink⟩)
    (wait : Channel.wait channel watcher.cancel
      watcher.settings.probeInterval env = (.done .notified, waited)) :
    watcher.Reacted channel start waited
      ⟨.reading, notifications, env.sink⟩ :=
  reacted.waited rfl wait rfl

/-- The part of a round in which a record is delivered. -/
theorem reporting {waited read delivered : Environment} {counter : UInt64}
    {outcome : Except SystemError Unit}
    (reacted : watcher.Reacted channel start env
      ⟨.waiting, notifications, env.sink⟩)
    (wait : Channel.wait channel watcher.cancel
      watcher.settings.probeInterval env = (.done .notified, waited))
    (taken : Channel.read channel waited = (.done counter, read))
    (deliver :
      (read.note (.notified watcher.settings.cgroup counter)).deliver
        (some channel) (watcher.record counter) = (outcome, delivered)) :
    ∃ actions, watcher.Reacted channel start
      (delivered.record (.delivered counter outcome))
      (Reaction.delivered ⟨.reading, notifications, env.sink⟩
        (outcome, actions, delivered.sink)) := by
  obtain ⟨bytes, meaning, after⟩ := (reacted.notified wait).read rfl taken
  have kept : read.sink = env.sink :=
    (Channel.sink_of_read taken).trans (Channel.sink_of_wait wait)
  have handed := Environment.sink_deliver
    (read.note (.notified watcher.settings.cgroup counter)) channel
    (watcher.record counter)
  have answered : (read.sink.deliver (watcher.record counter)).1 = outcome :=
    congrArg Prod.fst deliver
  have quiet := Environment.continues_deliver
    (read.note (.notified watcher.settings.cgroup counter)) channel
    (watcher.record counter)
  rw [deliver] at handed quiet
  refine ⟨(env.sink.deliver (watcher.record counter)).2.1, ?_⟩
  have noted : watcher.Reacted channel start
      (read.note (.notified watcher.settings.cgroup counter)) _ := after
  have told : Environment.Continues (fun step => step.isAnswer = false)
      delivered (delivered.record (.delivered counter outcome)) :=
    .single rfl rfl
  have silent := (noted.silent quiet).silent told
  rw [Watcher.taken, meaning] at silent
  have same : env.sink.deliver (watcher.record counter) =
      (outcome, (env.sink.deliver (watcher.record counter)).2.1,
        delivered.sink) := by
    rw [← answered, handed, ← kept]
    rfl
  dsimp only at silent
  rwa [same] at silent

theorem round (reacted : watcher.Reacted channel start env
      ⟨.waiting, notifications, env.sink⟩) :
    (watcher.round channel notifications env).Reacted watcher channel
      start := by
  -- The answers that a round is given decide what it comes to.
  have turn := watcher.turn_round channel notifications env
  generalize watcher.round channel notifications env = result at turn
  cases turn with
  | waitBlocked wait =>
      obtain ⟨given, heard, further⟩ := reacted.wait rfl wait
      have kept := Channel.sink_of_wait wait
      cases given with
      | blocked => exact ⟨notifications, further _ (by rw [kept]; rfl)⟩
      | done wake => cases heard
      | failed cause => cases heard
  | waitFailed wait =>
      obtain ⟨given, heard, further⟩ := reacted.wait rfl wait
      have kept := Channel.sink_of_wait wait
      cases given with
      | failed cause =>
          cases heard
          exact ⟨notifications, further _ (by rw [kept]; rfl)⟩
      | done wake => cases heard
      | blocked => cases heard
  | cancelled wait =>
      have kept := Channel.sink_of_wait wait
      have told := reacted.waited rfl wait rfl
      refine ⟨notifications, ?_⟩
      rw [show (Environment.note _ _).sink = env.sink from kept]
      exact told
  | timedOut wait =>
      refine afterProbe (reacted.waited rfl wait ?_)
      rw [Channel.sink_of_wait wait]
      exact if_pos (Channel.limited_of_wait wait)
  | readBlocked wait read | readFailed wait read =>
      obtain ⟨given, meaning, told⟩ := (reacted.notified wait).read rfl read
      have kept := (Channel.sink_of_read read).trans
        (Channel.sink_of_wait wait)
      rw [Watcher.taken, meaning] at told
      refine ⟨notifications, ?_⟩
      rw [kept]
      exact told
  | refused wait read deliver =>
      obtain ⟨_, told⟩ := reacted.reporting wait read deliver
      exact ⟨notifications, told⟩
  | reported wait read deliver =>
      obtain ⟨_, told⟩ := reacted.reporting wait read deliver
      exact afterProbe told

theorem arrives (arrived : watcher.Arrives channel start notifications env) :
    watcher.Reacted channel start env
      ⟨.waiting, notifications, env.sink⟩ := by
  induction arrived with
  | first => exact ⟨[], by simp, rfl⟩
  | next arrived result ih =>
      have further := ih.round
      rwa [result] at further

/-- A watch past its guards is the reaction to the answers in its trace. -/
theorem watch (watched : watcher.watched? = some channel)
    (env : Environment) :
    ∃ final, watcher.Reacted channel env (watcher.watch env).2 final ∧
      final.stage.answer = (watcher.watch env).1 ∧
      final.sink = (watcher.watch env).2.sink := by
  obtain ⟨count, before, arrived, result⟩ | ⟨blocked, count, arrived⟩ :=
    watcher.watch_cases watched env
  · have last := (arrives arrived).round
    rw [result] at last
    obtain ⟨notifications, reacted⟩ := last
    exact ⟨_, reacted, rfl, rfl⟩
  · have reacted := arrives arrived
    rw [blocked]
    exact ⟨_, reacted, rfl, rfl⟩

end Reacted

end Watcher

end MemoryWatch
