import MemoryWatch.Proofs.Echo
import MemoryWatch.Proofs.Indifference
import MemoryWatch.Proofs.Retry

/-!
# One watcher in surroundings that look the same

The same watcher does the same in surroundings that look the same.  Each
operation has the same answer, leaves the watcher with the same handles under
the same numbers, and leaves surroundings that look the same, in which the same
was written to the log and to the trace.
-/

namespace MemoryWatch

namespace Environment

/-- The same answer was given, the same is held, and the surroundings go on to
look the same. -/
structure Served {α : Type} (start twin : Environment)
    (first second : α × Watcher × Environment) : Prop where
  answer : second.1 = first.1
  watcher : second.2.1 = first.2.1
  echoes : Echoes start twin first.2.2 second.2.2

variable {start twin env other : Environment}

theorem Echoed.eq {α : Type} {first second : α × Environment}
    (echoed : Echoed start twin first second) : second = (first.1, second.2) :=
  Prod.ext echoed.answer rfl

theorem Served.eq {α : Type} {first second : α × Watcher × Environment}
    (served : Served start twin first second) :
    second = (first.1, first.2.1, second.2.2) :=
  Prod.ext served.answer (Prod.ext served.watcher rfl)

namespace Echoes

/-! ## The event channel -/

theorem createChannel (echoes : Echoes start twin env other) :
    Echoed start twin (Channel.create env) (Channel.create other) := by
  have made := echoes.create (.counter 0)
  rw [Channel.create, Channel.create, made.eq]
  generalize env.create (.counter 0) = first at made ⊢
  obtain ⟨cause | channel, after⟩ := first
  · exact ⟨rfl, made.echoes⟩
  · exact ⟨rfl, made.echoes.note _⟩

theorem glance (echoes : Echoes start twin env other) (channel : Descriptor)
    (cancel : Option Descriptor) :
    Channel.glance channel cancel other =
      Channel.glance channel cancel env := by
  simp only [Channel.glance, echoes.hosts.readiness]

theorem isBarred (echoes : Echoes start twin env other)
    (cancel : Option Descriptor) :
    Channel.isBarred cancel other = Channel.isBarred cancel env := by
  rw [Channel.isBarred, Channel.isBarred, echoes.hosts.allowance]

theorem happen (echoes : Echoes start twin env other) (channel : Descriptor)
    (group : List Action) (later : Schedule) :
    Echoes start twin (Channel.happen channel group later env)
      (Channel.happen channel group later other) := by
  have acted := (echoes.reschedule later).actAll (some channel) group
  rw [Channel.happen, Channel.happen]
  split
  · exact acted.record _
  · exact acted

theorem await (echoes : Echoes start twin env other) (channel : Descriptor)
    (cancel : Option Descriptor) (limit : Option Nat) (schedule : Schedule) :
    Echoed start twin (Channel.await channel cancel limit schedule env)
      (Channel.await channel cancel limit schedule other) := by
  induction schedule generalizing env other with
  | nil => exact ⟨rfl, echoes.reschedule []⟩
  | cons group later ih =>
      have happened := echoes.happen channel group later
      rw [Channel.await_cons, Channel.await_cons]
      dsimp only
      rw [happened.glance, happened.isBarred]
      split
      · exact ⟨rfl, happened⟩
      · split
        · exact ⟨rfl, happened⟩
        · split
          · exact ⟨rfl, happened⟩
          · exact ih happened

theorem listen (echoes : Echoes start twin env other) (channel : Descriptor)
    (cancel : Option Descriptor) (limit : Option Nat) :
    Echoed start twin (Channel.listen channel cancel limit env)
      (Channel.listen channel cancel limit other) := by
  rw [Channel.listen, Channel.listen, echoes.glance, echoes.isBarred,
    echoes.schedule]
  split
  · exact ⟨rfl, echoes⟩
  split
  · exact ⟨rfl, echoes⟩
  · exact echoes.await channel cancel limit env.schedule

theorem wait (echoes : Echoes start twin env other) (channel : Descriptor)
    (cancel : Option Descriptor) (timeout : Option Duration) :
    Echoed start twin (Channel.wait channel cancel timeout env)
      (Channel.wait channel cancel timeout other) := by
  have heard := echoes.listen channel cancel
    (timeout.map Duration.waitMilliseconds)
  rw [Channel.wait_eq, Channel.wait_eq]
  dsimp only
  rw [heard.answer]
  exact ⟨rfl, heard.echoes.record _⟩

theorem readBytes (echoes : Echoes start twin env other)
    (channel : Descriptor) (interruptions : Nat) :
    Echoed start twin (Channel.readBytes channel interruptions env)
      (Channel.readBytes channel interruptions other) := by
  induction interruptions generalizing env other with
  | zero =>
      obtain ⟨same, mirrors⟩ := echoes.hosts.read channel
      rw [Channel.readBytes, Channel.readBytes]
      dsimp only
      rw [same]
      exact ⟨rfl, (echoes.rehost mirrors).record _⟩
  | succ interruptions ih => exact ih (echoes.record .interrupted)

theorem read (echoes : Echoes start twin env other) (channel : Descriptor) :
    Echoed start twin (Channel.read channel env)
      (Channel.read channel other) := by
  have fetched := (echoes.interrupt env.interruptions.tail).readBytes channel
    (env.interruptions.headD 0)
  rw [Channel.read_eq, Channel.read_eq, Channel.fetch, Channel.fetch,
    echoes.interruptions]
  exact ⟨congrArg (Channel.interpret channel) fetched.answer, fetched.echoes⟩

/-! ## Getting ready -/

variable (watcher : Watcher)

theorem setup (echoes : Echoes start twin env other) :
    Served start twin (watcher.setup env) (watcher.setup other) := by
  rw [Watcher.setup, Watcher.setup]
  cases watcher.handles.channel with
  | some channel => exact ⟨rfl, rfl, echoes⟩
  | none =>
      have made := echoes.createChannel
      dsimp only
      rw [made.eq]
      generalize Channel.create env = first at made ⊢
      obtain ⟨error | channel, after⟩ := first
      · exact ⟨rfl, rfl, made.echoes⟩
      · exact ⟨rfl, rfl, made.echoes⟩

theorem register (echoes : Echoes start twin env other)
    (channel control oomControl : Descriptor) :
    Served start twin (watcher.register channel control oomControl env)
      (watcher.register channel control oomControl other) := by
  rw [Watcher.register, Watcher.register]
  dsimp only
  split
  · exact ⟨rfl, rfl, echoes⟩
  · next text named =>
      have written := (echoes.note (.registering text)).writeControl control
        (Utf8.ofString text)
      rw [Registration.register, Registration.register, written.eq]
      generalize Registration.writeControl control (Utf8.ofString text)
        (env.note (.registering text)) = first at written ⊢
      obtain ⟨outcome, after⟩ := first
      dsimp only
      generalize Registration.judge _ _ _ outcome = judged
      obtain ⟨error | count, warnings⟩ := judged
      · exact ⟨rfl, rfl, written.echoes.noteAll warnings⟩
      · exact ⟨rfl, rfl,
          ((written.echoes.noteAll warnings).close control).note _⟩

theorem subscribe (echoes : Echoes start twin env other) :
    Served start twin (watcher.subscribe env) (watcher.subscribe other) := by
  rw [Watcher.subscribe, Watcher.subscribe]
  dsimp only
  split
  · exact ⟨rfl, rfl, echoes⟩
  · exact ⟨rfl, rfl, echoes⟩
  · next channel _ _ =>
      have opened := echoes.openPath
        (Cgroup.eventControl watcher.settings.cgroup) .writing
      rw [opened.eq]
      generalize env.openPath _ _ = first at opened ⊢
      obtain ⟨cause | control, halfway⟩ := first
      · exact ⟨rfl, rfl, opened.echoes⟩
      · have further := (opened.echoes.closeHeld
          watcher.handles.eventControl).openPath
            (Cgroup.oomControl watcher.settings.cgroup) .reading
        dsimp only at further ⊢
        rw [further.eq]
        generalize Environment.openPath (halfway.closeHeld _) _ _ = second
          at further ⊢
        obtain ⟨cause | oomControl, ready⟩ := second
        · exact ⟨rfl, rfl, further.echoes⟩
        · exact (further.echoes.closeHeld
            watcher.handles.oomControl).register _ channel control oomControl

theorem closeHandles (echoes : Echoes start twin env other)
    (handles : List (HandleKind × Descriptor)) :
    Echoes start twin (handles.foldl Watcher.closeHandle env)
      (handles.foldl Watcher.closeHandle other) := by
  induction handles generalizing env other with
  | nil => exact echoes
  | cons handle rest ih => exact ih ((echoes.note _).close handle.2)

theorem cleanup (echoes : Echoes start twin env other) :
    Served start twin (watcher.cleanup env) (watcher.cleanup other) :=
  ⟨rfl, rfl, echoes.closeHandles watcher.handles.held⟩

theorem notifier (echoes : Echoes start twin env other) :
    Echoed start twin (watcher.notifier env) (watcher.notifier other) := by
  rw [Watcher.notifier, Watcher.notifier]
  cases watcher.handles.channel with
  | none => exact ⟨rfl, echoes⟩
  | some channel =>
      have both := echoes.hosts.duplicate channel
      dsimp only
      rw [Channel.notifier, Channel.notifier, both.eq]
      generalize env.host.duplicate channel = made at both ⊢
      have next := echoes.rehost both.mirrors
      obtain ⟨cause | second, host⟩ := made
      · exact ⟨rfl, next⟩
      · exact ⟨rfl, next⟩

end Echoes

end Environment

/-- Two rounds come to the same, and the surroundings go on to look the
same. -/
inductive Round.Echoed (start twin : Environment) : Round → Round → Prop
  | continued (notifications : Nat) {env other : Environment}
      (echoes : Environment.Echoes start twin env other) :
      Round.Echoed start twin (.continued notifications env)
        (.continued notifications other)
  | ended (answer : Answer WatchError Summary) {env other : Environment}
      (echoes : Environment.Echoes start twin env other) :
      Round.Echoed start twin (.ended answer env) (.ended answer other)

namespace Environment.Echoes

/-! ## Watching -/

variable {start twin env other : Environment} (watcher : Watcher)

theorem afterProbe (echoes : Echoes start twin env other)
    (notifications : Nat) :
    Round.Echoed start twin (watcher.afterProbe notifications env)
      (watcher.afterProbe notifications other) := by
  have probed := echoes.probe watcher.settings.cgroup
  rw [Watcher.afterProbe, Watcher.afterProbe, probed.eq]
  generalize env.probe watcher.settings.cgroup = first at probed ⊢
  obtain ⟨_ | _, after⟩ := first
  · exact .ended _ (probed.echoes.note _)
  · exact .continued _ probed.echoes

theorem report (echoes : Echoes start twin env other) (channel : Descriptor)
    (notifications : Nat) :
    Round.Echoed start twin (watcher.report channel notifications env)
      (watcher.report channel notifications other) := by
  have taken := echoes.read channel
  rw [Watcher.report, Watcher.report, taken.eq]
  generalize Channel.read channel env = first at taken ⊢
  obtain ⟨counter | error | _, after⟩ := first
  · have told := taken.echoes.note
      (.notified watcher.settings.cgroup counter)
    have delivered := told.deliver (some channel)
      (Record.encode watcher.settings.format watcher.settings.cgroup counter)
    dsimp only
    rw [delivered.eq]
    generalize Environment.deliver _ (some channel) _ = second
      at delivered ⊢
    have recorded := delivered.echoes.record (.delivered counter second.1)
    obtain ⟨cause | _, handed⟩ := second
    · exact .ended _ recorded
    · exact recorded.afterProbe watcher (notifications + 1)
  · exact .ended _ taken.echoes
  · exact .ended _ taken.echoes

theorem round (echoes : Echoes start twin env other) (channel : Descriptor)
    (notifications : Nat) :
    Round.Echoed start twin (watcher.round channel notifications env)
      (watcher.round channel notifications other) := by
  have waited := echoes.wait channel watcher.cancel
    watcher.settings.probeInterval
  rw [Watcher.round, Watcher.round, waited.eq]
  generalize Channel.wait channel watcher.cancel _ env = first at waited ⊢
  obtain ⟨(_ | _ | _) | error | _, after⟩ := first
  · exact waited.echoes.report watcher channel notifications
  · exact .ended _ (waited.echoes.note _)
  · exact waited.echoes.afterProbe watcher notifications
  · exact .ended _ waited.echoes
  · exact .ended _ waited.echoes

/-- So many rounds come to the same. -/
theorem rounds (echoes : Echoes start twin env other) (channel : Descriptor)
    (bound notifications : Nat) :
    Echoed start twin (watcher.rounds channel bound notifications env)
      (watcher.rounds channel bound notifications other) := by
  induction bound generalizing notifications env other with
  | zero => exact ⟨rfl, echoes⟩
  | succ bound ih =>
      have round := echoes.round watcher channel notifications
      rw [Watcher.rounds, Watcher.rounds]
      generalize watcher.round channel notifications env = first at round ⊢
      generalize watcher.round channel notifications other = second at round ⊢
      cases round with
      | continued following further => exact ih further following
      | ended answer ended => exact ⟨rfl, ended⟩

/-- Both are watched for as many rounds at most. -/
theorem patience (echoes : Echoes start twin env other)
    (channel : Descriptor) :
    Watcher.patience channel other = Watcher.patience channel env := by
  rw [Watcher.patience, Watcher.patience, echoes.schedule, echoes.sink,
    echoes.hosts.file]

theorem watch (echoes : Echoes start twin env other) :
    Echoed start twin (watcher.watch env) (watcher.watch other) := by
  rw [Watcher.watch, Watcher.watch]
  split
  · exact ⟨rfl, echoes⟩
  · exact ⟨rfl, echoes⟩
  · next channel _ _ =>
      rw [echoes.patience]
      exact echoes.rounds watcher channel _ 0

theorem attempt (echoes : Echoes start twin env other) :
    Served start twin (watcher.attempt env) (watcher.attempt other) := by
  have ready := echoes.setup watcher
  rw [Watcher.attempt, Watcher.attempt, ready.eq]
  generalize watcher.setup env = first at ready ⊢
  obtain ⟨error | _, next, after⟩ := first
  · exact ⟨rfl, rfl, ready.echoes⟩
  · have subscribed := ready.echoes.subscribe next
    dsimp only at subscribed ⊢
    rw [subscribed.eq]
    generalize next.subscribe after = second at subscribed ⊢
    obtain ⟨error | _, listening, later⟩ := second
    · exact ⟨rfl, rfl, subscribed.echoes⟩
    · have watched := subscribed.echoes.watch listening
      exact ⟨watched.answer, rfl, watched.echoes⟩

theorem run (echoes : Echoes start twin env other) :
    Served start twin (watcher.run env) (watcher.run other) := by
  have tried := echoes.attempt watcher
  rw [Watcher.run, Watcher.run, tried.eq]
  generalize watcher.attempt env = first at tried ⊢
  obtain ⟨answer, next, after⟩ := first
  have cleaned := (tried.echoes.cleanup next).echoes.note
    (.released next.handles.count)
  cases answer with
  | done summary | failed error => exact ⟨rfl, rfl, cleaned⟩
  | blocked => exact ⟨rfl, rfl, tried.echoes⟩

end Environment.Echoes

/-! ## Sequences of episodes -/

/-- What others may do to the surroundings of a watcher: they act, or it is
settled anew how the sink answers and what is going to happen, or what files
there are, how many descriptors there may be and what the files take. -/
inductive Change where
  | act (action : Action)
  | script (sink : Sink) (schedule : Schedule) (interruptions : List Nat)
  | refile (tree : FileTree) (allowance : Allowance) (storage : Storage)

/-- One episode in the life of a session: somebody calls an operation, or others
change the surroundings. -/
inductive Episode where
  | perform (operation : Operation)
  | outside (change : Change)

/-- What somebody gets from an episode. -/
inductive Response where
  | answered (operation : Operation)
      (answer : Answer WatchError operation.Result)
  | acted (result : Except SystemError Unit)
  | none

/-- The surroundings after a change.  Notifications go to the event counter
behind `channel`, if there is one. -/
def Environment.undergo (env : Environment) (channel : Option Descriptor) :
    Change → Environment
  | .act action => (env.act channel action).2
  | .script sink schedule interruptions =>
    { env with sink, schedule, interruptions }
  | .refile tree allowance storage =>
    { env with host := { env.host with tree, allowance, storage } }

/-- The surroundings after an episode in which no operation is called. -/
def Environment.pass (env : Environment) : Episode → Environment
  | .perform _ => env
  | .outside change => env.undergo none change

/-- The surroundings after some episodes in which no operation is called. -/
def Environment.passAll (env : Environment) (episodes : List Episode) :
    Environment :=
  episodes.foldl pass env

namespace Session

/-- The session after an episode. -/
def take (session : Session) : Episode → Session
  | .perform operation => session.perform operation
  | .outside change =>
    session.elapse (session.env.undergo session.watcher.handles.channel change)

/-- The session after some episodes. -/
def follow (session : Session) (episodes : List Episode) : Session :=
  episodes.foldl take session

/-- What somebody gets from the next episode. -/
def response (session : Session) : Episode → Response
  | .perform operation => .answered operation (session.answer operation)
  | .outside (.act action) =>
    .acted (session.env.act session.watcher.handles.channel action).1
  | .outside (.script _ _ _) | .outside (.refile _ _ _) => .none

/-- What somebody gets from the episodes that come next. -/
def responses (session : Session) : List Episode → List Response
  | [] => []
  | episode :: episodes =>
    session.response episode :: (session.take episode).responses episodes

/-- Two sessions in which the same is held, in surroundings that look the same,
in which the same was written down since two others. -/
structure Echoes (start twin first second : Session) : Prop where
  watcher : second.watcher = first.watcher
  echoes : Environment.Echoes start.env twin.env first.env second.env

namespace Echoes

variable {start twin first second : Session}

/-- Each operation has the same answer. -/
theorem perform (echoes : Echoes start twin first second)
    (operation : Operation) :
    second.answer operation = first.answer operation ∧
      Echoes start twin (first.perform operation)
        (second.perform operation) := by
  obtain ⟨_, env⟩ := first
  obtain ⟨watcher, other⟩ := second
  obtain ⟨same, echoes⟩ := echoes
  dsimp only at same echoes
  subst same
  cases operation with
  | setup =>
      have served := echoes.setup watcher
      exact ⟨congrArg Answer.ofExcept served.answer, served.watcher,
        served.echoes⟩
  | subscribe =>
      have served := echoes.subscribe watcher
      exact ⟨congrArg Answer.ofExcept served.answer, served.watcher,
        served.echoes⟩
  | watch =>
      have echoed := echoes.watch watcher
      exact ⟨echoed.answer, rfl, echoed.echoes⟩
  | run =>
      have served := echoes.run watcher
      exact ⟨served.answer, served.watcher, served.echoes⟩
  | cleanup => exact ⟨rfl, rfl, (echoes.cleanup watcher).echoes⟩
  | notifier =>
      have echoed := echoes.notifier watcher
      refine ⟨?_, rfl, echoed.echoes⟩
      rw [answer, answer, echoed.answer]

theorem outside (echoes : Echoes start twin first second) (change : Change) :
    second.response (.outside change) = first.response (.outside change) ∧
      Echoes start twin (first.take (.outside change))
        (second.take (.outside change)) := by
  obtain ⟨_, env⟩ := first
  obtain ⟨watcher, other⟩ := second
  obtain ⟨same, echoes⟩ := echoes
  dsimp only at same echoes
  subst same
  cases change with
  | act action =>
      have acted := echoes.act watcher.handles.channel action
      exact ⟨congrArg Response.acted acted.answer, rfl, acted.echoes⟩
  | script sink schedule interruptions =>
      exact ⟨rfl, rfl, ((echoes.resink sink).reschedule schedule).interrupt
        interruptions⟩
  | refile tree allowance storage =>
      exact ⟨rfl, rfl, echoes.rehost
        { echoes.hosts with allowance := rfl, storage := rfl, tree := rfl }⟩

theorem take (echoes : Echoes start twin first second) (episode : Episode) :
    second.response episode = first.response episode ∧
      Echoes start twin (first.take episode) (second.take episode) := by
  cases episode with
  | perform operation =>
      obtain ⟨same, performed⟩ := echoes.perform operation
      exact ⟨congrArg (Response.answered operation) same, performed⟩
  | outside change => exact echoes.outside change

/-- Whatever happens next to two sessions that look the same, the responses are
the same, and the sessions go on to look the same. -/
theorem follow (echoes : Echoes start twin first second)
    (episodes : List Episode) :
    second.responses episodes = first.responses episodes ∧
      Echoes start twin (first.follow episodes) (second.follow episodes) := by
  induction episodes generalizing first second with
  | nil => exact ⟨rfl, echoes⟩
  | cons episode episodes ih =>
      obtain ⟨same, taken⟩ := echoes.take episode
      obtain ⟨others, followed⟩ := ih taken
      exact ⟨by rw [responses, responses, same, others], followed⟩

end Echoes

end Session

end MemoryWatch
