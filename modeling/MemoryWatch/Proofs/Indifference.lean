import MemoryWatch.Proofs.Notice
import MemoryWatch.Proofs.Upkeep

/-!
# What makes no difference to a watcher

The format of the records and a handle that is never fired make no difference
to what a watcher does.  Two watchers that differ in nothing else, each in a new
process with the same files, give the same answers, hold handles of the same
kinds, deliver the same counters and leave the same files, whatever operations
are called and whatever others do.

A limit on descriptors is something that others set, and they set it to so many
more than there are.  A process has at most four more than it began with, so that
it never comes near to what a process can have at all.
-/

namespace MemoryWatch

open Environment (Works)

/-- What an operation gives when it succeeds, apart from the number of a
descriptor. -/
def Operation.Result : Operation → Type
  | setup | subscribe | notifier => Unit
  | watch | run => Summary
  | cleanup => Nat

theorem Answer.Same.of_ofExcept {α : Type}
    {result counterpart : Except WatchError α}
    (same : (Answer.ofExcept result).Same (.ofExcept counterpart)) :
    (∃ error other, result = .error error ∧ counterpart = .error other ∧
        error.Same other) ∨
      ∃ value, result = .ok value ∧ counterpart = .ok value := by
  cases result <;> cases counterpart <;> cases same
  · next error other same => exact Or.inl ⟨error, other, rfl, rfl, same⟩
  · next value => exact Or.inr ⟨value, rfl, rfl⟩

/-! ## What a watcher does to itself -/

theorem Step.isExchange_of_isHandling (step : Step)
    (handling : step.isHandling = true) : step.isExchange = false := by
  cases step <;> simp_all [isHandling, isExchange]

theorem Environment.exchanges_of_isHandling {before after : Environment}
    (continues : Continues (fun step => step.isHandling = true) before after) :
    after.exchanges = before.exchanges := by
  obtain ⟨steps, shown, handling⟩ := continues
  have none : steps.filter Step.isExchange = [] :=
    List.filter_eq_nil_iff.mpr fun step member => by
      simp [step.isExchange_of_isHandling (handling step member)]
  rw [exchanges, exchanges, shown, List.filter_append, none, List.append_nil]

namespace Environment

/-- Without a channel only what would be added to it is left out. -/
theorem act_none (env : Environment) (action : Action) :
    env.act none action = env.act (some 0) action ∨
      (env.act none action).2 = env := by
  cases action <;> first | exact Or.inl rfl | exact Or.inr rfl

theorem Stays.act_channel (env : Environment) (channel : Option Descriptor)
    (action : Action) : Stays env (env.act channel action).2 := by
  cases channel with
  | some channel => exact .act env channel action
  | none =>
      obtain same | idle := env.act_none action
      · rw [same]
        exact .act env 0 action
      · rw [idle]
        exact .refl env

end Environment

namespace Session

namespace Tends

variable {before after : Session}

/-- Nothing that a watcher does to itself fires the handle or lets others fire
it. -/
theorem calm (tends : before.Tends after) (works : Works before.env after.env)
    (calm : before.env.Calm before.watcher.ears) :
    after.env.Calm after.watcher.ears where
  counts := tends.counts calm.counts
  unfired handle through := by
    have guard : before.watcher.cancel = some handle :=
      tends.cancel.symm.trans through
    exact (tends.guarded handle (Or.inl guard)).pending?.trans
      (calm.unfired handle guard)
  apart channel handle held through :=
    tends.owns.cancelApart handle (Or.inl through) .channel channel held
  scheduled := by
    rw [works.schedule]
    exact calm.scheduled
  flushing := by
    rw [works.sink]
    exact calm.flushing
  willing := by
    rw [works.sink]
    exact calm.willing

end Tends

/-- What somebody gets from an operation, apart from the number of a
descriptor. -/
def answer (session : Session) :
    (operation : Operation) → Answer WatchError operation.Result
  | .setup => .ofExcept (session.watcher.setup session.env).1
  | .subscribe => .ofExcept (session.watcher.subscribe session.env).1
  | .watch => (session.watcher.watch session.env).1
  | .run => (session.watcher.run session.env).1
  | .cleanup => .done (session.watcher.cleanup session.env).1
  | .notifier =>
    .ofExcept ((session.watcher.notifier session.env).1.map fun _ => ())

/-- The session after somebody has acted on it from outside. -/
def acted (session : Session) (action : Action) : Session :=
  session.elapse
    (session.env.act session.watcher.handles.channel action).2

/-- The session after somebody has notified the channel through a notifier of
his own. -/
def notify (session : Session) (count : UInt64) : Session :=
  session.elapse (session.watcher.notify count session.env).2

/-- Two sessions that look the same to their watchers, up to the numbers of
descriptors.  Apart from the handle that could cancel, both processes have so
many descriptors besides those that are held. -/
structure Alike (spare : Nat) (first second : Session) : Prop where
  settings : first.watcher.settings.Same second.watcher.settings
  handles : first.watcher.handles.Same second.watcher.handles
  owns : first.watcher.Owns first.env
  twinOwns : second.watcher.Owns second.env
  below : ∀ channel, first.watcher.handles.channel = some channel →
    channel < Host.tableLimit
  twinBelow : ∀ channel, second.watcher.handles.channel = some channel →
    channel < Host.tableLimit
  leaves : first.watcher.Leaves
    (spare + first.watcher.cancel.toList.length) first.env
  twinLeaves : second.watcher.Leaves
    (spare + second.watcher.cancel.toList.length) second.env
  surroundings : Environment.Alike first.watcher.ears second.watcher.ears
    first.env second.env

namespace Alike

variable {spare more : Nat} {first second next twin : Session}

/-- No operation makes more than three descriptors. -/
theorem room (alike : first.Alike spare second)
    (few : spare + 7 ≤ Host.tableLimit) :
    first.env.host.openCount + 3 ≤ Host.tableLimit ∧
      second.env.host.openCount + 3 ≤ Host.tableLimit := by
  have atMost (cancel : Option Descriptor) : cancel.toList.length ≤ 1 := by
    cases cancel <;> simp
  have guarded := atMost first.watcher.cancel
  have twinGuarded := atMost second.watcher.cancel
  have count := alike.leaves.openCount_le
  have twinCount := alike.twinLeaves.openCount_le
  omega

theorem channel_of_tends (alike : first.Alike spare second)
    (tends : first.Tends next)
    (twinTends : second.Tends twin)
    (handles : next.watcher.handles.Same twin.watcher.handles) :
    Host.SameChannel next.env.host twin.env.host
      next.watcher.handles.channel twin.watcher.handles.channel := by
  have same : Host.SameChannel first.env.host second.env.host
      first.watcher.handles.channel second.watcher.handles.channel :=
    alike.surroundings.channel
  obtain ⟨free, twinFree⟩ | ⟨channel, counterpart, held, twinHeld⟩ :=
    handles.channel
  · rw [free, twinFree]
    exact .none
  · rw [held, twinHeld]
    obtain ⟨known, keeps⟩ | ⟨free, _, file⟩ := tends.channel channel held <;>
      obtain ⟨twinKnown, twinKeeps⟩ | ⟨twinFree, _, twinFile⟩ :=
        twinTends.channel counterpart twinHeld
    -- Both keep the channel they had, or both have a new one, since both or
    -- neither had one.
    · rw [known, twinKnown] at same
      cases same with
      | some file => exact .some (by rw [twinKeeps.file, keeps.file, file])
    · rw [known, twinFree] at same
      cases same
    · rw [free, twinKnown] at same
      cases same
    · exact .some (twinFile.trans file.symm)

/-- What two watchers do to themselves keeps their sessions alike, if it keeps
their handles and their hosts alike. -/
theorem of_tends (alike : first.Alike spare second) (tends : first.Tends next)
    (twinTends : second.Tends twin) (works : Works first.env next.env)
    (twinWorks : Works second.env twin.env)
    (handles : next.watcher.handles.Same twin.watcher.handles)
    (hosts : next.env.host.Alike twin.env.host)
    (leaves : next.watcher.Leaves
      (more + first.watcher.cancel.toList.length) next.env)
    (twinLeaves : twin.watcher.Leaves
      (more + second.watcher.cancel.toList.length) twin.env) :
    next.Alike more twin where
  settings := by
    rw [tends.settings, twinTends.settings]
    exact alike.settings
  handles := handles
  owns := tends.owns
  twinOwns := twinTends.owns
  below channel held := by
    obtain ⟨known, _⟩ | ⟨_, below, _⟩ := tends.channel channel held
    · exact alike.below channel known
    · exact below
  twinBelow channel held := by
    obtain ⟨known, _⟩ | ⟨_, below, _⟩ := twinTends.channel channel held
    · exact alike.twinBelow channel known
    · exact below
  leaves := by
    rw [tends.cancel]
    exact leaves
  twinLeaves := by
    rw [twinTends.cancel]
    exact twinLeaves
  surroundings :=
    { hosts with
      even := by
        have count := handles.count
        rw [Watcher.Leaves] at leaves twinLeaves
        dsimp only [Watcher.ears]
        rw [tends.cancel, twinTends.cancel]
        omega
      calm := tends.calm works alike.surroundings.calm
      twin := twinTends.calm twinWorks alike.surroundings.twin
      channel := alike.channel_of_tends tends twinTends handles
      schedule := by
        rw [works.schedule, twinWorks.schedule,
          alike.surroundings.schedule]
      interruptions := by
        rw [works.interruptions, twinWorks.interruptions,
          alike.surroundings.interruptions]
      flushes := by
        rw [works.sink, twinWorks.sink, alike.surroundings.flushes]
      exchanges := by
        rw [Environment.exchanges_of_isHandling tends.continues,
          Environment.exchanges_of_isHandling twinTends.continues,
          alike.surroundings.exchanges] }

/-- What goes on while both watchers keep their handles keeps their sessions
alike, if it keeps their surroundings alike. -/
theorem of_stays (alike : first.Alike spare second)
    {after twinAfter : Environment}
    (stays : Environment.Stays first.env after)
    (twinStays : Environment.Stays second.env twinAfter)
    (surroundings : Environment.Alike first.watcher.ears second.watcher.ears
      after twinAfter) :
    (first.elapse after).Alike spare (second.elapse twinAfter) where
  settings := alike.settings
  handles := alike.handles
  owns := alike.owns.stays stays
  twinOwns := alike.twinOwns.stays twinStays
  below := alike.below
  twinBelow := alike.twinBelow
  leaves := alike.leaves.stays stays
  twinLeaves := alike.twinLeaves.stays twinStays
  surroundings := surroundings

theorem setup (alike : first.Alike spare second)
    (few : spare + 7 ≤ Host.tableLimit) :
    (first.answer .setup).Same (second.answer .setup) ∧
      first.setup.Alike spare second.setup := by
  obtain ⟨room, twinRoom⟩ := alike.room few
  obtain ⟨answers, handles, hosts⟩ := Watcher.setup_alike alike.handles
    alike.surroundings.toAlike (by omega) (by omega)
  exact ⟨answers, alike.of_tends (first.tends_setup alike.owns)
    (second.tends_setup alike.twinOwns) (first.watcher.works_setup first.env)
    (second.watcher.works_setup second.env) handles hosts
    (alike.leaves.setup alike.owns) (alike.twinLeaves.setup alike.twinOwns)⟩

theorem subscribe (alike : first.Alike spare second)
    (few : spare + 7 ≤ Host.tableLimit) :
    (first.answer .subscribe).Same (second.answer .subscribe) ∧
      first.subscribe.Alike spare second.subscribe := by
  obtain ⟨room, twinRoom⟩ := alike.room few
  obtain ⟨answers, handles, hosts⟩ := Watcher.subscribe_alike alike.settings
    alike.handles alike.below alike.twinBelow alike.owns alike.twinOwns
    alike.surroundings.toAlike (by omega) (by omega)
  have subscribing := first.watcher.subscribing_subscribe first.env
  have twinSubscribing := second.watcher.subscribing_subscribe second.env
  exact ⟨answers, alike.of_tends (first.tends_subscribe alike.owns)
    (second.tends_subscribe alike.twinOwns)
    (first.watcher.works_subscribe first.env)
    (second.watcher.works_subscribe second.env) handles hosts
    (alike.leaves.subscribing alike.owns subscribing)
    (alike.twinLeaves.subscribing alike.twinOwns twinSubscribing)⟩

theorem watch (alike : first.Alike spare second) :
    (first.answer .watch).Same (second.answer .watch) ∧
      first.watch.Alike spare second.watch := by
  obtain ⟨answers, watched⟩ := Watcher.watch_alike alike.settings
    alike.handles.registration alike.owns alike.twinOwns alike.surroundings
  exact ⟨answers, alike.of_stays (first.watcher.stays_watch first.env)
    (second.watcher.stays_watch second.env) watched⟩

theorem cleanup (alike : first.Alike spare second) :
    (first.answer .cleanup).Same (second.answer .cleanup) ∧
      first.cleanup.Alike spare second.cleanup := by
  have hosts := Watcher.cleanup_alike alike.handles alike.owns alike.twinOwns
    alike.surroundings.toAlike
  refine ⟨?_, alike.of_tends (first.tends_cleanup alike.owns)
    (second.tends_cleanup alike.twinOwns) (Watcher.works_closeHandles _ first.env)
    (Watcher.works_closeHandles _ second.env) ⟨?_, alike.handles.registration⟩
    hosts (alike.leaves.cleanup alike.owns)
    (alike.twinLeaves.cleanup alike.twinOwns)⟩
  · rw [answer, answer, Watcher.cleanup, Watcher.cleanup,
      alike.handles.count]
    exact .done _
  · intro kind
    cases kind <;> rfl

/-- A notifier that is kept is one descriptor more in both processes. -/
theorem notifier (alike : first.Alike spare second)
    (few : spare + 7 ≤ Host.tableLimit) :
    (first.answer .notifier).Same (second.answer .notifier) ∧
      ∃ more, (first.perform .notifier).Alike more
        (second.perform .notifier) := by
  obtain ⟨room, twinRoom⟩ := alike.room few
  obtain ⟨answers, hosts⟩ := Watcher.notifier_alike alike.handles alike.owns
    alike.twinOwns alike.surroundings.toAlike (by omega) (by omega)
  have larger {watcher : Watcher} {cancel : Nat} {env : Environment}
      {table : List (Option Nat)}
      (leaves : watcher.Leaves (spare + cancel) env)
      (count : ({ env.host with table } : Host).openCount =
        env.host.openCount + 1) :
      watcher.Leaves (spare + 1 + cancel)
        { env with host := { env.host with table } } := by
    rw [Watcher.Leaves] at leaves ⊢
    refine count.trans ?_
    omega
  have counted : ∃ more,
      first.watcher.Leaves (more + first.watcher.cancel.toList.length)
        (first.watcher.notifier first.env).2 ∧
      second.watcher.Leaves (more + second.watcher.cancel.toList.length)
        (second.watcher.notifier second.env).2 := by
    obtain ⟨error, failed⟩ | ⟨_, _, _, _, made, _, count, _⟩ :=
      first.watcher.notifier_made first.env <;>
    obtain ⟨twinError, twinFailed⟩ | ⟨_, _, _, _, twinMade, _, twinCount, _⟩ :=
      second.watcher.notifier_made second.env
    · rw [failed, twinFailed]
      exact ⟨spare, alike.leaves, alike.twinLeaves⟩
    · rw [failed, twinMade] at answers
      cases answers
    · rw [made, twinFailed] at answers
      cases answers
    · rw [made, twinMade]
      exact ⟨spare + 1, larger alike.leaves count,
        larger alike.twinLeaves twinCount⟩
  obtain ⟨more, leaves, twinLeaves⟩ := counted
  exact ⟨answers, more, alike.of_tends (first.tends_elapse_notifier alike.owns)
    (second.tends_elapse_notifier alike.twinOwns)
    (first.watcher.works_notifier first.env)
    (second.watcher.works_notifier second.env) alike.handles hosts leaves
    twinLeaves⟩

theorem note (alike : first.Alike spare second) (event : LogEvent) :
    (first.elapse (first.env.note event)).Alike spare
      (second.elapse (second.env.note event)) :=
  alike.of_stays (.of_eq rfl rfl rfl) (.of_eq rfl rfl rfl)
    (alike.surroundings.note event)

theorem attempt (alike : first.Alike spare second)
    (few : spare + 7 ≤ Host.tableLimit) :
    (first.watcher.attempt first.env).1.Same
        (second.watcher.attempt second.env).1 ∧
      Alike spare
        ⟨(first.watcher.attempt first.env).2.1,
          (first.watcher.attempt first.env).2.2⟩
        ⟨(second.watcher.attempt second.env).2.1,
          (second.watcher.attempt second.env).2.2⟩ := by
  obtain ⟨answers, ready⟩ := alike.setup few
  rw [answer, answer] at answers
  rw [Session.setup, Session.setup] at ready
  rw [Watcher.attempt, Watcher.attempt]
  generalize first.watcher.setup first.env = set at answers ready ⊢
  generalize second.watcher.setup second.env = twinSet at answers ready ⊢
  obtain ⟨result, watcher, env⟩ := set
  obtain ⟨twinResult, twinWatcher, twinEnv⟩ := twinSet
  obtain ⟨error, twinError, rfl, rfl, same⟩ | ⟨⟨⟩, rfl, rfl⟩ :=
    answers.of_ofExcept
  · exact ⟨.failed same, ready⟩
  obtain ⟨answers, subscribed⟩ := ready.subscribe few
  rw [answer, answer] at answers
  rw [Session.subscribe, Session.subscribe] at subscribed
  dsimp only at answers subscribed ⊢
  generalize watcher.subscribe env = enlisted at answers subscribed ⊢
  generalize twinWatcher.subscribe twinEnv = twinEnlisted
    at answers subscribed ⊢
  obtain ⟨result, watcher, env⟩ := enlisted
  obtain ⟨twinResult, twinWatcher, twinEnv⟩ := twinEnlisted
  obtain ⟨error, twinError, rfl, rfl, same⟩ | ⟨⟨⟩, rfl, rfl⟩ :=
    answers.of_ofExcept
  · exact ⟨.failed same, subscribed⟩
  · exact subscribed.watch

theorem run (alike : first.Alike spare second)
    (few : spare + 7 ≤ Host.tableLimit) :
    (first.answer .run).Same (second.answer .run) ∧
      first.run.Alike spare second.run := by
  obtain ⟨answers, attempted⟩ := alike.attempt few
  rw [answer, answer, Session.run, Session.run, Watcher.run, Watcher.run]
  generalize first.watcher.attempt first.env = tried at answers attempted ⊢
  generalize second.watcher.attempt second.env = twinTried
    at answers attempted ⊢
  obtain ⟨result, watcher, env⟩ := tried
  obtain ⟨twinResult, twinWatcher, twinEnv⟩ := twinTried
  dsimp only at answers attempted
  have count : twinWatcher.handles.count = watcher.handles.count :=
    attempted.handles.count
  have surrendered : Alike spare
      ⟨(watcher.cleanup env).2.1, (watcher.cleanup env).2.2.note
        (.released watcher.handles.count)⟩
      ⟨(twinWatcher.cleanup twinEnv).2.1, (twinWatcher.cleanup twinEnv).2.2.note
        (.released twinWatcher.handles.count)⟩ := by
    rw [count]
    exact attempted.cleanup.2.note _
  cases answers with
  | blocked => exact ⟨.blocked, attempted⟩
  | done summary => exact ⟨.done summary, surrendered⟩
  | failed same => exact ⟨.failed same, surrendered⟩

/-- Each operation has the same answer in both sessions and keeps them alike,
apart from asking for a notifier and keeping it. -/
theorem perform (alike : first.Alike spare second)
    (few : spare + 7 ≤ Host.tableLimit) {operation : Operation}
    (returned : operation ≠ .notifier) :
    (first.answer operation).Same (second.answer operation) ∧
      (first.perform operation).Alike spare (second.perform operation) := by
  cases operation with
  | setup => exact alike.setup few
  | subscribe => exact alike.subscribe few
  | watch => exact alike.watch
  | run => exact alike.run few
  | cleanup => exact alike.cleanup
  | notifier => exact absurd rfl returned

/-- What the channel has to tell may be read without a watch as well. -/
theorem read (alike : first.Alike spare second) {channel counterpart : Descriptor}
    (held : first.watcher.handles.channel = some channel)
    (twinHeld : second.watcher.handles.channel = some counterpart) :
    (Channel.read channel first.env).1.Same
        (Channel.read counterpart second.env).1 ∧
      (first.elapse (Channel.read channel first.env).2).Alike spare
        (second.elapse (Channel.read counterpart second.env).2) := by
  have same := alike.surroundings
  rw [Watcher.ears_eq held, Watcher.ears_eq twinHeld] at same
  obtain ⟨answers, taken⟩ := Channel.read_alike same
  rw [← Watcher.ears_eq held, ← Watcher.ears_eq twinHeld] at taken
  exact ⟨answers, alike.of_stays (.motions (.read channel first.env))
    (.motions (.read counterpart second.env)) taken⟩

/-- Others do the same in both surroundings, and do not fire the handle. -/
theorem act (alike : first.Alike spare second) (action : Action)
    (spared : action.fires = false) :
    (first.acted action).Alike spare (second.acted action) :=
  alike.of_stays (.act_channel first.env _ action)
    (.act_channel second.env _ action) (alike.surroundings.act action spared)

theorem plan (alike : first.Alike spare second) {schedule : Schedule}
    (spared : ∀ group ∈ schedule, ∀ action ∈ group, action.fires = false) :
    (first.elapse { first.env with schedule }).Alike spare
      (second.elapse { second.env with schedule }) :=
  alike.of_stays (.of_eq rfl rfl rfl) (.of_eq rfl rfl rfl)
    (alike.surroundings.reschedule spared)

/-- It makes no difference how a table is written down. -/
theorem renumber (alike : first.Alike spare second)
    {table twinTable : List (Option Nat)}
    (same : ∀ descriptor,
      ({ first.env.host with table } : Host).position? descriptor =
        first.env.host.position? descriptor)
    (twinSame : ∀ descriptor,
      ({ second.env.host with table := twinTable } : Host).position?
          descriptor =
        second.env.host.position? descriptor) :
    Alike spare
      (first.elapse
        { first.env with host := { first.env.host with table } })
      (second.elapse
        { second.env with
          host := { second.env.host with table := twinTable } }) :=
  alike.of_stays (.renumber same) (.renumber twinSame)
    (alike.surroundings.renumber same twinSame)

/-- Somebody notifies both channels, through a notifier for each of them that is
given up again. -/
theorem notify (alike : first.Alike spare second)
    (few : spare + 7 ≤ Host.tableLimit) (count : UInt64) :
    Answer.Same (.ofExcept (first.watcher.notify count first.env).1)
        (.ofExcept (second.watcher.notify count second.env).1) ∧
      (first.notify count).Alike spare (second.notify count) := by
  have answers := (alike.notifier few).1
  rw [answer, answer] at answers
  rw [Session.notify, Session.notify]
  obtain ⟨error, unmade, failed⟩ |
    ⟨channel, _, _, table, held, made, added, same⟩ :=
    first.watcher.notify_cases count first.env <;>
  obtain ⟨twinError, twinUnmade, twinFailed⟩ |
    ⟨counterpart, _, _, twinTable, twinHeld, twinMade, twinAdded, twinSame⟩ :=
    second.watcher.notify_cases count second.env
  · rw [unmade, twinUnmade] at answers
    rw [failed, twinFailed]
    cases answers with
    | failed error => exact ⟨.failed error, alike⟩
  · rw [unmade, twinMade] at answers
    cases answers
  · rw [made, twinUnmade] at answers
    cases answers
  · rw [added, twinAdded]
    have surroundings := alike.surroundings
    rw [Watcher.ears_eq held, Watcher.ears_eq twinHeld] at surroundings
    have acted := alike.act (.notify count) rfl
    rw [Session.acted, Session.acted, held, twinHeld] at acted
    refine ⟨?_, acted.renumber same twinSame⟩
    rw [surroundings.add_fst count]
    exact .done _

end Alike

/-! ## Two lives -/

/-- What there is before a process begins, and what is going to happen. -/
structure Backdrop where
  tree : FileTree
  storage : Storage := .ample
  schedule : Schedule := []
  duringFlush : Schedule := []
  interruptions : List Nat := []

/-- Nobody is going to fire a handle. -/
def Backdrop.IsSpared (backdrop : Backdrop) : Prop :=
  ∀ group ∈ backdrop.schedule ++ backdrop.duringFlush, ∀ action ∈ group,
    action.fires = false

instance (backdrop : Backdrop) : Decidable backdrop.IsSpared :=
  inferInstanceAs (Decidable (∀ group ∈ _, _))

/-- The surroundings of a new process. -/
def Backdrop.env (backdrop : Backdrop) (sink : Sink) : Environment where
  host :=
    { Host.fresh with tree := backdrop.tree, storage := backdrop.storage }
  sink := { sink with duringFlush := backdrop.duringFlush }
  schedule := backdrop.schedule
  interruptions := backdrop.interruptions

/-- A new process with a watcher, which has a handle that could cancel it or
has none. -/
def born (backdrop : Backdrop) (settings : Settings) (sink : Sink)
    (isGuarded : Bool) : Session :=
  if isGuarded then
    match Channel.createCancel (backdrop.env sink) with
    | (.error _, env) => { watcher := { settings }, env }
    | (.ok handle, env) =>
      { watcher := { settings, cancel := some handle }
        env := { env with canceller := some handle } }
  else { watcher := { settings }, env := backdrop.env sink }

variable {backdrop : Backdrop} {settings other : Settings} {sink drain : Sink}
  {isGuarded isTwinGuarded : Bool} {first second next twin : Session}

theorem isFresh_born (backdrop : Backdrop) (settings : Settings) (sink : Sink)
    (isGuarded : Bool) : (born backdrop settings sink isGuarded).IsFresh where
  handles := by cases isGuarded <;> rfl
  coherent := by
    have plain : Host.fresh.IsCoherent := by decide +kernel
    have guarded :
        (Host.fresh.attach { content := .counter 0 }).2.IsCoherent := by
      decide +kernel
    cases isGuarded
    · exact plain
    · exact guarded
  cancelPlaced descriptor through := by
    cases isGuarded
    · rcases through with same | same <;> cases same
    · rcases through with same | same <;> cases same <;> exact ⟨3, rfl⟩

theorem leaves_born (backdrop : Backdrop) (settings : Settings) (sink : Sink)
    (isGuarded : Bool) :
    (born backdrop settings sink isGuarded).watcher.Leaves
      (3 + (born backdrop settings sink isGuarded).watcher.cancel.toList.length)
      (born backdrop settings sink isGuarded).env := by
  cases isGuarded <;> rfl

/-- What a new process has, apart from its handle, it has from the
backdrop. -/
theorem env_born (backdrop : Backdrop) (settings : Settings) (sink : Sink)
    (isGuarded : Bool) :
    ∃ openFiles table canceller trace,
      (born backdrop settings sink isGuarded).env =
        { backdrop.env sink with
          host := { (backdrop.env sink).host with openFiles, table }
          canceller, trace } ∧
      trace.filter Step.isExchange = [] := by
  cases isGuarded
  · exact ⟨_, _, _, _, rfl, rfl⟩
  · exact ⟨_, _, _, _, rfl, rfl⟩

theorem unfired_born {handle : Descriptor}
    (held : (born backdrop settings sink isGuarded).watcher.cancel =
      some handle) :
    (born backdrop settings sink isGuarded).env.host.pending? handle =
      some 0 := by
  cases isGuarded <;> cases held
  rfl

/-- Nobody can have heard anything yet. -/
theorem calm_born (backdrop : Backdrop) (settings : Settings) {sink : Sink}
    (isGuarded : Bool) (spared : backdrop.IsSpared)
    (willing : sink.IsWilling) :
    (born backdrop settings sink isGuarded).env.Calm
      ⟨none, (born backdrop settings sink isGuarded).watcher.cancel⟩ := by
  have unfired : ∀ handle,
      (born backdrop settings sink isGuarded).watcher.cancel = some handle →
        (born backdrop settings sink isGuarded).env.host.pending? handle =
          some 0 :=
    fun handle held => unfired_born held
  obtain ⟨_, _, _, _, begun, _⟩ := env_born backdrop settings sink isGuarded
  refine .of_deaf unfired ?_ ?_ ?_ <;> rw [begun]
  · exact fun group member => spared group (List.mem_append_left _ member)
  · exact fun group member => spared group (List.mem_append_right _ member)
  · exact ⟨willing.writes, willing.flushes⟩

/-- Two new processes look the same to watchers that differ at most in the
format of their records and in the handle that could cancel them. -/
theorem alike_born (same : settings.Same other) (spared : backdrop.IsSpared)
    (willing : sink.IsWilling) (twinWilling : drain.IsWilling) :
    (born backdrop settings sink isGuarded).Alike 3
      (born backdrop other drain isTwinGuarded) := by
  have fresh := isFresh_born backdrop settings sink isGuarded
  have twinFresh := isFresh_born backdrop other drain isTwinGuarded
  have leaves := leaves_born backdrop settings sink isGuarded
  have twinLeaves := leaves_born backdrop other drain isTwinGuarded
  have deaf : (born backdrop settings sink isGuarded).watcher.handles.channel =
      none := by
    rw [fresh.handles]
  have twinDeaf :
      (born backdrop other drain isTwinGuarded).watcher.handles.channel =
        none := by
    rw [twinFresh.handles]
  have settled : (born backdrop settings sink isGuarded).watcher.settings =
      settings := by
    cases isGuarded <;> rfl
  have twinSettled : (born backdrop other drain isTwinGuarded).watcher.settings =
      other := by
    cases isTwinGuarded <;> rfl
  have calm := calm_born backdrop settings isGuarded spared willing
  have twinCalm := calm_born backdrop other isTwinGuarded spared twinWilling
  obtain ⟨openFiles, table, _, _, begun, silent⟩ :=
    env_born backdrop settings sink isGuarded
  obtain ⟨twins, twinTable, _, _, twinBegun, twinSilent⟩ :=
    env_born backdrop other drain isTwinGuarded
  refine
    { settings := by rwa [settled, twinSettled]
      handles := by
        rw [fresh.handles, twinFresh.handles]
        exact ⟨fun kind => by cases kind <;> rfl, rfl⟩
      owns := fresh.owns
      twinOwns := twinFresh.owns
      below := fun channel held => by
        rw [deaf] at held
        cases held
      twinBelow := fun channel held => by
        rw [twinDeaf] at held
        cases held
      leaves := leaves
      twinLeaves := twinLeaves
      surroundings := ?_ }
  have even : (born backdrop other drain isTwinGuarded).env.host.openCount +
        (born backdrop settings sink isGuarded).watcher.cancel.toList.length =
      (born backdrop settings sink isGuarded).env.host.openCount +
        (born backdrop other drain isTwinGuarded).watcher.cancel.toList.length
      := by
    rw [Watcher.Leaves, fresh.handles] at leaves
    rw [Watcher.Leaves, twinFresh.handles] at twinLeaves
    omega
  rw [Watcher.ears_eq deaf, Watcher.ears_eq twinDeaf]
  rw [begun] at calm even ⊢
  rw [twinBegun] at twinCalm even ⊢
  exact
    { files := ⟨.refl .same _, rfl⟩
      storage := rfl
      allowance := .unlimited
      calm := calm
      twin := twinCalm
      channel := .none
      even := even
      schedule := rfl
      interruptions := rfl
      flushes := rfl
      exchanges := by
        dsimp only [Environment.exchanges]
        rw [silent, twinSilent] }

/-- The pairs of sessions that two sessions come to by the same operations, when
others do the same to both and do not fire a handle.  Whoever asks for a
notifier uses it and gives it up. -/
inductive Courses (first second : Session) : Session → Session → Prop
  | origin : Courses first second first second
  | perform {next twin : Session} (courses : Courses first second next twin)
      (operation : Operation) (returned : operation ≠ .notifier) :
      Courses first second (next.perform operation) (twin.perform operation)
  | notify {next twin : Session} (courses : Courses first second next twin)
      (count : UInt64) :
      Courses first second (next.notify count) (twin.notify count)
  | read {next twin : Session} (courses : Courses first second next twin)
      {channel counterpart : Descriptor}
      (held : next.watcher.handles.channel = some channel)
      (twinHeld : twin.watcher.handles.channel = some counterpart) :
      Courses first second (next.elapse (Channel.read channel next.env).2)
        (twin.elapse (Channel.read counterpart twin.env).2)
  | act {next twin : Session} (courses : Courses first second next twin)
      (action : Action) (spared : action.fires = false) :
      Courses first second (next.acted action) (twin.acted action)
  | plan {next twin : Session} (courses : Courses first second next twin)
      {schedule : Schedule}
      (spared : ∀ group ∈ schedule, ∀ action ∈ group, action.fires = false) :
      Courses first second (next.elapse { next.env with schedule })
        (twin.elapse { twin.env with schedule })

/-- What two sessions have in common, up to the numbers of descriptors: the
kinds of handles held, the files, the counter behind the channel, and what was
read from it and delivered. -/
structure Agrees (first second : Session) : Prop where
  handles : first.watcher.handles.Same second.watcher.handles
  files : FileTree.SameFiles first.env.host.storage first.env.host.tree
    second.env.host.tree
  counter : ∀ channel counterpart,
    first.watcher.handles.channel = some channel →
      second.watcher.handles.channel = some counterpart →
        ∃ sum, first.env.host.pending? channel = some sum ∧
          second.env.host.pending? counterpart = some sum
  exchanges : second.env.exchanges = first.env.exchanges

theorem Alike.agrees {spare : Nat} (alike : first.Alike spare second) :
    first.Agrees second where
  handles := alike.handles
  files := alike.surroundings.files
  counter channel counterpart held twinHeld := by
    obtain ⟨sum, counted⟩ := alike.surroundings.calm.counts channel held
    refine ⟨sum, counted, ?_⟩
    have same : Host.SameChannel first.env.host second.env.host
        first.watcher.handles.channel second.watcher.handles.channel :=
      alike.surroundings.channel
    rw [held, twinHeld] at same
    cases same with
    | some file => rwa [Host.pending?, file, ← Host.pending?]
  exchanges := alike.surroundings.exchanges

namespace Courses

/-- Both processes began with three descriptors. -/
theorem few : 3 + 7 ≤ Host.tableLimit := by
  decide

theorem alike (courses : Courses first second next twin)
    (begun : first.Alike 3 second) : next.Alike 3 twin := by
  induction courses with
  | origin => exact begun
  | perform _ _ returned ih => exact (ih.perform few returned).2
  | notify _ count ih => exact (ih.notify few count).2
  | read _ held twinHeld ih => exact (ih.read held twinHeld).2
  | act _ action spared ih => exact ih.act action spared
  | plan _ spared ih => exact ih.plan spared

end Courses

/-- The backdrop of the sample. -/
def sampleBackdrop : Backdrop where
  tree := ((Environment.fresh {}).actAll none sampleActions).host.tree

/-- A new process with the sample, which can be cancelled. -/
def guardedSample : Session :=
  born sampleBackdrop { cgroup := sampleCgroup } {} true

/-- A new process with the sample that cannot be cancelled, with another format
and a sink that takes the first record in two parts. -/
def plainSample : Session :=
  born sampleBackdrop { cgroup := sampleCgroup, format := .json }
    { writes := [.accept 1] } false

/-- A session in which the channel is about to be notified twice; with the second
notification the cgroup goes away. -/
def planned (session : Session) : Session :=
  session.setup.subscribe.elapse
    { session.setup.subscribe.env with
      schedule := [[.notify 3], [.notify 2, .remove sampleCgroup]] }

end Session

end MemoryWatch
