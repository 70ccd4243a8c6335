import MemoryWatch.Proofs.Account
import MemoryWatch.Proofs.Steps

/-!
# Watches and files

While a watch waits, the groups of its schedule change the files, and while it
hands a record to its sink, the groups of the sink do.  A watch itself leaves
the files alone: it reads the channel, and everything else that happens to the
files during a watch is what one of these groups does to them.
-/

namespace MemoryWatch

open Relation

namespace Action

/-- The files after an action.  One that fails may have gone half way. -/
def onFiles (tree : FileTree) : Action → FileTree
  | makeDirectories path => (tree.makeDirectories path).2
  | writeFile path content => (tree.writeFile path content).toOption.getD tree
  | makeLink path target => (tree.makeLink path target).toOption.getD tree
  | remove path => (tree.remove path).2
  | rename path destination =>
    (tree.rename path destination).toOption.getD tree
  | notify _ | cancel | interrupt | expire | shutdown => tree
  | allowMore _ | allowNone | allowAll => tree

end Action

/-- The files with what they take of a write call, and the groups of actions
that are still to come, in the schedule and while the sink is flushed. -/
structure Scene where
  tree : FileTree
  storage : Storage
  schedule : Schedule
  flushes : Schedule

namespace Scene

/-- A group of actions happens. -/
inductive Step : Scene → Scene → Prop
  | scheduled (scene : Scene) (group : List Action) (later : Schedule)
      (next : scene.schedule = group :: later) :
      Step scene
        { scene with
          tree := group.foldl Action.onFiles scene.tree, schedule := later }
  | flushing (scene : Scene) (group : List Action) (later : Schedule)
      (next : scene.flushes = group :: later) :
      Step scene
        { scene with
          tree := group.foldl Action.onFiles scene.tree, flushes := later }

/-- Groups of actions happen, and nothing else. -/
abbrev Passes : Scene → Scene → Prop :=
  ReflTransGen Step

end Scene

namespace Sink

/-- A delivery lets the next group of actions happen, if there is one and the
record is written whole. -/
theorem deliver_flushes (sink : Sink) (bytes : List UInt8) :
    ((sink.deliver bytes).2.1 = [] ∧
        (sink.deliver bytes).2.2.duringFlush = sink.duringFlush) ∨
      ∃ group later, sink.duringFlush = group :: later ∧
        (sink.deliver bytes).2.1 = group ∧
        (sink.deliver bytes).2.2.duringFlush = later := by
  rw [deliver, writeAll]
  rcases wholeWrite sink.writes bytes with ⟨cause | _, calls⟩
  · exact Or.inl ⟨rfl, rfl⟩
  · dsimp only [flush]
    cases sink.duringFlush with
    | nil => exact Or.inl ⟨rfl, rfl⟩
    | cons group later => exact Or.inr ⟨group, later, rfl, rfl, rfl⟩

end Sink

namespace Host

/-- A write to a counter leaves the files alone. -/
theorem write_snd_of_pending? {host : Host} {descriptor : Descriptor}
    {sum : UInt64} (counted : host.pending? descriptor = some sum)
    (bytes : List UInt8) :
    ∃ openFiles, (host.write descriptor bytes).2 = { host with openFiles } := by
  obtain changed | ⟨_, _, _, file, _⟩ := host.write_snd descriptor bytes
  · exact changed
  · obtain ⟨_, counter⟩ := pending?_eq_some_iff.mp counted
    cases counter.symm.trans file

/-- A counter that is read stays one. -/
theorem counts_read {host : Host} {descriptor other : Descriptor}
    (counted : ∃ sum, host.pending? other = some sum) :
    ∃ sum, (host.read descriptor).2.pending? other = some sum := by
  obtain ⟨sum, counted⟩ := counted
  have touches := host.touches_read descriptor
  by_cases same : host.position? descriptor = host.position? other
  · have stays : (host.read descriptor).2.position? descriptor =
        (host.read descriptor).2.position? other := by
      rw [touches.position?, touches.position?, same]
    rw [← pending?_congr same] at counted
    rw [← pending?_congr stays]
    by_cases empty : sum = 0
    · rw [empty] at counted
      obtain ⟨unchanged, _⟩ := read_of_pending_zero counted
      exact ⟨0, (congrArg (pending? · descriptor) unchanged).trans counted⟩
    · exact ⟨0, (read_of_pending_ne_zero counted empty).2⟩
  · exact ⟨sum, (touches.pending?_of_ne same).trans counted⟩

end Host

namespace Environment

/-- The scene of some surroundings. -/
def scene (env : Environment) : Scene where
  tree := env.host.tree
  storage := env.host.storage
  schedule := env.schedule
  flushes := env.sink.duringFlush

/-- The channel is an event counter, and so is the handle with which others can
cancel the watch. -/
structure Counts (channel : Descriptor) (env : Environment) : Prop where
  channel : ∃ sum, env.host.pending? channel = some sum
  canceller : ∀ handle, env.canceller = some handle →
    ∃ sum, env.host.pending? handle = some sum

variable {channel : Descriptor} {env after : Environment}

theorem Counts.motion (counts : Counts channel env)
    (motion : Motion channel env after) : Counts channel after := by
  refine ⟨motion.counts counts.channel, ?_⟩
  intro handle cancels
  cases motion with
  | act action =>
      obtain ⟨_, _, _, acted⟩ := env.act_eq channel action
      rw [acted] at cancels
      obtain ⟨sum, counted⟩ := counts.canceller handle cancels
      obtain ⟨more, now, _⟩ := env.raises_act channel action handle sum counted
      exact ⟨more, now⟩
  | read => exact Host.counts_read (counts.canceller handle cancels)
  | tell step idle => exact counts.canceller handle cancels
  | turn _ host canceller trace =>
      rw [host]
      exact counts.canceller handle (canceller.symm.trans cancels)

theorem Counts.motions (counts : Counts channel env)
    (moved : Motions channel env after) : Counts channel after := by
  induction moved with
  | refl => exact counts
  | tail _ motion ih => exact ih.motion motion

theorem scene_edit (env : Environment)
    (change : FileTree → Except SystemError FileTree) :
    (env.edit change).2.scene =
      { env.scene with
        tree := (change env.host.tree).toOption.getD env.host.tree } := by
  rw [edit]
  cases change env.host.tree <;> rfl

/-- What others do to the files does not depend on anything else. -/
theorem scene_act (counts : Counts channel env) (action : Action) :
    (env.act (some channel) action).2.scene =
      { env.scene with tree := action.onFiles env.host.tree } := by
  have fired : ∀ handle, env.canceller = some handle → ∀ log,
      ({ env with log }.fire handle).2.scene = env.scene := by
    intro handle cancels log
    obtain ⟨sum, counted⟩ := counts.canceller handle cancels
    obtain ⟨openFiles, written⟩ :=
      Host.write_snd_of_pending? counted (Counter.toBytes 1)
    rw [fire_snd]
    dsimp only
    rw [written]
    rfl
  cases action with
  | makeDirectories path | remove path => rfl
  | writeFile path content | makeLink path target | rename path target =>
      exact env.scene_edit _
  | notify count =>
      obtain ⟨sum, counted⟩ := counts.channel
      obtain ⟨openFiles, written⟩ :=
        Host.write_snd_of_pending? counted (Counter.toBytes count)
      change (env.add channel count).2.scene = env.scene
      rw [add_snd, written]
      rfl
  | cancel =>
      rw [act]
      split
      · rfl
      · next handle cancels => exact fired handle cancels env.log
  | interrupt | expire => rfl
  | shutdown =>
      rw [act]
      split
      · rfl
      · next handle cancels =>
          split
          · rfl
          · exact fired handle cancels _
  | allowMore descriptors | allowNone | allowAll => rfl

theorem scene_actAll (counts : Counts channel env) (actions : List Action) :
    (env.actAll (some channel) actions).scene =
      { env.scene with
        tree := actions.foldl Action.onFiles env.host.tree } := by
  induction actions generalizing env with
  | nil => rfl
  | cons action rest ih =>
      have acted := scene_act counts action
      have next := ih (counts.motion (.act env action))
      rw [acted] at next
      rw [actAll, List.foldl_cons, ← actAll, next,
        show (env.act (some channel) action).2.host.tree =
          action.onFiles env.host.tree from congrArg Scene.tree acted]
      rfl

end Environment

/-! ## A watch and the files -/

namespace Scene

open Environment (Counts)

variable {channel : Descriptor} {env : Environment}

theorem scene_happen (counts : Counts channel env) (group : List Action)
    (later : Schedule) :
    (Channel.happen channel group later env).scene =
      { env.scene with
        tree := group.foldl Action.onFiles env.host.tree
        schedule := later } := by
  have begun : Counts channel { env with schedule := later } :=
    ⟨counts.channel, counts.canceller⟩
  have acted := Environment.scene_actAll begun group
  rw [Channel.happen]
  split <;> exact acted

theorem passes_elapse (counts : Counts channel env) (count : Nat) :
    Passes env.scene (Channel.elapse channel count env).scene := by
  induction count generalizing env with
  | zero => exact .refl
  | succ count ih =>
      rw [Channel.elapse]
      split
      · exact .refl
      · next group later scheduled =>
          have happened : Step env.scene
              (Channel.happen channel group later env).scene := by
            rw [scene_happen counts]
            exact .scheduled env.scene group later scheduled
          exact .head happened
            (ih (counts.motions (.happen channel group later env)))

theorem passes_wait (counts : Counts channel env)
    (cancel : Option Descriptor) (timeout : Option Duration) :
    Passes env.scene (Channel.wait channel cancel timeout env).2.scene := by
  obtain ⟨count, heard⟩ := Channel.listen_snd channel cancel
    (timeout.map Duration.waitMilliseconds) env
  have passed := passes_elapse counts count
  rw [← heard] at passed
  exact passed

theorem scene_read (channel : Descriptor) (env : Environment) :
    (Channel.read channel env).2.scene = env.scene := by
  rcases taken : Channel.read channel env with ⟨answer, after⟩
  obtain ⟨trace, rfl⟩ := Channel.after_read taken
  obtain ⟨openFiles, read⟩ := env.host.read_snd channel
  dsimp only
  rw [read]
  rfl

theorem passes_deliver (counts : Counts channel env) (bytes : List UInt8) :
    Passes env.scene (env.deliver (some channel) bytes).2.scene := by
  have flushed : Counts channel
      { env with sink := (env.sink.deliver bytes).2.2 } :=
    ⟨counts.channel, counts.canceller⟩
  have acted := Environment.scene_actAll flushed (env.sink.deliver bytes).2.1
  rw [Environment.deliver]
  dsimp only
  rw [acted]
  change Passes env.scene
    { env.scene with
      tree := (env.sink.deliver bytes).2.1.foldl Action.onFiles env.scene.tree
      flushes := (env.sink.deliver bytes).2.2.duringFlush }
  obtain ⟨idle, kept⟩ | ⟨group, later, next, flushed, rest⟩ :=
    env.sink.deliver_flushes bytes
  · rw [idle, kept]
    exact .refl
  · rw [flushed, rest]
    exact .single (.flushing env.scene group later next)

theorem scene_probe (env : Environment) (cgroup : Path) :
    (env.probe cgroup).2.scene = env.scene := by
  rw [Environment.probe]
  split <;> rfl

section Watching

variable {watcher : Watcher} {notifications : Nat}

theorem scene_afterProbe (watcher : Watcher) (notifications : Nat)
    (env : Environment) :
    (watcher.afterProbe notifications env).surroundings.scene = env.scene := by
  have probed := scene_probe env watcher.settings.cgroup
  obtain ⟨_, result⟩ | ⟨_, result⟩ :=
    watcher.afterProbe_cases notifications env <;>
    (rw [result]; exact probed)

theorem passes_reporting {waited after delivered : Environment}
    {counter : UInt64} {outcome : Except SystemError Unit}
    (counts : Counts channel env)
    (wait : Channel.wait channel watcher.cancel
      watcher.settings.probeInterval env = (.done .notified, waited))
    (read : Channel.read channel waited = (.done counter, after))
    (deliver :
      (after.note (.notified watcher.settings.cgroup counter)).deliver
        (some channel) (Record.encode watcher.settings.format
          watcher.settings.cgroup counter) = (outcome, delivered)) :
    Passes env.scene (delivered.record (.delivered counter outcome)).scene := by
  have waiting := passes_wait counts watcher.cancel
    watcher.settings.probeInterval
  have awake := counts.motions (.wait channel watcher.cancel
    watcher.settings.probeInterval env)
  rw [wait] at waiting awake
  have same := scene_read channel waited
  have ready := awake.motions (.read channel waited)
  rw [read] at same ready
  have told : Counts channel
      (after.note (.notified watcher.settings.cgroup counter)) :=
    ⟨ready.channel, ready.canceller⟩
  have delivering := passes_deliver told
    (Record.encode watcher.settings.format watcher.settings.cgroup counter)
  rw [deliver] at delivering
  rw [← same] at waiting
  exact waiting.trans delivering

/-- In a round nothing happens to the files but what others do. -/
theorem passes_round (counts : Counts channel env) (watcher : Watcher)
    (notifications : Nat) :
    Passes env.scene
      (watcher.round channel notifications env).surroundings.scene := by
  have waiting := passes_wait counts watcher.cancel
    watcher.settings.probeInterval
  have turn := watcher.turn_round channel notifications env
  generalize watcher.round channel notifications env = result at turn
  cases turn with
  | waitBlocked wait | waitFailed wait | cancelled wait =>
      rw [wait] at waiting
      exact waiting
  | timedOut wait =>
      rw [wait] at waiting
      rw [scene_afterProbe]
      exact waiting
  | @readBlocked waited _ wait read | @readFailed waited _ _ wait read =>
      have same := scene_read channel waited
      rw [wait, ← same, read] at waiting
      exact waiting
  | refused wait read deliver => exact passes_reporting counts wait read deliver
  | reported wait read deliver =>
      rw [scene_afterProbe]
      exact passes_reporting counts wait read deliver

theorem passes_arrives {start : Environment} (counts : Counts channel start)
    (arrived : watcher.Arrives channel start notifications env) :
    Passes start.scene env.scene := by
  induction arrived with
  | first => exact .refl
  | @next notifications _ env _ arrived result ih =>
      have further := passes_round (counts.motions (.arrives arrived)) watcher
        notifications
      rw [result] at further
      exact ih.trans further

/-- A watch leaves the files to others. -/
theorem passes_watch (counts : ∀ channel, watcher.watched? = some channel →
      Counts channel env) :
    Passes env.scene (watcher.watch env).2.scene := by
  cases watched : watcher.watched? with
  | none =>
      obtain ⟨fault, refused⟩ := Watcher.watch_of_not_watched? watched env
      rw [refused]
  | some channel =>
      have begun : Counts channel env :=
        ⟨(counts channel watched).channel, (counts channel watched).canceller⟩
      change Passes env.scene _
      obtain ⟨count, before, arrived, result⟩ | ⟨_, count, arrived⟩ :=
        watcher.watch_cases watched env
      · have last := passes_round (begun.motions (.arrives arrived)) watcher
          count
        rw [result] at last
        exact (passes_arrives begun arrived).trans last
      · exact passes_arrives begun arrived

end Watching

end Scene

end MemoryWatch
