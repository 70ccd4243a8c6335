import MemoryWatch.Proofs.Ancestry
import MemoryWatch.Proofs.Handshake
import MemoryWatch.Proofs.Machine
import MemoryWatch.Proofs.Patience

/-!
# A cgroup that stays is not missed

A watch takes it that its cgroup is gone when the path of the cgroup cannot be
looked up any more.  A subscription looks up two longer paths.  If it has found
the control files below the cgroup, and nobody makes, takes away or renames
anything after that, every probe finds the cgroup, so that no watch ends because
it was removed.
-/

namespace MemoryWatch

/-- An action that changes at most what files contain, as long as the rest of
the tree is as it was. -/
def Action.Leaves (tree : FileTree) (action : Action) : Prop :=
  ∀ now, tree.Alike anyContent now →
    tree.Alike anyContent (action.onFiles now)

/-- Whether an action leaves all files alone. -/
def Action.isQuiet : Action → Bool
  | notify _ | cancel | interrupt | expire | shutdown | allowMore _ | allowNone
  | allowAll => true
  | makeDirectories _ | writeFile _ _ | makeLink _ _ | remove _ | rename _ _ =>
    false

theorem Action.leaves_of_isQuiet {action : Action}
    (quiet : action.isQuiet = true) (tree : FileTree) :
    action.Leaves tree := by
  cases action with
  | notify | cancel | interrupt | expire | shutdown | allowMore | allowNone
  | allowAll =>
      exact fun _ alike => alike
  | makeDirectories | writeFile | makeLink | remove | rename => cases quiet

/-- A scene in which the tree is as it was, apart from what its files contain,
and goes on to be so whatever is planned. -/
structure Scene.Still (tree : FileTree) (scene : Scene) : Prop where
  files : tree.Alike anyContent scene.tree
  schedule : ∀ group ∈ scene.schedule, ∀ action ∈ group, action.Leaves tree
  flushes : ∀ group ∈ scene.flushes, ∀ action ∈ group, action.Leaves tree

namespace FileTree

variable {tree now : FileTree}

theorem Alike.overwrite_right (alike : tree.Alike anyContent now)
    (location : Location) (bytes : List UInt8) :
    tree.Alike anyContent (now.overwrite location bytes) := by
  have altered := Node.Alike.alter (Node.alike_overwritten bytes) location
    _ _ alike.root
  dsimp only at altered
  rw [Node.alter_id] at altered
  rw [overwrite_eq]
  exact ⟨altered, alike.workingDirectory⟩

/-- A write call through any descriptor changes at most what a file
contains. -/
theorem Alike.write_right {host : Host} (alike : tree.Alike anyContent host.tree)
    (descriptor : Descriptor) (bytes : List UInt8) :
    tree.Alike anyContent (host.write descriptor bytes).2.tree := by
  obtain ⟨_, written⟩ | ⟨_, _, _, _, _, _, written⟩ :=
    host.write_snd descriptor bytes
  · rwa [written]
  · rw [written]
    exact alike.overwrite_right _ _

theorem Alike.found {path : Path} {visit : Visit}
    (alike : tree.Alike anyContent now)
    (resolved : tree.resolve path = .ok visit)
    (directory : visit.node.isDirectory = true) :
    ∃ there, now.resolve path = .ok there ∧
      there.node.isDirectory = true := by
  have matched := alike_resolve alike path
  rw [resolved] at matched
  generalize now.resolve path = result at matched
  cases matched with
  | ok near => exact ⟨_, rfl, near.node.isDirectory.trans directory⟩

end FileTree

namespace Environment

variable {tree : FileTree} {env : Environment} {channel : Descriptor}

/-- No probe was in vain between two surroundings. -/
abbrev Finds (before after : Environment) : Prop :=
  Continues (fun step => step ≠ .probed false) before after

theorem Finds.of_handling {before after : Environment}
    (continues : Continues (fun step => step.isHandling = true) before
      after) : Finds before after :=
  continues.mono fun step handling absent => by
    rw [absent] at handling
    cases handling

/-! ## What others do -/

theorem alike_act (alike : tree.Alike anyContent env.host.tree)
    {action : Action} (leaves : action.Leaves tree) :
    tree.Alike anyContent (env.act (some channel) action).2.host.tree := by
  have fired (handle : Descriptor) (log : List LogEvent) :
      tree.Alike anyContent ({ env with log }.fire handle).2.host.tree := by
    rw [fire_snd]
    exact alike.write_right _ _
  have edited (change : FileTree → Except SystemError FileTree) :
      (env.edit change).2.host.tree =
        (change env.host.tree).toOption.getD env.host.tree :=
    congrArg Scene.tree (env.scene_edit change)
  have left := leaves _ alike
  cases action with
  | makeDirectories path | remove path => exact left
  | writeFile path content | makeLink path target | rename path target =>
      change tree.Alike anyContent (env.edit _).2.host.tree
      rw [edited]
      exact left
  | notify count =>
      change tree.Alike anyContent (env.add channel count).2.host.tree
      rw [add_snd]
      exact alike.write_right _ _
  | cancel =>
      rw [act]
      split
      · exact alike
      · next handle _ => exact fired handle env.log
  | shutdown =>
      rw [act]
      split
      · exact alike
      · next handle _ =>
          split
          · exact alike
          · exact fired handle _
  | interrupt | expire | allowMore descriptors | allowNone | allowAll =>
      exact alike

theorem alike_actAll (channel : Descriptor)
    (alike : tree.Alike anyContent env.host.tree) {actions : List Action}
    (leave : ∀ action ∈ actions, action.Leaves tree) :
    tree.Alike anyContent (env.actAll (some channel) actions).host.tree := by
  induction actions generalizing env with
  | nil => exact alike
  | cons action rest ih =>
      rw [actAll, List.foldl_cons, ← actAll]
      exact ih (alike_act alike (leave action (by simp)))
        fun later member => leave later (by simp [member])

/-! ## What a watch does -/

theorem still_happen {group : List Action} {later : Schedule}
    (still : env.scene.Still tree) (next : env.schedule = group :: later) :
    (Channel.happen channel group later env).scene.Still tree := by
  have leave : ∀ action ∈ group, action.Leaves tree :=
    still.schedule group (by rw [scene, next]; simp)
  have begun : tree.Alike anyContent
      { env with schedule := later }.host.tree := still.files
  have alike := alike_actAll channel begun leave
  obtain ⟨host, log, trace, acted⟩ :=
    actAll_eq { env with schedule := later } channel group
  have rest : ∀ group ∈ later, ∀ action ∈ group, action.Leaves tree :=
    fun other member => still.schedule other (by rw [scene, next]; simp [member])
  rw [acted] at alike
  rw [Channel.happen, acted]
  split <;> exact ⟨alike, rest, still.flushes⟩

theorem still_elapse (channel : Descriptor) (still : env.scene.Still tree)
    (count : Nat) :
    (Channel.elapse channel count env).scene.Still tree := by
  induction count generalizing env with
  | zero => exact still
  | succ count ih =>
      rw [Channel.elapse]
      split
      · exact still
      · next next => exact ih (still_happen still next)

theorem still_wait (channel : Descriptor) (still : env.scene.Still tree)
    (cancel : Option Descriptor) (timeout : Option Duration) :
    (Channel.wait channel cancel timeout env).2.scene.Still tree := by
  obtain ⟨count, heard⟩ := Channel.listen_snd channel cancel
    (timeout.map Duration.waitMilliseconds) env
  have passed := still_elapse channel still count
  rw [← heard] at passed
  exact passed

theorem still_deliver (channel : Descriptor) (still : env.scene.Still tree)
    (bytes : List UInt8) :
    (env.deliver (some channel) bytes).2.scene.Still tree := by
  obtain ⟨host, log, trace, acted⟩ :=
    actAll_eq { env with sink := (env.sink.deliver bytes).2.2 } channel
      (env.sink.deliver bytes).2.1
  have alike (leave : ∀ action ∈ (env.sink.deliver bytes).2.1,
      action.Leaves tree) : tree.Alike anyContent host.tree := by
    have begun : tree.Alike anyContent
        { env with sink := (env.sink.deliver bytes).2.2 }.host.tree :=
      still.files
    have after := alike_actAll channel begun leave
    rwa [acted] at after
  rw [Environment.deliver]
  dsimp only
  rw [acted]
  obtain ⟨idle, kept⟩ | ⟨group, later, next, flushed, rest⟩ :=
    env.sink.deliver_flushes bytes
  · rw [idle] at alike
    refine ⟨alike (by simp), still.schedule, ?_⟩
    rw [scene, kept]
    exact still.flushes
  · rw [flushed] at alike
    refine ⟨alike (still.flushes group (by rw [scene, next]; simp)),
      still.schedule, ?_⟩
    rw [scene, rest]
    exact fun other member =>
      still.flushes other (by rw [scene, next]; simp [member])

end Environment

/-! ## Rounds -/

/-- A round that leaves a still scene and does not end with the cgroup. -/
structure Round.Stays (tree : FileTree) (round : Round) : Prop where
  still : round.surroundings.scene.Still tree
  present : ∀ count after,
    round ≠ .ended (.done ⟨.cgroupRemoved, count⟩) after

namespace Watcher

section Watching

variable {watcher : Watcher} {tree : FileTree} {env : Environment}
  {channel : Descriptor} {above : FileTree.Visit}
  (found : tree.resolve watcher.settings.cgroup = .ok above)
  (directory : above.node.isDirectory = true)

include found directory

theorem probe_of_still (still : env.scene.Still tree) :
    (env.probe watcher.settings.cgroup).1 = true := by
  obtain ⟨there, resolved, _⟩ := still.files.found found directory
  rw [probe_fst]
  change (env.scene.tree.resolve watcher.settings.cgroup).isOk = true
  rw [resolved]
  rfl

theorem stays_afterProbe (still : env.scene.Still tree)
    (notifications : Nat) :
    (watcher.afterProbe notifications env).Stays tree := by
  have present := probe_of_still found directory still
  have scene := Scene.scene_probe env watcher.settings.cgroup
  obtain ⟨_, result⟩ | ⟨absent, _⟩ :=
    watcher.afterProbe_cases notifications env
  · rw [result]
    refine ⟨?_, by simp⟩
    rw [Round.surroundings, scene]
    exact still
  · rw [present] at absent
    cases absent

omit found directory in
theorem still_reporting {waited after delivered : Environment}
    {counter : UInt64} {outcome : Except SystemError Unit}
    (still : waited.scene.Still tree)
    (read : Channel.read channel waited = (.done counter, after))
    (deliver :
      (after.note (.notified watcher.settings.cgroup counter)).deliver
        (some channel) (Record.encode watcher.settings.format
          watcher.settings.cgroup counter) = (outcome, delivered)) :
    (delivered.record (.delivered counter outcome)).scene.Still tree := by
  have same := Scene.scene_read channel waited
  rw [read] at same
  have told : (after.note
      (.notified watcher.settings.cgroup counter)).scene.Still tree := by
    change after.scene.Still tree
    rwa [same]
  have handed := Environment.still_deliver channel told
    (Record.encode watcher.settings.format watcher.settings.cgroup counter)
  rwa [deliver] at handed

/-- A round in a still scene leaves it still and finds the cgroup. -/
theorem stays_round (still : env.scene.Still tree) (channel : Descriptor)
    (notifications : Nat) :
    (watcher.round channel notifications env).Stays tree := by
  have waiting := Environment.still_wait channel still watcher.cancel
    watcher.settings.probeInterval
  have turn := watcher.turn_round channel notifications env
  generalize watcher.round channel notifications env = result at turn
  cases turn with
  | waitBlocked wait | waitFailed wait | cancelled wait =>
      rw [wait] at waiting
      exact ⟨waiting, by simp⟩
  | timedOut wait =>
      rw [wait] at waiting
      exact stays_afterProbe found directory waiting notifications
  | @readBlocked waited _ wait read | @readFailed waited _ _ wait read =>
      have same := Scene.scene_read channel waited
      rw [wait, ← same, read] at waiting
      exact ⟨waiting, by simp⟩
  | refused wait read deliver =>
      rw [wait] at waiting
      exact ⟨still_reporting waiting read deliver, by simp⟩
  | reported wait read deliver =>
      rw [wait] at waiting
      exact stays_afterProbe found directory
        (still_reporting waiting read deliver) _

theorem still_arrives {start : Environment} {notifications : Nat}
    (still : start.scene.Still tree)
    (arrived : watcher.Arrives channel start notifications env) :
    env.scene.Still tree := by
  induction arrived with
  | first => exact still
  | @next notifications _ env _ _ result ih =>
      have stays := (stays_round found directory ih channel notifications).still
      rwa [result] at stays

/-- A watch in a still scene leaves it still and does not end with the
cgroup. -/
theorem still_watch (still : env.scene.Still tree) :
    (watcher.watch env).2.scene.Still tree ∧
      ∀ count, (watcher.watch env).1 ≠ .done ⟨.cgroupRemoved, count⟩ := by
  cases watched : watcher.watched? with
  | none =>
      obtain ⟨fault, refused⟩ := watch_of_not_watched? watched env
      rw [refused]
      exact ⟨still, by simp⟩
  | some channel =>
      obtain ⟨count, before, arrived, result⟩ | ⟨blocked, count, arrived⟩ :=
        watcher.watch_cases watched env
      · have stays := stays_round found directory
          (still_arrives found directory still arrived) channel count
        rw [result] at stays
        refine ⟨stays.still, fun number removed => ?_⟩
        rw [removed] at stays
        exact stays.present _ _ rfl
      · exact ⟨still_arrives found directory still arrived,
          by simp [blocked]⟩

end Watching

/-- A watch that does not end with the cgroup finds it at every probe. -/
theorem finds_watch {watcher : Watcher} {env : Environment}
    (present : ∀ count,
      (watcher.watch env).1 ≠ .done ⟨.cgroupRemoved, count⟩) :
    Environment.Finds env (watcher.watch env).2 := by
  cases watched : watcher.watched? with
  | none =>
      obtain ⟨fault, refused⟩ := watch_of_not_watched? watched env
      rw [refused]
      exact .of_eq rfl
  | some channel =>
      obtain ⟨more, shown, _⟩ := (Motions.watch watched env).continues
      refine ⟨more, shown, ?_⟩
      rintro _ member rfl
      have outward : (watcher.watch env).2.outward =
          env.outward ++ more.filter Step.isOutward := by
        rw [Environment.outward, shown, List.filter_append]
        rfl
      have absent : false ∈ Step.findings (more.filter Step.isOutward) :=
        List.mem_filterMap.mpr
          ⟨.probed false, List.mem_filter.mpr ⟨member, rfl⟩, rfl⟩
      obtain ⟨_, earlier, final, split, rounds, last⟩ |
        ⟨_, _, earlier, split, rounds⟩ := outward_watch watched env
      · rw [outward, List.append_assoc] at split
        rw [List.append_cancel_left split, Step.findings_append,
          List.mem_append] at absent
        obtain ⟨_, removed⟩ | ⟨none, _⟩ := last.findings_cases
        · obtain ⟨count, ended⟩ := removed
          exact present count ended
        · rw [none] at absent
          rcases absent with early | late
          · cases rounds.findings false early
          · cases late
      · rw [outward] at split
        rw [List.append_cancel_left split] at absent
        cases rounds.findings false absent

/-! ## The other operations -/

variable {watcher next : Watcher} {env after : Environment}

theorem finds_setup (watcher : Watcher) (env : Environment) :
    Environment.Finds env (watcher.setup env).2.2 := by
  refine .of_handling ?_
  rw [setup]
  split
  · exact .of_eq rfl
  · rw [Channel.create, Environment.create]
    rcases env.host.create (.counter 0) with ⟨cause | channel, host⟩
    · exact .of_eq rfl
    · exact .single rfl rfl

theorem finds_cleanup (watcher : Watcher) (env : Environment) :
    Environment.Finds env (watcher.cleanup env).2.2 :=
  .of_handling ((watcher.continues_cleanup env).mono
    Step.isHandling_of_isTurnover)

theorem finds_notifier (watcher : Watcher) (env : Environment) :
    Environment.Finds env (watcher.notifier env).2 := by
  obtain same | ⟨channel, _, made⟩ := watcher.notifier_cases env
  · exact .of_eq (by rw [same])
  · exact .of_eq (by rw [made]; rfl)

/-- A subscription changes the files by its write call, if it comes to it. -/
theorem Subscribing.alike {result : Except WatchError Unit} {tree : FileTree}
    (subscribing : Subscribing watcher env result next after)
    (alike : tree.Alike anyContent env.host.tree) :
    tree.Alike anyContent after.host.tree := by
  have written {channel control oomControl : Descriptor}
      {ready done : Environment} {bytes : List UInt8}
      {answer : Answer SystemError Nat}
      (controls : watcher.OpensControls env channel control oomControl ready)
      (writes : Registration.Writes control bytes answer ready done) :
      tree.Alike anyContent done.host.tree := by
    have same : ready.host.tree = env.host.tree :=
      congrArg Scene.tree controls.scene
    rw [writes.host]
    rw [← same] at alike
    exact alike.write_right _ _
  cases subscribing with
  | refused fault | noEventControl cause unmarked => exact alike
  | @noOomControl control opened cause unmarked open_ held =>
      have scene := env.scene_openPath
        (Cgroup.eventControl watcher.settings.cgroup) .writing
      rw [open_] at scene
      have same : (opened.closeHeld watcher.handles.eventControl).host.tree =
          env.host.tree :=
        congrArg Scene.tree ((opened.scene_closeHeld _).trans scene)
      rwa [same]
  | unwritten error controls unnamed =>
      have same : after.host.tree = env.host.tree :=
        congrArg Scene.tree controls.scene
      rwa [same]
  | rejected controls named writes strict incomplete =>
      exact written controls writes
  | accepted event controls named writes passed =>
      have registered := written controls writes
      exact registered

theorem Subscribing.finds {result : Except WatchError Unit}
    (subscribing : Subscribing watcher env result next after) :
    Environment.Finds env after := by
  have opens {from_ opened : Environment} {path : Path} {access : Access}
      {made : Descriptor}
      (open_ : from_.openPath path access = (.ok made, opened))
      (held : Option Descriptor) :
      Environment.Finds from_ (opened.closeHeld held) := by
    obtain ⟨_, _, _, _, _, rest⟩ := Environment.attach_of_openPath open_
    have made : Environment.Finds from_ opened := by
      rw [rest]
      exact .single rfl (by simp)
    exact made.trans (Environment.Finds.of_handling ((opened.continues_closeHeld held).mono
      Step.isHandling_of_isTurnover))
  have ready {channel control oomControl : Descriptor} {ready : Environment}
      (controls :
        watcher.OpensControls env channel control oomControl ready) :
      Environment.Finds env ready := by
    obtain ⟨first, second, opened, further, rfl⟩ := controls.opened
    exact (opens opened _).trans (opens further _)
  cases subscribing with
  | refused fault | noEventControl cause unmarked => exact .of_eq rfl
  | noOomControl cause unmarked open_ held => exact opens open_ _
  | unwritten error controls unnamed => exact ready controls
  | rejected controls named writes strict incomplete =>
      exact (ready controls).trans (.single writes.trace (by simp))
  | accepted event controls named writes passed =>
      have registered := (ready controls).trans
        (.single writes.trace (by simp))
      exact registered.trans (Environment.Finds.of_handling (.single rfl rfl))

/-- Others leave the tree as it was, apart from what its files contain, and plan
nothing that would change more. -/
structure LeavesTree (tree : FileTree) (_ : Watcher)
    (before after : Environment) : Prop where
  still : after.scene.Still tree
  finds : Environment.Finds before after

end Watcher

namespace Session

/-- A watcher whose cgroup is there, in a scene that is still, when no probe was
in vain since the start. -/
structure Settled (tree : FileTree) (settings : Settings)
    (start : Environment) (session : Session) : Prop where
  configured : session.watcher.settings = settings
  still : session.env.scene.Still tree
  finds : Environment.Finds start session.env

/-- The cgroup is there, and neither a probe nor a watch finds it gone. -/
structure Present (session : Session) : Prop where
  found : ∃ visit,
    session.env.host.tree.resolve session.watcher.settings.cgroup =
        .ok visit ∧
      visit.node.isDirectory = true
  probe : (session.env.probe session.watcher.settings.cgroup).1 = true
  watch : ∀ count, (session.watcher.watch session.env).1 ≠
    .done ⟨.cgroupRemoved, count⟩
  run : ∀ count, (session.watcher.run session.env).1 ≠
    .done ⟨.cgroupRemoved, count⟩

namespace Settled

variable {tree : FileTree} {settings : Settings} {start : Environment}
  {session : Session} {above : FileTree.Visit}

theorem goesOn (settled : Settled tree settings start session)
    {next : Session} (configured : next.watcher.settings =
      session.watcher.settings)
    (scene : next.env.scene = session.env.scene)
    (finds : Environment.Finds session.env next.env) :
    Settled tree settings start next where
  configured := configured.trans settled.configured
  still := by
    rw [scene]
    exact settled.still
  finds := settled.finds.trans finds

theorem setup (settled : Settled tree settings start session) :
    Settled tree settings start session.setup :=
  settled.goesOn (session.watcher.settings_setup session.env)
    (session.watcher.scene_setup session.env)
    (session.watcher.finds_setup session.env)

theorem subscribe (settled : Settled tree settings start session) :
    Settled tree settings start session.subscribe := by
  have subscribing := session.watcher.subscribing_subscribe session.env
  have works := session.watcher.works_subscribe session.env
  refine ⟨(session.watcher.settings_subscribe session.env).trans
    settled.configured, ⟨subscribing.alike settled.still.files, ?_, ?_⟩,
    settled.finds.trans subscribing.finds⟩
  · rw [Session.subscribe, Environment.scene, works.schedule]
    exact settled.still.schedule
  · rw [Session.subscribe, Environment.scene, works.sink]
    exact settled.still.flushes

variable (found : tree.resolve settings.cgroup = .ok above)
  (directory : above.node.isDirectory = true)

include found directory

theorem watch (settled : Settled tree settings start session) :
    Settled tree settings start session.watch ∧
      ∀ count, (session.watcher.watch session.env).1 ≠
        .done ⟨.cgroupRemoved, count⟩ := by
  rw [← settled.configured] at found
  obtain ⟨still, present⟩ :=
    Watcher.still_watch found directory settled.still
  exact ⟨⟨settled.configured, still,
    settled.finds.trans (Watcher.finds_watch present)⟩, present⟩

/-- Every operation leaves the scene still and looks for the cgroup with
success. -/
theorem kept :
    Kept (Watcher.LeavesTree tree) (Settled tree settings start) where
  setup _ settled := settled.setup
  subscribe _ settled := settled.subscribe
  watch _ settled := (watch found directory settled).1
  cleanup session settled :=
    settled.goesOn rfl
      (Watcher.scene_closeHandles session.watcher.handles.held session.env)
      (session.watcher.finds_cleanup session.env)
  notifier session settled :=
    settled.goesOn rfl (session.watcher.scene_notifier session.env)
      (session.watcher.finds_notifier session.env)
  note _ _ settled := settled.goesOn rfl rfl (.of_eq rfl)
  outside _ _ settled leaves :=
    ⟨settled.configured, leaves.still, settled.finds.trans leaves.finds⟩

theorem present (settled : Settled tree settings start session) :
    session.Present := by
  have here := found
  rw [← settled.configured] at here
  constructor
  case found => exact settled.still.files.found here directory
  case probe => exact Watcher.probe_of_still here directory settled.still
  case watch => exact (watch found directory settled).2
  case run =>
    intro count removed
    obtain ⟨hand, called, _⟩ := Watcher.oneByOne_run session
    generalize (session.watcher.run session.env).1 = answer
      at called removed
    cases called with
    | notSetUp failed | notSubscribed ready failed => cases removed
    | watched ready subscribed =>
        have watching := settled.setup.subscribe
        exact (watch found directory watching).2 count removed

end Settled

end Session

/-- A subscription that succeeds has found the cgroup, if the settings are
usable. -/
theorem Watcher.found_of_subscribe {watcher : Watcher} {env : Environment}
    (usable : watcher.settings.validate = .ok ())
    (subscribed : (watcher.subscribe env).1 = .ok ()) :
    ∃ above, env.host.tree.resolve watcher.settings.cgroup = .ok above ∧
      above.node.isDirectory = true := by
  have nonempty : watcher.settings.cgroup.isEmpty = false := by
    rw [Settings.validate] at usable
    by_contra empty
    rw [Bool.not_eq_false] at empty
    simp [empty] at usable
  have subscribing := watcher.subscribing_subscribe env
  rw [subscribed] at subscribing
  generalize (watcher.subscribe env).2.1 = next,
    (watcher.subscribe env).2.2 = after at subscribing
  cases subscribing with
  | accepted event controls named writes passed =>
      obtain ⟨first, _, opened, _⟩ := controls.opened
      obtain ⟨visit, _, resolved, _⟩ := Environment.attach_of_openPath opened
      have isName : FileTree.IsName
          (Utf8.ofString Cgroup.eventControlName) :=
        ⟨by decide +kernel, by decide +kernel⟩
      exact FileTree.resolve_of_resolve_join isName nonempty resolved

/-- After a subscription with usable settings has succeeded, whatever path they
name and wherever links lead it, the cgroup is found by every probe, and no
watch and no run ends because it was removed, unless others make, take away or
rename something.  What is notified, which waits time out and what interrupts
them makes no difference. -/
theorem Course.cgroup_present {session later : Session}
    (usable : session.watcher.settings.validate = .ok ())
    (subscribed : (session.watcher.subscribe session.env).1 = .ok ())
    (calm : session.env.scene.Still session.env.host.tree)
    (course : Course (Watcher.LeavesTree session.env.host.tree)
      session.subscribe later) :
    later.Present ∧ Environment.Finds session.env later.env := by
  obtain ⟨above, found, directory⟩ :=
    Watcher.found_of_subscribe usable subscribed
  have begun : Session.Settled session.env.host.tree session.watcher.settings
      session.env session := ⟨rfl, calm, .of_eq rfl⟩
  have settled := course.keeps (Session.Settled.kept found directory)
    begun.subscribe
  exact ⟨settled.present found directory, settled.finds⟩

namespace Session

/-- What makes a cgroup, and a link that leads to it. -/
def windingActions : List Action :=
  sampleActions ++ [.makeLink ⟨Utf8.ofString "k"⟩ ⟨Utf8.ofString "g/."⟩]

/-- A path to the cgroup that goes through the link twice and comes back in
between. -/
def windingCgroup : Path :=
  ⟨Utf8.ofString "./k/..//k//"⟩

/-- A watcher of this path that has made its channel.  A signal and an event come
while it waits, and after that it is cancelled. -/
def windingSample : Session :=
  (Session.mk
    { settings := { cgroup := windingCgroup }, cancel := some 3 }
    { (sample windingActions).env with
      schedule := [[.notify 2, .interrupt], [.cancel]] }).setup

/-- The watch of the sample ends because it was cancelled. -/
theorem cgroup_present_windingSample :
    windingSample.watcher.settings.validate = .ok () ∧
      (windingSample.watcher.subscribe windingSample.env).1 = .ok () ∧
      windingSample.env.scene.Still windingSample.env.host.tree ∧
      Course (Watcher.LeavesTree windingSample.env.host.tree)
        windingSample.subscribe windingSample.subscribe.watch ∧
      (windingSample.subscribe.watcher.watch windingSample.subscribe.env).1 =
        .done ⟨.cancelled, 1⟩ ∧
      windingSample.subscribe.watch.Present ∧
      Environment.Finds windingSample.env windingSample.subscribe.watch.env :=
    by
  have usable : windingSample.watcher.settings.validate = .ok () := by
    decide +kernel
  have subscribed :
      (windingSample.watcher.subscribe windingSample.env).1 = .ok () := by
    decide +kernel
  have quiet : ∀ group ∈ windingSample.env.scene.schedule, ∀ action ∈ group,
      action.isQuiet = true := by
    decide +kernel
  have unscripted : windingSample.env.scene.flushes = [] := by
    decide +kernel
  have calm : windingSample.env.scene.Still windingSample.env.host.tree := by
    refine ⟨⟨.refl (fun _ => trivial) _, rfl⟩, ?_, by simp [unscripted]⟩
    intro group member action inside
    exact Action.leaves_of_isQuiet (quiet group member action inside) _
  have course : Course (Watcher.LeavesTree windingSample.env.host.tree)
      windingSample.subscribe windingSample.subscribe.watch :=
    .perform .origin .watch
  obtain ⟨present, finds⟩ := Course.cgroup_present usable subscribed calm course
  exact ⟨usable, subscribed, calm, course, by decide +kernel, present, finds⟩

end Session

/-- The empty path, which is the only one that is no setting, is never found. -/
theorem Environment.probe_of_isEmpty {path : Path}
    (empty : path.isEmpty = true) (env : Environment) :
    (env.probe path).1 = false := by
  have refused : ∃ cause, FileTree.check path = .error cause := by
    rw [FileTree.check, empty]
    split <;> exact ⟨_, rfl⟩
  obtain ⟨cause, refused⟩ := refused
  rw [Watcher.probe_fst, FileTree.resolve, refused]
  rfl

end MemoryWatch
