import MemoryWatch.Proofs.Unison

/-!
# Watchers that only hold descriptors

Until a watcher comes to the write call of a registration, all that it does to
its surroundings is to hold descriptors in them.  Without these the surroundings
look as if no operation had been called: the files, the descriptors of others
and the counter that could cancel the watcher are as they would be then, and so
are the sink and what is going to happen.
-/

namespace MemoryWatch

/-! ## Until the registration -/

namespace Session

/-- All that a watcher does to its surroundings is to hold descriptors.  Without
these they look like others. -/
structure OnlyHolds (session : Session) (twin : Environment) : Prop where
  owns : session.watcher.Owns session.env
  hosts : twin.host.Mirrors (session.env.host.without session.watcher.handles)
  works : Environment.Works twin session.env

theorem host_cleanup (session : Session) :
    session.cleanup.env.host =
      session.env.host.without session.watcher.handles := by
  rw [cleanup, Watcher.cleanup, Host.without]
  dsimp only
  generalize session.watcher.handles.held = held
  generalize session.env = env
  induction held generalizing env with
  | nil => rfl
  | cons handle rest ih => exact ih (Watcher.closeHandle env handle)

namespace OnlyHolds

variable {session : Session} {twin : Environment}

theorem of_fresh (fresh : session.IsFresh) :
    session.OnlyHolds session.env where
  owns := fresh.owns
  hosts := by
    rw [fresh.handles, Host.without_of_empty]
    exact .refl fresh.coherent
  works := .refl session.env

theorem note (only : session.OnlyHolds twin) (event : LogEvent) :
    (session.elapse (session.env.note event)).OnlyHolds twin where
  owns := only.owns.note event
  hosts := only.hosts
  works := only.works.trans ⟨_, _, _, rfl⟩

theorem noteTwin (only : session.OnlyHolds twin) (event : LogEvent) :
    session.OnlyHolds (twin.note event) where
  owns := only.owns
  hosts := only.hosts
  works := by
    obtain ⟨_, _, _, same⟩ := only.works
    rw [same]
    exact ⟨_, _, _, rfl⟩

theorem setup (only : session.OnlyHolds twin) :
    session.setup.OnlyHolds twin where
  owns := only.owns.setup
  hosts := by
    have hosts := only.hosts
    rw [Session.setup, Watcher.setup]
    cases held : session.watcher.handles.channel with
    | some channel => exact hosts
    | none =>
        dsimp only
        rw [Channel.create]
        rcases made : session.env.create (.counter 0) with
          ⟨cause | channel, after⟩
        · rw [Environment.create_error made]
          exact hosts
        · have taken := Environment.mirrors_taken only.owns.coherent
            (Environment.attach_of_create made) session.watcher.handles .channel
          have vacant : session.watcher.handles.descriptor? .channel = none :=
            held
          rw [vacant] at taken
          exact hosts.trans taken
  works := only.works.trans (session.watcher.works_setup session.env)

/-- A subscription that does not come to the write call. -/
theorem subscribe (only : session.OnlyHolds twin)
    (unmarked : session.subscribe.watcher.handles.registration = none) :
    session.subscribe.OnlyHolds twin := by
  have coherent := only.owns.coherent
  have subscribing := session.watcher.subscribing_subscribe session.env
  refine ⟨subscribing.owns only.owns, ?_,
    only.works.trans (session.watcher.works_subscribe session.env)⟩
  have hosts := only.hosts
  rw [Session.subscribe] at unmarked ⊢
  dsimp only at unmarked ⊢
  generalize (session.watcher.subscribe session.env).1 = result,
    (session.watcher.subscribe session.env).2.1 = watcher,
    (session.watcher.subscribe session.env).2.2 = after
    at subscribing unmarked ⊢
  cases subscribing with
  | refused fault | noEventControl cause unmarked => exact hosts
  | noOomControl cause unmarked open_ held =>
      obtain ⟨_, content, _, _, attached, _⟩ :=
        Environment.attach_of_openPath open_
      exact hosts.trans
        (Environment.mirrors_taken coherent attached _ .eventControl)
  | @unwritten channel control oomControl ready error controls unnamed =>
      -- Two descriptors are taken, one after the other.
      obtain ⟨first, second, open_, further, rfl⟩ := controls.opened
      obtain ⟨_, _, _, _, attached, _⟩ := Environment.attach_of_openPath open_
      obtain ⟨_, _, _, _, attachedLater, _⟩ :=
        Environment.attach_of_openPath further
      have halfway := hosts.trans
        (Environment.mirrors_taken coherent attached _ .eventControl)
      have both := halfway.trans (Environment.mirrors_taken
        (Environment.isCoherent_closeHeld
          (Environment.opens_openPath coherent open_).makes.coherent _)
        attachedLater _ .oomControl)
      have named : ((session.watcher.handles.put .eventControl
          (some control)).put .oomControl (some oomControl)) =
          { channel := some channel, eventControl := some control,
            oomControl := some oomControl } := by
        rw [← controls.held, ← controls.unmarked]
        rfl
      rwa [named] at both
  -- After the write call there would be a mark.
  | rejected controls named writes strict incomplete => cases unmarked
  | accepted event controls named writes passed => cases unmarked

/-- A watch without a registration is refused. -/
theorem watch (only : session.OnlyHolds twin)
    (unmarked : session.watcher.handles.registration = none) :
    session.watch.OnlyHolds twin := by
  have refused : session.watch = session := by
    rw [Session.watch, Watcher.watch, unmarked]
  rwa [refused]

theorem cleanup (only : session.OnlyHolds twin) :
    session.cleanup.OnlyHolds twin where
  owns := only.owns.cleanup
  hosts := by
    rw [host_cleanup]
    exact only.hosts
  works := only.works.trans (Watcher.works_closeHandles _ session.env)

/-- A run that does not come to the write call. -/
theorem run (only : session.OnlyHolds twin)
    (unmarked : session.run.watcher.handles.registration = none) :
    session.run.OnlyHolds twin := by
  obtain ⟨hand, called, blocked, returned⟩ := Watcher.oneByOne_run session
  generalize (session.watcher.run session.env).1 = answer
    at called blocked returned
  have kept : session.run.watcher.handles.registration =
      hand.watcher.handles.registration := by
    by_cases ended : answer = .blocked
    · rw [blocked ended]
    · rw [returned ended]
      rfl
  rw [kept] at unmarked
  have byHand : hand.OnlyHolds twin := by
    cases called with
    | notSetUp failed => exact only.setup
    | notSubscribed ready failed => exact only.setup.subscribe unmarked
    | watched ready subscribed =>
        exact (only.setup.subscribe unmarked).watch unmarked
  -- A run that returns gives up what its operations hold.
  by_cases ended : answer = .blocked
  · rwa [blocked ended]
  · rw [returned ended]
    exact byHand.cleanup.note _

/-! ## What others do -/

/-- Others may change both hosts in the same way. -/
theorem rehost (only : session.OnlyHolds twin) {host counterpart : Host}
    (position : ∀ descriptor,
      host.position? descriptor = session.env.host.position? descriptor)
    (coherent : host.IsCoherent)
    (hosts : counterpart.Mirrors (host.without session.watcher.handles)) :
    (session.elapse { session.env with host }).OnlyHolds
      { twin with host := counterpart } where
  owns := only.owns.stays ⟨position, fun _ => coherent, rfl⟩
  hosts := hosts
  works := by
    obtain ⟨_, _, _, same⟩ := only.works
    rw [elapse, same]
    exact ⟨_, _, _, rfl⟩

theorem tree (only : session.OnlyHolds twin) :
    session.env.host.tree = twin.host.tree := by
  obtain ⟨_, rest⟩ := session.env.host.without_eq session.watcher.handles
  have same := only.hosts.tree
  rw [rest] at same
  exact same

theorem canceller (only : session.OnlyHolds twin) :
    session.env.canceller = twin.canceller := by
  obtain ⟨_, _, _, same⟩ := only.works
  rw [same]

/-- The same change of the files. -/
theorem refile (only : session.OnlyHolds twin) (tree : FileTree)
    (allowance : Allowance) (storage : Storage) :
    (session.refiled tree allowance storage).OnlyHolds
      { twin with host := { twin.host with tree, allowance, storage } } := by
  refine only.rehost (fun _ => rfl) only.owns.coherent ?_
  rw [@Host.without_comm fun host => { host with tree, allowance, storage }]
  · exact { only.hosts with tree := rfl, allowance := rfl, storage := rfl }
  · exact fun _ _ => rfl

theorem retree (only : session.OnlyHolds twin) (tree : FileTree) :
    (session.elapse
        { session.env with host := { session.env.host with tree } }).OnlyHolds
      { twin with host := { twin.host with tree } } := by
  refine only.rehost (fun _ => rfl) only.owns.coherent ?_
  rw [@Host.without_comm fun host => { host with tree }]
  · exact only.hosts.retree tree
  · exact fun _ _ => rfl

/-- The watcher does not hold what can cancel it. -/
theorem spared (only : session.OnlyHolds twin) {handle : Descriptor}
    (cancels : session.env.canceller = some handle) (kind : HandleKind) :
    session.watcher.handles.descriptor? kind ≠ some handle := fun held =>
  only.owns.ne_of_isCancelledThrough held (Or.inr cancels) rfl

/-- What can cancel the watcher is fired in both surroundings. -/
theorem fire (only : session.OnlyHolds twin) {handle : Descriptor}
    (cancels : session.env.canceller = some handle) :
    (session.elapse (session.env.fire handle).2).OnlyHolds
      (twin.fire handle).2 := by
  have touches := session.env.host.touches_write handle (Counter.toBytes 1)
  have both := only.hosts.write handle (Counter.toBytes 1)
  rw [Host.write_without (only.spared cancels)] at both
  rw [Environment.fire_snd, Environment.fire_snd]
  exact only.rehost touches.position? (touches.isCoherent only.owns.coherent)
    both.mirrors

theorem readiness (only : session.OnlyHolds twin) {handle : Descriptor}
    (cancels : session.env.canceller = some handle) :
    session.env.host.readiness handle = twin.host.readiness handle := by
  obtain ⟨_, rest⟩ := session.env.host.without_eq session.watcher.handles
  have kept : (session.env.host.without session.watcher.handles).openFile?
      handle = session.env.host.openFile? handle := by
    rw [Host.openFile?, Host.position?_without_of_not (only.spared cancels),
      rest]
    rfl
  rw [Host.readiness, Host.readiness, ← kept, only.hosts.file]

theorem edit (only : session.OnlyHolds twin)
    (change : FileTree → Except SystemError FileTree) :
    (session.elapse (session.env.edit change).2).OnlyHolds
      (twin.edit change).2 := by
  rw [Environment.edit, Environment.edit, only.tree]
  cases change twin.host.tree with
  | error cause => exact only
  | ok tree => exact only.retree tree

theorem rework (only : session.OnlyHolds twin)
    (change : FileTree → Except SystemError Unit × FileTree) :
    (session.elapse (session.env.rework change).2).OnlyHolds
      (twin.rework change).2 := by
  rw [Environment.rework, Environment.rework, only.tree]
  exact only.retree _

theorem allow (only : session.OnlyHolds twin) (allowance : Allowance) :
    (session.elapse (session.env.allow allowance).2).OnlyHolds
      (twin.allow allowance).2 := by
  refine only.rehost (fun _ => rfl) only.owns.coherent ?_
  rw [@Host.without_comm fun host => { host with allowance }]
  · exact only.hosts.reallow allowance
  · exact fun _ _ => rfl

end OnlyHolds

end Session

/-- An action that neither adds to the channel nor depends on how many
descriptors there are. -/
def Action.isPlain : Action → Bool
  | .notify _ | .allowMore _ => false
  | .makeDirectories _ | .writeFile _ _ | .makeLink _ _ | .remove _
  | .rename _ _ | .cancel | .interrupt | .expire | .shutdown
  | .allowNone | .allowAll => true

/-- An episode in which nobody is given a second descriptor of the channel, and
others do nothing but plain actions. -/
def Episode.isPlain : Episode → Bool
  | .perform operation => operation ≠ .notifier
  | .outside (.act action) => action.isPlain
  | .outside (.script _ _ _) | .outside (.refile _ _ _) => true

namespace Session

variable {session : Session} {twin : Environment}

namespace OnlyHolds

theorem act (only : session.OnlyHolds twin) {action : Action}
    (plain : action.isPlain = true) :
    (session.acted action).OnlyHolds (twin.act none action).2 := by
  rw [acted]
  cases action with
  | makeDirectories path => exact only.rework (·.makeDirectories path)
  | remove path => exact only.rework (·.remove path)
  | writeFile path content => exact only.edit (·.writeFile path content)
  | makeLink path target => exact only.edit (·.makeLink path target)
  | rename path destination => exact only.edit (·.rename path destination)
  | notify count | allowMore descriptors => cases plain
  | cancel =>
      rw [Environment.act, Environment.act, ← only.canceller]
      cases cancels : session.env.canceller with
      | none => exact only
      | some handle => exact only.fire cancels
  | interrupt | expire => exact only
  | shutdown =>
      rw [Environment.act, Environment.act, ← only.canceller]
      cases cancels : session.env.canceller with
      | none => exact only
      | some handle =>
          dsimp only
          rw [← only.readiness cancels]
          split
          · exact only
          · exact ((only.note .shutdownRequested).noteTwin
              .shutdownRequested).fire cancels
  | allowNone => exact only.allow .nothing
  | allowAll => exact only.allow .unlimited

theorem outside (only : session.OnlyHolds twin) {change : Change}
    (plain : (Episode.outside change).isPlain = true) :
    (session.take (.outside change)).OnlyHolds (twin.undergo none change) := by
  cases change with
  | act action => exact only.act plain
  | script sink schedule interruptions =>
      refine ⟨only.owns.stays (.of_eq rfl rfl rfl), only.hosts, ?_⟩
      obtain ⟨_, _, _, same⟩ := only.works
      rw [take, elapse, Environment.undergo, same]
      exact ⟨_, _, _, rfl⟩
  | refile tree allowance storage => exact only.refile tree allowance storage

theorem perform (only : session.OnlyHolds twin) {operation : Operation}
    (plain : (Episode.perform operation).isPlain = true)
    (unmarked :
      (session.perform operation).watcher.handles.registration = none) :
    (session.perform operation).OnlyHolds twin := by
  cases operation with
  | setup => exact only.setup
  | subscribe => exact only.subscribe unmarked
  | watch => exact only.watch unmarked
  | run => exact only.run unmarked
  | cleanup => exact only.cleanup
  | notifier => cases plain

end OnlyHolds

/-- A mark lasts whatever operations are called. -/
theorem marked_kept : Kept Watcher.Refrains fun session =>
    session.watcher.handles.registration.isSome = true where
  setup session marked := by
    rwa [setup, session.watcher.registration_setup]
  subscribe session marked := by
    obtain ⟨text, marked⟩ := Option.isSome_iff_exists.mp marked
    rw [subscribe, subscribe_of_marked marked, marked]
    rfl
  watch _ marked := marked
  cleanup _ marked := marked
  notifier _ marked := marked
  note _ _ marked := marked
  outside _ _ marked _ := marked

theorem unmarked_of_take {episode : Episode}
    (unmarked : (session.take episode).watcher.handles.registration = none) :
    session.watcher.handles.registration = none := by
  cases episode with
  | outside change => exact unmarked
  | perform operation =>
      by_contra marked
      have kept := marked_kept.perform
        (Option.isSome_iff_ne_none.mpr marked) operation
      rw [take] at unmarked
      rw [unmarked] at kept
      cases kept

theorem unmarked_of_follow {episodes : List Episode}
    (unmarked : (session.follow episodes).watcher.handles.registration = none) :
    session.watcher.handles.registration = none := by
  induction episodes generalizing session with
  | nil => exact unmarked
  | cons episode episodes ih => exact unmarked_of_take (ih unmarked)

/-- Until a registration is written, a watcher does nothing to its surroundings
but hold descriptors in them. -/
theorem OnlyHolds.follow (only : session.OnlyHolds twin)
    {episodes : List Episode}
    (plain : ∀ episode ∈ episodes, episode.isPlain = true)
    (unmarked : (session.follow episodes).watcher.handles.registration = none) :
    (session.follow episodes).OnlyHolds (twin.passAll episodes) := by
  induction episodes generalizing session twin with
  | nil => exact only
  | cons episode episodes ih =>
      obtain ⟨first, rest⟩ := List.forall_mem_cons.mp plain
      refine ih ?_ rest unmarked
      cases episode with
      | perform operation =>
          exact only.perform first (unmarked_of_follow unmarked)
      | outside change => exact only.outside first

end Session

end MemoryWatch
