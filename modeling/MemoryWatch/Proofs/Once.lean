import MemoryWatch.Proofs.Release

/-!
# A watcher registers at most once

A subscription makes the write call of a registration when it has found a
channel and opened both control files.  It keeps the text of the registration
whatever the call has answered, and nothing that happens later takes the text
away.  So there is at most one such call in the life of a watcher: after it
every subscription is refused before it does anything, and every run fails
before it opens a control file.
-/

namespace MemoryWatch

namespace Environment

/-- No registration was written between two surroundings. -/
abbrev Silent (before after : Environment) : Prop :=
  Continues (fun step => step.isRegistration = false) before after

theorem Silent.of_turnover {before after : Environment}
    (continues : Continues (fun step => step.isTurnover = true) before after) :
    Silent before after :=
  continues.mono Step.isRegistration_of_isTurnover

theorem silent_openPath {env after : Environment} {path : Path}
    {access : Access} {descriptor : Descriptor}
    (opened : env.openPath path access = (.ok descriptor, after)) :
    Silent env after := by
  rw [openPath] at opened
  rcases result : env.host.openPath path access with ⟨cause | found, host⟩
  · simp [result] at opened
  · simp only [result] at opened
    cases opened
    exact .single rfl rfl

theorem silent_closeHeld (env : Environment) (held : Option Descriptor) :
    Silent env (env.closeHeld held) :=
  .of_turnover (continues_closeHeld env held)

end Environment

open Environment (Silent)

namespace Watcher

variable {watcher next : Watcher} {env after : Environment}

/-- Others write no registration for the watcher.  Apart from that they may do
anything. -/
def Refrains (_ : Watcher) (before after : Environment) : Prop :=
  Silent before after

/-- A channel is the only thing that is made with it. -/
theorem setup_host (watcher : Watcher) (env : Environment) :
    Silent env (watcher.setup env).2.2 ∧
      (watcher.setup env).2.2.host.tree = env.host.tree ∧
      ((watcher.setup env).2.2.host.openFiles = env.host.openFiles ∨
        (watcher.setup env).2.2.host.openFiles =
          env.host.openFiles ++ [{ content := .counter 0 }]) := by
  rw [setup]
  split
  · exact ⟨.of_eq rfl, rfl, Or.inl rfl⟩
  · rw [Channel.create]
    rcases made : env.create (.counter 0) with ⟨cause | channel, after⟩
    · rw [Environment.create_error made]
      exact ⟨.of_eq rfl, rfl, Or.inl rfl⟩
    · rw [Environment.create] at made
      rcases result : env.host.create (.counter 0) with ⟨cause | found, host⟩
      · simp [result] at made
      · simp only [result] at made
        cases made
        have attached := Host.create_ok result
        refine ⟨.single rfl rfl, ?_, Or.inr ?_⟩
        · exact (congrArg (fun made => made.2.tree) attached).symm
        · exact (congrArg (fun made => made.2.openFiles) attached).symm

theorem registration_setup (watcher : Watcher) (env : Environment) :
    (watcher.setup env).2.1.handles.registration =
      watcher.handles.registration := by
  rw [setup]
  split
  · rfl
  · split <;> rfl

theorem OpensControls.silent {channel control oomControl : Descriptor}
    {ready : Environment}
    (controls : watcher.OpensControls env channel control oomControl ready) :
    Silent env ready := by
  obtain ⟨first, second, opened, further, rfl⟩ := controls.opened
  have firstSilent := (Environment.silent_openPath opened).trans
    (first.silent_closeHeld watcher.handles.eventControl)
  have secondSilent := (Environment.silent_openPath further).trans
    (second.silent_closeHeld watcher.handles.oomControl)
  exact firstSilent.trans secondSilent

end Watcher

/-- A subscription makes the write call of a registration: it has found a
channel, opened both control files, and keeps the text. -/
structure Enrols (before : Session) (text : String)
    (answer : Answer SystemError Nat) : Prop where
  call : ∃ channel control oomControl ready after,
    before.watcher.OpensControls before.env channel control oomControl ready ∧
      Registration.message channel oomControl Registration.capacity =
        .ok text ∧
      Registration.Writes control (Utf8.ofString text) answer ready after
  marked : before.subscribe.watcher.handles.registration = some text
  /-- There is no other such call in the subscription. -/
  single : ∃ earlier later,
    before.subscribe.env.trace = before.env.trace ++
      (earlier ++ .registered (Utf8.ofString text) answer :: later) ∧
    ∀ step ∈ earlier ++ later, step.isRegistration = false

/-- A subscription makes that call, or it writes nothing and keeps the mark as
it is. -/
theorem Session.enrols_or_silent (session : Session) :
    (∃ text answer, Enrols session text answer) ∨
      Silent session.env session.subscribe.env ∧
        session.subscribe.watcher.handles.registration =
          session.watcher.handles.registration := by
  have subscribing := session.watcher.subscribing_subscribe session.env
  have next : session.subscribe = ⟨(session.watcher.subscribe session.env).2.1,
    (session.watcher.subscribe session.env).2.2⟩ := rfl
  generalize (session.watcher.subscribe session.env).1 = result,
    (session.watcher.subscribe session.env).2.1 = watcher,
    (session.watcher.subscribe session.env).2.2 = after at subscribing next
  cases subscribing with
  | refused fault | noEventControl cause unmarked =>
      rw [next]
      exact Or.inr ⟨.of_eq rfl, rfl⟩
  | noOomControl cause unmarked open_ held =>
      rw [next]
      exact Or.inr ⟨(Environment.silent_openPath open_).trans
        (Environment.silent_closeHeld _ _), rfl⟩
  | unwritten error controls unnamed =>
      rw [next]
      exact Or.inr ⟨controls.silent, controls.unmarked.symm⟩
  | @rejected _ _ _ _ _ text answer _ controls named writes =>
      obtain ⟨steps, shown, silent⟩ := controls.silent
      refine Or.inl ⟨text, answer, ⟨_, _, _, _, _, controls, named, writes⟩,
        by rw [next], steps, [], ?_, by simpa using silent⟩
      rw [next]
      dsimp only
      rw [writes.trace, shown, List.append_assoc]
  | @accepted _ control _ _ written text answer _ controls named writes =>
      obtain ⟨steps, shown, silent⟩ := controls.silent
      refine Or.inl ⟨text, answer, ⟨_, _, _, _, _, controls, named, writes⟩,
        by rw [next], steps, [.closed control], ?_, ?_⟩
      · rw [next]
        show written.trace ++ [.closed control] = _
        rw [writes.trace, shown]
        simp
      · intro step member
        rcases List.mem_append.mp member with early | late
        · exact silent step early
        · cases List.mem_singleton.mp late
          rfl

/-- What a watcher has written of registrations since it was new. -/
inductive Enrolment (origin session : Session) : Prop
  | unwritten (unmarked : session.watcher.handles.registration = none)
      (silent : Silent origin.env session.env) : Enrolment origin session
  /-- One subscription has made the write call, and its text is kept. -/
  | written {before : Session} {text : String}
      {answer : Answer SystemError Nat}
      (earlier : Course Watcher.Refrains origin before)
      (first : Silent origin.env before.env)
      (enrols : Enrols before text answer)
      (later : Course Watcher.Refrains before.subscribe session)
      (last : Silent before.subscribe.env session.env)
      (marked : session.watcher.handles.registration = some text) :
      Enrolment origin session

namespace Enrolment

variable {origin session next : Session}

/-- What writes nothing and keeps the mark adds nothing to the past. -/
theorem still (enrolment : Enrolment origin session)
    (silent : Silent session.env next.env)
    (kept : next.watcher.handles.registration =
      session.watcher.handles.registration)
    (further : ∀ start, Course Watcher.Refrains start session →
      Course Watcher.Refrains start next) : Enrolment origin next := by
  cases enrolment with
  | unwritten unmarked before =>
      exact .unwritten (kept.trans unmarked) (before.trans silent)
  | written earlier first enrols later last marked =>
      exact .written earlier first enrols (further _ later)
        (last.trans silent) (kept.trans marked)

theorem subscribe (course : Course Watcher.Refrains origin session)
    (enrolment : Enrolment origin session) :
    Enrolment origin session.subscribe := by
  obtain ⟨text, answer, enrols⟩ | ⟨silent, kept⟩ := session.enrols_or_silent
  · obtain ⟨_, _, _, _, _, controls, _⟩ := enrols.call
    cases enrolment with
    | unwritten _ before =>
        exact .written course before enrols .origin (.of_eq rfl) enrols.marked
    | written _ _ _ _ _ marked =>
        -- A watcher with a mark does not come to the call again.
        rw [controls.unmarked] at marked
        cases marked
  · exact enrolment.still silent kept fun _ before => before.perform .subscribe

/-- Every operation leaves a past with at most one registration. -/
theorem kept (origin : Session) :
    Kept Watcher.Refrains fun session =>
      Course Watcher.Refrains origin session ∧ Enrolment origin session where
  setup session := fun ⟨course, enrolment⟩ =>
    ⟨course.perform .setup,
      enrolment.still (session.watcher.setup_host session.env).1
        (session.watcher.registration_setup session.env)
        fun _ before => before.perform .setup⟩
  subscribe _ := fun ⟨course, enrolment⟩ =>
    ⟨course.perform .subscribe, enrolment.subscribe course⟩
  watch session := fun ⟨course, enrolment⟩ =>
    ⟨course.perform .watch,
      enrolment.still ((session.watcher.continues_watch session.env).mono
        Step.isRegistration_of_not_isHandling) rfl
        fun _ before => before.perform .watch⟩
  cleanup session := fun ⟨course, enrolment⟩ =>
    ⟨course.perform .cleanup,
      enrolment.still (.of_turnover
        (session.watcher.continues_cleanup session.env)) rfl
        fun _ before => before.perform .cleanup⟩
  notifier session := fun ⟨course, enrolment⟩ => by
    have silent : Silent session.env
        (session.watcher.notifier session.env).2 := by
      obtain same | ⟨channel, _, made⟩ :=
        session.watcher.notifier_cases session.env
      · exact .of_eq (by rw [same])
      · exact .of_eq (by rw [made]; rfl)
    exact ⟨course.perform .notifier,
      enrolment.still silent rfl fun _ before => before.perform .notifier⟩
  note session event := fun ⟨course, enrolment⟩ =>
    ⟨course.outside (.of_eq rfl),
      enrolment.still (.of_eq rfl) rfl fun _ before => before.outside (.of_eq rfl)⟩
  outside session after := fun ⟨course, enrolment⟩ refrains =>
    ⟨course.outside refrains,
      enrolment.still refrains rfl fun _ before => before.outside refrains⟩

theorem countP_of_silent {steps : List Step}
    (silent : ∀ step ∈ steps, step.isRegistration = false) :
    steps.countP Step.isRegistration = 0 := by
  rw [List.countP_eq_zero]
  intro step member
  simp [silent step member]

/-- There is one registration in the steps if there is a mark, and none
otherwise. -/
theorem countP (enrolment : Enrolment origin session) :
    ∃ steps, session.env.trace = origin.env.trace ++ steps ∧
      steps.countP Step.isRegistration =
        if session.watcher.handles.registration.isSome then 1 else 0 := by
  cases enrolment with
  | unwritten unmarked silent =>
      obtain ⟨steps, shown, silent⟩ := silent
      refine ⟨steps, shown, ?_⟩
      rw [unmarked, countP_of_silent silent]
      rfl
  | @written before text answer _ first enrols _ last marked =>
      obtain ⟨steps, shown, silent⟩ := first
      obtain ⟨opened, closed, written, single⟩ := enrols.single
      obtain ⟨more, further, quiet⟩ := last
      have around := countP_of_silent single
      rw [List.countP_append] at around
      refine ⟨steps ++ (opened ++ .registered (Utf8.ofString text) answer ::
        closed) ++ more, ?_, ?_⟩
      · rw [further, written, shown]
        simp
      · rw [List.countP_append, List.countP_append, List.countP_append,
          List.countP_cons_of_pos rfl, countP_of_silent silent,
          countP_of_silent quiet, marked]
        simp
        omega

end Enrolment

/-- What a watcher that has written a registration can still do. -/
structure Spent (session : Session) : Prop where
  /-- A subscription is refused before it does anything. -/
  subscribe : session.watcher.subscribe session.env =
    (.error (.misuse (.alreadySubscribed session.watcher.settings.cgroup)),
      session.watcher, session.env)
  run : ∃ error, (session.watcher.run session.env).1 = .failed error
  sink : session.run.env.sink = session.env.sink
  tree : session.run.env.host.tree = session.env.host.tree
  /-- A run opens no control file, but it may make a channel. -/
  opened : session.run.env.host.openFiles = session.env.host.openFiles ∨
    session.run.env.host.openFiles =
      session.env.host.openFiles ++ [{ content := .counter 0 }]

namespace Session

variable {session : Session} {text : String}

theorem subscribe_of_marked
    (marked : session.watcher.handles.registration = some text) :
    session.watcher.subscribe session.env =
      (.error (.misuse (.alreadySubscribed session.watcher.settings.cgroup)),
        session.watcher, session.env) := by
  rw [Watcher.subscribe]
  dsimp only
  rw [marked]

theorem host_surrender (session : Session) :
    session.surrender.env.host.tree = session.env.host.tree ∧
      session.surrender.env.host.openFiles = session.env.host.openFiles := by
  obtain ⟨_, _, _, closed⟩ := Watcher.closeHandles_eq
    session.watcher.handles.held session.env
  have cleaned : session.cleanup.env =
      session.watcher.handles.held.foldl Watcher.closeHandle session.env := rfl
  rw [surrender, elapse, cleaned, closed]
  exact ⟨rfl, rfl⟩

theorem spent_of_marked
    (marked : session.watcher.handles.registration = some text) :
    Spent session := by
  have refused := subscribe_of_marked marked
  have still : session.setup.watcher.handles.registration = some text :=
    (session.watcher.registration_setup session.env).trans marked
  have refusedLater := subscribe_of_marked still
  obtain ⟨hand, called, _, returned⟩ := Watcher.oneByOne_run session
  -- By hand the operations come to the channel and no further.
  have channelOnly : hand.env = session.setup.env ∧
      ∃ error, (session.watcher.run session.env).1 = .failed error := by
    generalize (session.watcher.run session.env).1 = answer at called
    cases called with
    | notSetUp failed => exact ⟨rfl, _, rfl⟩
    | notSubscribed ready failed =>
        refine ⟨?_, _, rfl⟩
        rw [Session.subscribe, refusedLater]
    | watched ready subscribed =>
        rw [refusedLater] at subscribed
        cases subscribed
  obtain ⟨reached, error, failed⟩ := channelOnly
  have surrendered := returned (by simp [failed])
  obtain ⟨_, tree, opened⟩ := session.watcher.setup_host session.env
  obtain ⟨treeKept, filesKept⟩ := hand.host_surrender
  rw [reached] at treeKept filesKept
  refine ⟨refused, ⟨error, failed⟩, ?_, ?_, ?_⟩
  · rw [surrendered]
    calc
      hand.surrender.env.sink = hand.env.sink :=
        (Watcher.works_closeHandles hand.watcher.handles.held hand.env).sink
      _ = session.setup.env.sink := by rw [reached]
      _ = session.env.sink := (session.watcher.works_setup session.env).sink
  · rw [surrendered, treeKept]
    exact tree
  · rw [surrendered, filesKept]
    exact opened

end Session

namespace Course

variable {origin session : Session}

/-- In all its life a new watcher makes at most one write call for a
registration, in a subscription that has found a channel and opened both control
files.  After that call, however it went and whatever else happened since, each
subscription is refused and each run fails before it opens a control file. -/
theorem registers_once (empty : origin.watcher.handles = {})
    (course : Course Watcher.Refrains origin session) :
    Enrolment origin session ∧
      ∃ steps, session.env.trace = origin.env.trace ++ steps ∧
        steps.countP Step.isRegistration ≤ 1 ∧
        (0 < steps.countP Step.isRegistration → Spent session) := by
  have born : Enrolment origin origin :=
    .unwritten (by rw [empty]) (.of_eq rfl)
  obtain ⟨_, enrolment⟩ := course.keeps (Enrolment.kept origin) ⟨.origin, born⟩
  obtain ⟨steps, shown, counted⟩ := enrolment.countP
  refine ⟨enrolment, steps, shown, ?_, ?_⟩
  · rw [counted]
    split <;> omega
  · intro written
    cases marked : session.watcher.handles.registration with
    | none => simp [counted, marked] at written
    | some text => exact Session.spent_of_marked marked

end Course

namespace Session

/-- The watcher whose registration was written and failed, after it has given up
its handles and made a channel again. -/
def retriedSample : Session :=
  fullSample.subscribe.cleanup.setup

/-- The failed write was the only one. -/
theorem registers_once_retriedSample :
    (sample fullActions).watcher.handles = {} ∧
      Course Watcher.Refrains (sample fullActions) retriedSample ∧
      (fullSample.watcher.subscribe fullSample.env).1 ≠ .ok () ∧
      retriedSample.watcher.handles.channel = some 4 ∧
      Spent retriedSample ∧
      ∃ steps,
        retriedSample.env.trace = (sample fullActions).env.trace ++ steps ∧
        steps.countP Step.isRegistration = 1 := by
  have course : Course Watcher.Refrains (sample fullActions) retriedSample :=
    .perform (.perform (.perform (.perform .origin .setup) .subscribe) .cleanup)
      .setup
  obtain ⟨enrolment, steps, shown, atMost, spent⟩ := course.registers_once rfl
  have marked : retriedSample.watcher.handles.registration ≠ none := by
    decide +kernel
  obtain ⟨counted, shownCounted, number⟩ := enrolment.countP
  cases List.append_cancel_left (shown.symm.trans shownCounted)
  rw [if_pos (Option.isSome_iff_ne_none.mpr marked)] at number
  exact ⟨rfl, course, by decide +kernel, by decide +kernel,
    spent (by omega), steps, shown, number⟩

end Session

end MemoryWatch
