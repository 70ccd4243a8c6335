import MemoryWatch.Proofs.Turnover

/-!
# What a run comes to

A run sets up, subscribes and watches, and stops at the first of these
operations that fails.  What it answers and what it does to its surroundings is
what the operations do when somebody calls them one by one; after that it gives
up every handle, whatever has come of them.  So a run that returns leaves
nothing open, also when it began with handles of earlier operations, and it
never hides why it has failed.
-/

namespace MemoryWatch

/-- The operations of a run, called one by one until the first of them fails:
their answer, and the session that they lead to. -/
inductive OneByOne (session : Session) :
    Answer WatchError Summary → Session → Prop
  | notSetUp {error : WatchError}
      (failed : (session.watcher.setup session.env).1 = .error error) :
      OneByOne session (.failed error) session.setup
  | notSubscribed {error : WatchError}
      (ready : (session.watcher.setup session.env).1 = .ok ())
      (failed : (session.setup.watcher.subscribe session.setup.env).1 =
        .error error) :
      OneByOne session (.failed error) session.setup.subscribe
  | watched (ready : (session.watcher.setup session.env).1 = .ok ())
      (subscribed : (session.setup.watcher.subscribe session.setup.env).1 =
        .ok ()) :
      OneByOne session
        (session.setup.subscribe.watcher.watch session.setup.subscribe.env).1
        session.setup.subscribe.watch

/-! ## What leaves the sink and the schedule alone -/

namespace Environment

/-- Work on the host, which may be written down.  The scripts of the
surroundings do not go on. -/
def Works (before after : Environment) : Prop :=
  ∃ host log trace, after = { before with host, log, trace }

namespace Works

variable {before between after : Environment}

theorem refl (env : Environment) : Works env env :=
  ⟨env.host, env.log, env.trace, rfl⟩

theorem trans (first : Works before between) (second : Works between after) :
    Works before after := by
  obtain ⟨_, _, _, rfl⟩ := first
  obtain ⟨host, log, trace, rfl⟩ := second
  exact ⟨host, log, trace, rfl⟩

theorem sink (works : Works before after) : after.sink = before.sink := by
  obtain ⟨_, _, _, rfl⟩ := works
  rfl

theorem schedule (works : Works before after) :
    after.schedule = before.schedule := by
  obtain ⟨_, _, _, rfl⟩ := works
  rfl

theorem interruptions (works : Works before after) :
    after.interruptions = before.interruptions := by
  obtain ⟨_, _, _, rfl⟩ := works
  rfl

end Works

theorem works_openPath (env : Environment) (path : Path) (access : Access) :
    Works env (env.openPath path access).2 := by
  rw [openPath]
  rcases env.host.openPath path access with ⟨cause | descriptor, host⟩ <;>
    exact ⟨_, _, _, rfl⟩

theorem works_closeHeld (env : Environment) (held : Option Descriptor) :
    Works env (env.closeHeld held) := by
  cases held with
  | none => exact .refl env
  | some descriptor => exact ⟨_, _, _, rfl⟩

end Environment

namespace Watcher

open Environment (Works)

theorem settings_setup (watcher : Watcher) (env : Environment) :
    (watcher.setup env).2.1.settings = watcher.settings := by
  rw [setup]
  split
  · rfl
  · dsimp only
    split <;> rfl

theorem settings_register (watcher : Watcher)
    (channel control oomControl : Descriptor) (env : Environment) :
    (watcher.register channel control oomControl env).2.1.settings =
      watcher.settings := by
  rw [register]
  dsimp only
  split
  · rfl
  · split <;> rfl

theorem settings_subscribe (watcher : Watcher) (env : Environment) :
    (watcher.subscribe env).2.1.settings = watcher.settings := by
  rw [subscribe]
  dsimp only
  split
  · rfl
  · rfl
  · split
    · rfl
    · split
      · rfl
      · exact settings_register _ _ _ _ _

theorem works_setup (watcher : Watcher) (env : Environment) :
    Works env (watcher.setup env).2.2 := by
  rw [setup]
  split
  · exact .refl env
  · rw [Channel.create, Environment.create]
    rcases env.host.create (.counter 0) with ⟨cause | channel, host⟩ <;>
      exact ⟨_, _, _, rfl⟩

theorem works_register (watcher : Watcher)
    (channel control oomControl : Descriptor) (env : Environment) :
    Works env (watcher.register channel control oomControl env).2.2 := by
  rw [register]
  dsimp only
  split
  · exact .refl env
  · next text named =>
      simp only [Registration.register, Registration.writeControl_eq]
      rcases Registration.judge watcher.settings.registration
        (Cgroup.eventControl watcher.settings.cgroup)
        (Utf8.ofString text).length _ with ⟨error | written, warnings⟩ <;>
        exact ⟨_, _, _, rfl⟩

theorem works_subscribe (watcher : Watcher) (env : Environment) :
    Works env (watcher.subscribe env).2.2 := by
  rw [subscribe]
  dsimp only
  split
  · exact .refl env
  · exact .refl env
  · have first := env.works_openPath
      (Cgroup.eventControl watcher.settings.cgroup) .writing
    split
    · next opened => rwa [opened] at first
    · next control ready opened =>
        rw [opened] at first
        have halfway := first.trans
          (ready.works_closeHeld watcher.handles.eventControl)
        have second := halfway.trans ((ready.closeHeld
          watcher.handles.eventControl).works_openPath
            (Cgroup.oomControl watcher.settings.cgroup) .reading)
        split
        · next further => rwa [further] at second
        · next further =>
            rw [further] at second
            exact (second.trans (Environment.works_closeHeld _ _)).trans
              (works_register _ _ _ _ _)

/-- Giving up handles changes the table of descriptors and what is written
down about it. -/
theorem closeHandles_eq (handles : List (HandleKind × Descriptor))
    (env : Environment) :
    ∃ table log trace, handles.foldl closeHandle env =
      { env with host := { env.host with table }, log, trace } := by
  induction handles generalizing env with
  | nil => exact ⟨env.host.table, env.log, env.trace, rfl⟩
  | cons handle rest ih => exact ih (closeHandle env handle)

theorem works_closeHandles (handles : List (HandleKind × Descriptor))
    (env : Environment) : Works env (handles.foldl closeHandle env) := by
  obtain ⟨_, _, _, closed⟩ := closeHandles_eq handles env
  rw [closed]
  exact ⟨_, _, _, rfl⟩

theorem works_notifier (watcher : Watcher) (env : Environment) :
    Works env (watcher.notifier env).2 := by
  obtain same | ⟨channel, held, made⟩ := watcher.notifier_cases env
  · rw [same]
    exact .refl env
  · rw [made]
    exact ⟨_, _, _, rfl⟩

end Watcher

/-! ## Running and calling by hand -/

namespace OneByOne

variable {session hand : Session} {answer : Answer WatchError Summary}

/-- A run attempts what somebody does who calls its operations. -/
theorem attempt (session : Session) :
    OneByOne session (session.watcher.attempt session.env).1
      ⟨(session.watcher.attempt session.env).2.1,
        (session.watcher.attempt session.env).2.2⟩ := by
  rw [Watcher.attempt]
  rcases first : session.watcher.setup session.env with
    ⟨error | _, watcher, env⟩
  · have failed : OneByOne session (.failed error) session.setup :=
      .notSetUp (by rw [first])
    rwa [Session.setup, first] at failed
  · have ready : (session.watcher.setup session.env).1 = .ok () := by
      rw [first]
    have set : session.setup = ⟨watcher, env⟩ := by
      rw [Session.setup, first]
    dsimp only
    rcases second : watcher.subscribe env with ⟨error | _, subscribed, after⟩
    · have failed : OneByOne session (.failed error) session.setup.subscribe :=
        .notSubscribed ready (by rw [set, second])
      rwa [set, Session.subscribe, second] at failed
    · have watched : OneByOne session _ session.setup.subscribe.watch :=
        .watched ready (by rw [set, second])
      rwa [set, Session.watch, Session.subscribe, second] at watched

/-- Only a watch has calls for the sink. -/
theorem sink (called : OneByOne session answer hand)
    (unwatched : (session.watcher.setup session.env).1 = .ok () →
      (session.setup.watcher.subscribe session.setup.env).1 ≠ .ok ()) :
    hand.env.sink = session.env.sink := by
  cases called with
  | notSetUp failed => exact (session.watcher.works_setup session.env).sink
  | notSubscribed ready failed =>
      exact ((session.watcher.works_setup session.env).trans
        (session.setup.watcher.works_subscribe session.setup.env)).sink
  | watched ready subscribed => exact absurd subscribed (unwatched ready)

end OneByOne

/-- The session after every handle was given up at the end of a run. -/
def Session.surrender (session : Session) : Session :=
  session.cleanup.elapse
    (session.cleanup.env.note (.released session.watcher.handles.count))

namespace Watcher

/-- A run that returns answers as the operations do when they are called by
hand, and then gives up the handles. -/
theorem oneByOne_run (session : Session) :
    ∃ hand, OneByOne session (session.watcher.run session.env).1 hand ∧
      ((session.watcher.run session.env).1 = .blocked →
        session.run = hand) ∧
      ((session.watcher.run session.env).1 ≠ .blocked →
        session.run = hand.surrender) := by
  have called := OneByOne.attempt session
  rw [Session.run, run]
  rcases result : session.watcher.attempt session.env with
    ⟨answer, watcher, env⟩
  rw [result] at called
  cases answer with
  | blocked =>
      exact ⟨_, called, fun _ => rfl, fun returned => absurd rfl returned⟩
  | done summary => exact ⟨_, called, by simp, fun _ => rfl⟩
  | failed error => exact ⟨_, called, by simp, fun _ => rfl⟩

end Watcher

/-- What a run leaves behind when it has returned and its operations would have
led to another session by hand. -/
structure Released (origin hand after : Session) : Prop where
  vacated : after.watcher.handles.count = 0
  /-- Apart from the handles everything is as it would be by hand. -/
  surrendered : after = hand.surrender
  sink : after.env.sink = hand.env.sink
  /-- Whatever the watcher has opened for itself in its life was closed once.
  A descriptor made for a notifier belongs to whoever has asked for it. -/
  closed : ∃ steps, after.env.trace = origin.env.trace ++ steps ∧
    Step.openAfter steps = ∅ ∧ Step.Paired steps
  /-- What was held at last stands for no file any more. -/
  freed : ∀ kind descriptor,
    hand.watcher.handles.descriptor? kind = some descriptor →
      after.env.host.position? descriptor = none

namespace Course

variable {origin session : Session}

theorem closed_of_vacant (empty : origin.watcher.handles = {})
    (coherent : origin.env.host.IsCoherent)
    (course : Course Watcher.Spares origin session)
    (vacant : session.watcher.handles.descriptors = ∅) :
    ∃ steps, session.env.trace = origin.env.trace ++ steps ∧
      Step.openAfter steps = ∅ ∧ Step.Paired steps := by
  have born : Booked origin.env origin :=
    ⟨[], by simp, by rw [empty]; exact .nil⟩
  obtain ⟨_, steps, shown, books⟩ := course.keeps
    (Booked.kept origin.env origin.watcher.settings)
    ⟨WellFormed.of_empty empty coherent, born⟩
  rw [vacant] at books
  exact ⟨steps, shown, books.openAfter_eq, books.paired⟩

/-- Whatever a watcher has gone through before, a run answers as its operations
do when they are called one by one until the first of them fails.  If it
returns, it has given up every handle and left everything else as they do; and
it leaves the sink alone unless it comes to its watch. -/
theorem released_run (empty : origin.watcher.handles = {})
    (coherent : origin.env.host.IsCoherent)
    (course : Course Watcher.Spares origin session) :
    ∃ hand, OneByOne session (session.watcher.run session.env).1 hand ∧
      ((session.watcher.run session.env).1 = .blocked →
        session.run = hand) ∧
      ((session.watcher.run session.env).1 ≠ .blocked →
        Released origin hand session.run) ∧
      (((session.watcher.setup session.env).1 = .ok () →
          (session.setup.watcher.subscribe session.setup.env).1 ≠ .ok ()) →
        session.run.env.sink = session.env.sink) := by
  obtain ⟨hand, called, blocked, returned⟩ := Watcher.oneByOne_run session
  have kept : hand.surrender.env.sink = hand.env.sink :=
    (Watcher.works_closeHandles hand.watcher.handles.held hand.env).sink
  refine ⟨hand, called, blocked, ?_, ?_⟩
  · intro unblocked
    have surrendered := returned unblocked
    have vacant : session.run.watcher.handles.descriptors = ∅ := by
      rw [surrendered]
      rfl
    refine ⟨?_, surrendered, ?_,
      closed_of_vacant empty coherent (course.perform .run) vacant, ?_⟩
    · rw [surrendered]
      rfl
    · rw [surrendered]
      exact kept
    · intro kind descriptor held
      have member : descriptor ∈ hand.watcher.handles.held.map Prod.snd :=
        List.mem_map.mpr
          ⟨(kind, descriptor), Watcher.mem_held_iff.mpr held, rfl⟩
      have freed := Watcher.position?_closeHandles
        hand.watcher.handles.held hand.env descriptor
      rw [if_pos member] at freed
      rw [surrendered]
      exact freed
  · intro unwatched
    have untouched := called.sink unwatched
    by_cases unblocked : (session.watcher.run session.env).1 = .blocked
    · rw [blocked unblocked]
      exact untouched
    · rw [returned unblocked]
      exact kept.trans untouched

end Course

namespace Session

/-- A run of a half subscribed watcher cannot make a channel, says so, and gives
up the two handles that it has found. -/
theorem released_run_failedSample :
    (sample partialActions).watcher.handles = {} ∧
      (sample partialActions).env.host.IsCoherent ∧
      Course Watcher.Spares (sample partialActions) failedSample ∧
      failedSample.watcher.handles.count = 2 ∧
      (failedSample.watcher.run failedSample.env).1 =
        .failed (.misuse .channelExists) ∧
      ∃ hand,
        OneByOne failedSample (.failed (.misuse .channelExists)) hand ∧
        Released (sample partialActions) hand failedSample.run := by
  have coherent : (sample partialActions).env.host.IsCoherent := by
    decide +kernel
  have course : Course Watcher.Spares (sample partialActions) failedSample :=
    .perform (.perform .origin .setup) .subscribe
  have answer : (failedSample.watcher.run failedSample.env).1 =
      .failed (.misuse .channelExists) := by
    decide +kernel
  obtain ⟨hand, called, _, returned, _⟩ := course.released_run rfl coherent
  rw [answer] at called returned
  exact ⟨rfl, coherent, course, by decide +kernel, answer, hand, called,
    returned (by simp)⟩

end Session

end MemoryWatch
