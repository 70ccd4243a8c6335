import MemoryWatch.Proofs.Reaction
import MemoryWatch.Proofs.Restraint

/-!
# A watcher that is as good as new

A watcher that has given up its handles is as it was made exactly when it has
never come to the write call of a registration.  Then nobody can tell it from a
new one: whatever comes next, both give the same responses, deliver the same and
leave the same files, in all surroundings that look the same.  And if nobody has
got a second descriptor of its channel, the surroundings look as if it had never
been used.
-/

namespace MemoryWatch

open Environment (Silent)

namespace Watcher

theorem cancel_setup (watcher : Watcher) (env : Environment) :
    (watcher.setup env).2.1.cancel = watcher.cancel := by
  rw [setup]
  split
  · rfl
  · dsimp only
    split <;> rfl

end Watcher

theorem Environment.silent_undergo (env : Environment)
    (channel : Option Descriptor) (change : Change) :
    Silent env (env.undergo channel change) := by
  have silent_act (channel : Descriptor) (action : Action) :
      Silent env (env.act (some channel) action).2 :=
    (env.continues_act channel action).mono <| by
      rintro _ ⟨count, rfl⟩
      rfl
  cases change with
  | act action =>
      rw [undergo]
      cases channel with
      | some channel => exact silent_act channel action
      | none =>
          obtain same | idle := env.act_none action
          · rw [same]
            exact silent_act 0 action
          · rw [idle]
            exact .of_eq rfl
  | script sink schedule interruptions => exact .of_eq rfl
  | refile tree allowance storage => exact .of_eq rfl

namespace Session

/-- The session after its watcher has given up what it held, by a cleanup or at
the end of a run. -/
inductive Closes (session : Session) : Session → Prop
  | cleanup : Closes session session.cleanup
  | run (returned : (session.watcher.run session.env).1 ≠ .blocked) :
      Closes session session.run

/-- Episodes are a course of operations between which others write no
registration. -/
theorem course_follow {origin session : Session}
    (course : Course Watcher.Refrains origin session)
    (episodes : List Episode) :
    Course Watcher.Refrains origin (session.follow episodes) := by
  induction episodes generalizing session with
  | nil => exact course
  | cons episode episodes ih =>
      cases episode with
      | perform operation => exact ih (course.perform operation)
      | outside change =>
          exact ih (course.outside (session.env.silent_undergo _ change))

namespace Closes

variable {session next : Session}

theorem course {origin : Session} (closes : session.Closes next)
    (course : Course Watcher.Refrains origin session) :
    Course Watcher.Refrains origin next := by
  cases closes with
  | cleanup => exact course.perform .cleanup
  | run returned => exact course.perform .run

/-- Only the mark of a registration is left. -/
theorem handles (closes : session.Closes next) :
    ∃ mark, next.watcher.handles = { registration := mark } := by
  cases closes with
  | cleanup => exact ⟨_, rfl⟩
  | run returned =>
      obtain ⟨hand, _, _, surrendered⟩ := Watcher.oneByOne_run session
      rw [surrendered returned]
      exact ⟨_, rfl⟩

theorem onlyHolds {twin : Environment} (closes : session.Closes next)
    (only : session.OnlyHolds twin)
    (unmarked : next.watcher.handles.registration = none) :
    next.OnlyHolds twin := by
  cases closes with
  | cleanup => exact only.cleanup
  | run returned => exact only.run unmarked

/-- What is marked stays marked. -/
theorem unmarked (closes : session.Closes next)
    (unmarked : next.watcher.handles.registration = none) :
    session.watcher.handles.registration = none := by
  cases closes with
  | cleanup => exact unmarked
  | run returned => exact @unmarked_of_take session (.perform .run) unmarked

end Closes

end Session

/-- A watcher keeps its settings and the handle that can cancel it. -/
theorem Watcher.identity_kept (settings : Settings)
    (cancel : Option Descriptor) :
    Kept Watcher.Refrains fun session =>
      session.watcher.settings = settings ∧
        session.watcher.cancel = cancel where
  setup session := fun ⟨told, cancels⟩ =>
    ⟨(session.watcher.settings_setup session.env).trans told,
      (session.watcher.cancel_setup session.env).trans cancels⟩
  subscribe session := fun ⟨told, cancels⟩ =>
    have subscribing := session.watcher.subscribing_subscribe session.env
    ⟨subscribing.settings.trans told, subscribing.cancel.trans cancels⟩
  watch _ identity := identity
  cleanup _ identity := identity
  notifier _ identity := identity
  note _ _ identity := identity
  outside _ _ identity _ := identity

/-- A new watcher, and a session in which it has given up what it held after
others. -/
structure Renewal (new : Watcher) (env : Environment)
    (earlier session : Session) : Prop where
  /-- The watcher is as it was made exactly when no registration was
  written. -/
  as_new : session.watcher = new ↔ Silent env session.env
  /-- It does whatever a new watcher does in surroundings that look the same. -/
  indistinguishable : Silent env session.env →
    ∀ other, other.Mirrors session.env → ∀ episodes,
      session.responses episodes = (Session.mk new other).responses episodes ∧
        Session.Echoes ⟨new, other⟩ session
          ((Session.mk new other).follow episodes) (session.follow episodes)
  /-- The surroundings look as if no operation had been called. -/
  unspoiled : Silent env session.env → (Session.mk new env).IsFresh →
    ∀ episodes, (∀ episode ∈ episodes, episode.isPlain = true) →
      earlier = (Session.mk new env).follow episodes →
        (env.passAll episodes).Mirrors session.env
  /-- Otherwise the watcher can never subscribe again. -/
  spent : ¬ Silent env session.env → Spent session

namespace Course

variable {origin session : Session}

/-- No registration was written exactly when there is no mark. -/
theorem silent_iff (empty : origin.watcher.handles = {})
    (course : Course Watcher.Refrains origin session) :
    Silent origin.env session.env ↔
      session.watcher.handles.registration = none := by
  have born : Enrolment origin origin :=
    .unwritten (by rw [empty]) (.of_eq rfl)
  obtain ⟨_, enrolment⟩ := course.keeps (Enrolment.kept origin) ⟨.origin, born⟩
  constructor
  · -- The steps since the beginning hold one registration if there is a mark.
    rintro ⟨steps, shown, silent⟩
    obtain ⟨counted, shownCounted, number⟩ := enrolment.countP
    cases List.append_cancel_left (shown.symm.trans shownCounted)
    rw [Enrolment.countP_of_silent silent] at number
    cases marked : session.watcher.handles.registration with
    | none => rfl
    | some text => simp [marked] at number
  · intro unmarked
    cases enrolment with
    | unwritten _ silent => exact silent
    | written _ _ _ _ _ marked =>
        rw [unmarked] at marked
        cases marked

/-- Take a new watcher, call its operations in any order, let others do anything
in between but write a registration for it, and let it give up its handles.  It
is as it was made exactly when no registration was written, and then nobody can
tell it from a new one. -/
theorem renewed {settings : Settings} {made : Watcher}
    {cancel : Option Descriptor} {env : Environment} {earlier : Session}
    (created : Watcher.create settings = .ok made)
    (course : Course Watcher.Refrains ⟨{ made with cancel }, env⟩ earlier)
    (closes : earlier.Closes session) :
    Renewal { made with cancel } env earlier session := by
  have empty : made.handles = {} := by
    rw [Watcher.create] at created
    split at created <;> cases created
    rfl
  have whole := closes.course course
  have silent_iff := whole.silent_iff empty
  dsimp only at silent_iff
  have restored : Silent env session.env →
      session.watcher = { made with cancel } := by
    intro silent
    obtain ⟨mark, handles⟩ := closes.handles
    have unmarked := silent_iff.mp silent
    rw [handles] at unmarked
    dsimp only at unmarked
    obtain ⟨told, cancels⟩ := whole.keeps
      (Watcher.identity_kept made.settings cancel) ⟨rfl, rfl⟩
    rw [unmarked, ← empty] at handles
    rw [← told, ← cancels, ← handles]
  constructor
  case as_new =>
    refine ⟨fun same => silent_iff.mpr ?_, restored⟩
    rw [same, empty]
  case indistinguishable =>
    intro silent other mirrors episodes
    have echoes : Session.Echoes ⟨{ made with cancel }, other⟩ session
        ⟨{ made with cancel }, other⟩ session :=
      ⟨restored silent, .refl mirrors⟩
    exact echoes.follow episodes
  case unspoiled =>
    rintro silent fresh episodes plain rfl
    have unmarked := silent_iff.mp silent
    have only := (Session.OnlyHolds.of_fresh fresh).follow plain
      (closes.unmarked unmarked)
    have closed := closes.onlyHolds only unmarked
    have hosts := closed.hosts
    obtain ⟨mark, handles⟩ := closes.handles
    rw [handles, Host.without_of_empty] at hosts
    exact ⟨hosts, closed.works⟩
  case spent =>
    intro written
    cases marked : session.watcher.handles.registration with
    | none => exact absurd (silent_iff.mpr marked) written
    | some text => exact Session.spent_of_marked marked

end Course

namespace Session

/-- A watch too early, a channel that is made twice, a subscription without any
control file, and another one when the first file is there. -/
def vainEpisodes : List Episode :=
  [.perform .watch, .perform .setup, .perform .setup, .perform .subscribe,
    .outside (.act (.makeDirectories sampleCgroup)),
    .outside (.act (.writeFile (Cgroup.eventControl sampleCgroup) [])),
    .perform .subscribe]

/-- The sample after all that. -/
def vainSample : Session :=
  (sample []).follow vainEpisodes

/-- At last the second file appears too, and the watcher is used from the
beginning. -/
def anewEpisodes : List Episode :=
  [.outside (.act (.writeFile (Cgroup.oomControl sampleCgroup) [])),
    .perform .setup, .perform .subscribe,
    .outside
      (.script {} [[.notify 3], [.notify 2, .remove sampleCgroup]] [])]

/-- A run fails since there is a channel, and gives up both handles.  After that
the watcher does what a new one would do if all this had not been. -/
theorem renewed_vainSample :
    Watcher.create { cgroup := sampleCgroup } =
        .ok { settings := { cgroup := sampleCgroup } } ∧
      Course Watcher.Refrains (sample []) vainSample ∧
      vainSample.watcher.handles.count = 2 ∧
      vainSample.Closes vainSample.run ∧
      Renewal (sample []).watcher (sample []).env vainSample vainSample.run ∧
      Silent (sample []).env vainSample.run.env ∧
      (∀ episodes, vainSample.run.responses episodes =
        (Session.mk (sample []).watcher
          ((sample []).env.passAll vainEpisodes)).responses episodes) ∧
      (vainSample.run.follow anewEpisodes).answer .watch =
        .done ⟨.cgroupRemoved, 2⟩ := by
  have created : Watcher.create { cgroup := sampleCgroup } =
      .ok { settings := { cgroup := sampleCgroup } } := by
    decide +kernel
  have course : Course Watcher.Refrains (sample []) vainSample :=
    course_follow .origin vainEpisodes
  have closes : vainSample.Closes vainSample.run :=
    .run (by decide +kernel)
  have renewal : Renewal (sample []).watcher (sample []).env vainSample
      vainSample.run :=
    Course.renewed created course closes
  have silent := renewal.as_new.mp (by decide +kernel)
  have fresh : (sample []).IsFresh :=
    isFresh_sample_of (by decide +kernel) (by decide +kernel)
  have mirrors := renewal.unspoiled silent fresh vainEpisodes (by decide) rfl
  have watched : ((vainSample.run.follow anewEpisodes).watcher.watch
      (vainSample.run.follow anewEpisodes).env).1 =
        .done ⟨.cgroupRemoved, 2⟩ := by
    decide +kernel
  exact ⟨created, course, by decide +kernel, closes, renewal, silent,
    fun episodes => (renewal.indistinguishable silent _ mirrors episodes).1,
    watched⟩

end Session

end MemoryWatch
