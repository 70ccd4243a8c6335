import MemoryWatch.Proofs.Handshake
import MemoryWatch.Proofs.Release

/-!
# What is logged as a warning

The log is only ever added to, and only a registration that was not written
whole adds a warning: one under the lenient policy, and none under the strict
one.  Everything else that a watcher does leaves the log without a new warning
and the trace without a new registration, however its waits, reads and
deliveries go.  So the warnings of any session are those of its incomplete
registrations, in their order, also when one watcher takes the place of another.
-/

namespace MemoryWatch

namespace LogEvent

def isWarning (event : LogEvent) : Bool :=
  event.level = .warn

theorem filter_isWarning {events : List LogEvent}
    (calm : ∀ event ∈ events, event.isWarning = false) :
    events.filter isWarning = [] := by
  rw [List.filter_eq_nil_iff]
  simpa using calm

end LogEvent

namespace Environment

/-- The warnings that have been logged. -/
def warnings (env : Environment) : List LogEvent :=
  env.log.filter LogEvent.isWarning

/-- The log and the trace have gone on without a warning and without a
registration. -/
def Unremarked (before after : Environment) : Prop :=
  ∃ events steps, after.log = before.log ++ events ∧
    after.trace = before.trace ++ steps ∧
    (∀ event ∈ events, event.isWarning = false) ∧
    ∀ step ∈ steps, step.isRegistration = false

namespace Unremarked

variable {before between after : Environment}

theorem of_eq (log : after.log = before.log)
    (trace : after.trace = before.trace) : Unremarked before after :=
  ⟨[], [], by rw [log, List.append_nil], by rw [trace, List.append_nil],
    by simp, by simp⟩

theorem refl (env : Environment) : Unremarked env env :=
  of_eq rfl rfl

theorem trans (first : Unremarked before between)
    (second : Unremarked between after) : Unremarked before after := by
  obtain ⟨events, steps, logged, shown, calm, silent⟩ := first
  obtain ⟨others, more, further, later, calmToo, silentToo⟩ := second
  refine ⟨events ++ others, steps ++ more, ?_, ?_, ?_, ?_⟩
  · rw [further, logged, List.append_assoc]
  · rw [later, shown, List.append_assoc]
  · intro event member
    rcases List.mem_append.mp member with early | late
    · exact calm event early
    · exact calmToo event late
  · intro step member
    rcases List.mem_append.mp member with early | late
    · exact silent step early
    · exact silentToo step late

theorem note (unremarked : Unremarked before after) {event : LogEvent}
    (calm : event.isWarning = false) : Unremarked before (after.note event) :=
  unremarked.trans ⟨[event], [], rfl, by simp [Environment.note],
    by simpa using calm, by simp⟩

theorem record (unremarked : Unremarked before after) {step : Step}
    (silent : step.isRegistration = false) :
    Unremarked before (after.record step) :=
  unremarked.trans ⟨[], [step], by simp [Environment.record], rfl, by simp,
    by simpa using silent⟩

theorem warnings_eq (unremarked : Unremarked before after) :
    after.warnings = before.warnings := by
  obtain ⟨events, _, logged, _, calm, _⟩ := unremarked
  rw [warnings, logged, List.filter_append, LogEvent.filter_isWarning calm,
    List.append_nil, warnings]

end Unremarked

/-! ## What others do -/

theorem unremarked_add (env : Environment) (channel : Descriptor)
    (count : UInt64) : Unremarked env (env.add channel count).2 := by
  rw [add_snd]
  refine ⟨[], _, by simp, rfl, by simp, ?_⟩
  split <;> simp [Step.isRegistration]

theorem unremarked_fire (env : Environment) (handle : Descriptor) :
    Unremarked env (env.fire handle).2 := by
  rw [fire_snd]
  exact .of_eq rfl rfl

theorem unremarked_act (env : Environment) (channel : Option Descriptor)
    (action : Action) : Unremarked env (env.act channel action).2 := by
  cases action with
  | makeDirectories path | remove path | interrupt | expire
  | allowMore descriptors | allowNone | allowAll => exact .of_eq rfl rfl
  | writeFile path content | makeLink path target | rename path target =>
      simp only [act, edit]
      split <;> exact .of_eq rfl rfl
  | notify count =>
      cases channel with
      | none => exact .refl env
      | some channel => exact env.unremarked_add channel count
  | cancel =>
      rw [act]
      split
      · exact .refl env
      · exact env.unremarked_fire _
  | shutdown =>
      rw [act]
      split
      · exact .refl env
      · split
        · exact .refl env
        · exact ((Unremarked.refl env).note rfl).trans
            ((env.note .shutdownRequested).unremarked_fire _)

theorem unremarked_actAll (env : Environment) (channel : Option Descriptor)
    (actions : List Action) : Unremarked env (env.actAll channel actions) := by
  induction actions generalizing env with
  | nil => exact .refl env
  | cons action rest ih =>
      exact (env.unremarked_act channel action).trans (ih _)

theorem unremarked_deliver (env : Environment) (channel : Option Descriptor)
    (bytes : List UInt8) : Unremarked env (env.deliver channel bytes).2 := by
  rw [deliver]
  have scripted : Unremarked env
      { env with sink := (env.sink.deliver bytes).2.2 } := .of_eq rfl rfl
  exact scripted.trans (unremarked_actAll _ _ _)

theorem unremarked_probe (env : Environment) (cgroup : Path) :
    Unremarked env (env.probe cgroup).2 := by
  rw [probe]
  split
  · exact (Unremarked.refl env).record rfl
  · exact ((Unremarked.refl env).note rfl).record rfl

theorem unremarked_create (env : Environment) (content : OpenContent) :
    Unremarked env (env.create content).2 := by
  rw [create]
  rcases env.host.create content with ⟨cause | descriptor, host⟩
  · exact .of_eq rfl rfl
  · have made : Unremarked env { env with host } := .of_eq rfl rfl
    exact made.record rfl

theorem unremarked_openPath (env : Environment) (path : Path)
    (access : Access) : Unremarked env (env.openPath path access).2 := by
  rw [openPath]
  rcases env.host.openPath path access with ⟨cause | descriptor, host⟩
  · exact .of_eq rfl rfl
  · have made : Unremarked env { env with host } := .of_eq rfl rfl
    exact made.record rfl

theorem unremarked_close (env : Environment) (descriptor : Descriptor) :
    Unremarked env (env.close descriptor) := by
  have given : Unremarked env
      { env with host := env.host.close descriptor } := .of_eq rfl rfl
  exact given.record rfl

theorem unremarked_closeHeld (env : Environment)
    (held : Option Descriptor) : Unremarked env (env.closeHeld held) := by
  cases held with
  | none => exact .refl env
  | some descriptor => exact env.unremarked_close descriptor

end Environment

namespace Channel

open Environment (Unremarked)

theorem unremarked_happen (channel : Descriptor) (group : List Action)
    (later : Schedule) (env : Environment) :
    Unremarked env (happen channel group later env) := by
  have acted : Unremarked env
      ({ env with schedule := later }.actAll (some channel) group) := by
    have scheduled : Unremarked env { env with schedule := later } :=
      .of_eq rfl rfl
    exact scheduled.trans (Environment.unremarked_actAll _ _ _)
  rw [happen]
  split
  · exact acted.record rfl
  · exact acted

theorem unremarked_elapse (channel : Descriptor) (count : Nat)
    (env : Environment) : Unremarked env (elapse channel count env) := by
  induction count generalizing env with
  | zero => exact .refl env
  | succ count ih =>
      rw [elapse]
      split
      · exact .refl env
      · exact (unremarked_happen channel _ _ env).trans (ih _)

theorem unremarked_wait (channel : Descriptor) (cancel : Option Descriptor)
    (timeout : Option Duration) (env : Environment) :
    Unremarked env (wait channel cancel timeout env).2 := by
  obtain ⟨count, heard⟩ :=
    listen_snd channel cancel (timeout.map Duration.waitMilliseconds) env
  rw [wait_eq]
  dsimp only
  rw [heard]
  exact (unremarked_elapse channel count env).record rfl

theorem unremarked_readBytes (channel : Descriptor) (interruptions : Nat)
    (env : Environment) :
    Unremarked env (readBytes channel interruptions env).2 := by
  induction interruptions generalizing env with
  | zero =>
      have taken : Unremarked env
          { env with host := (env.host.read channel).2 } := .of_eq rfl rfl
      exact taken.record rfl
  | succ interruptions ih =>
      exact ((Unremarked.refl env).record rfl).trans (ih _)

theorem unremarked_read (channel : Descriptor) (env : Environment) :
    Unremarked env (read channel env).2 := by
  have scripted : Unremarked env
      { env with interruptions := env.interruptions.tail } := .of_eq rfl rfl
  rw [read_eq]
  exact scripted.trans (unremarked_readBytes channel _ _)

end Channel

namespace Watcher

open Environment (Unremarked)

variable {watcher : Watcher} {channel : Descriptor}

/-! ## What a watch does -/

theorem unremarked_afterProbe (watcher : Watcher) (notifications : Nat)
    (env : Environment) :
    Unremarked env
      (watcher.afterProbe notifications env).surroundings := by
  have looked := env.unremarked_probe watcher.settings.cgroup
  obtain ⟨_, result⟩ | ⟨_, result⟩ :=
    watcher.afterProbe_cases notifications env
  · rw [result]
    exact looked
  · rw [result]
    exact looked.note rfl

/-- The part of a round in which a record is delivered. -/
theorem unremarked_reporting {env waited after delivered : Environment}
    {counter : UInt64} {outcome : Except SystemError Unit}
    (wait : Channel.wait channel watcher.cancel
      watcher.settings.probeInterval env = (.done .notified, waited))
    (read : Channel.read channel waited = (.done counter, after))
    (deliver :
      (after.note (.notified watcher.settings.cgroup counter)).deliver
        (some channel) (Record.encode watcher.settings.format
          watcher.settings.cgroup counter) = (outcome, delivered)) :
    Unremarked env (delivered.record (.delivered counter outcome)) := by
  have waiting := Channel.unremarked_wait channel watcher.cancel
    watcher.settings.probeInterval env
  have reading := Channel.unremarked_read channel waited
  have delivering := Environment.unremarked_deliver
    (after.note (.notified watcher.settings.cgroup counter)) (some channel)
    (Record.encode watcher.settings.format watcher.settings.cgroup counter)
  rw [wait] at waiting
  rw [read] at reading
  rw [deliver] at delivering
  have told : Unremarked env
      (after.note (.notified watcher.settings.cgroup counter)) :=
    (waiting.trans reading).note rfl
  exact (told.trans delivering).record rfl

theorem unremarked_round (watcher : Watcher) (channel : Descriptor)
    (notifications : Nat) (env : Environment) :
    Unremarked env
      (watcher.round channel notifications env).surroundings := by
  have waiting := Channel.unremarked_wait channel watcher.cancel
    watcher.settings.probeInterval env
  have turn := watcher.turn_round channel notifications env
  generalize watcher.round channel notifications env = result at turn
  cases turn with
  | waitBlocked wait | waitFailed wait =>
      rw [wait] at waiting
      exact waiting
  | cancelled wait =>
      rw [wait] at waiting
      exact waiting.note rfl
  | timedOut wait =>
      rw [wait] at waiting
      exact waiting.trans (unremarked_afterProbe watcher notifications _)
  | @readBlocked waited _ wait read | @readFailed waited _ _ wait read =>
      have reading := Channel.unremarked_read channel waited
      rw [wait] at waiting
      rw [read] at reading
      exact waiting.trans reading
  | refused wait read deliver => exact unremarked_reporting wait read deliver
  | reported wait read deliver =>
      exact (unremarked_reporting wait read deliver).trans
        (unremarked_afterProbe watcher _ _)

theorem unremarked_arrives {start env : Environment} {notifications : Nat}
    (arrived : watcher.Arrives channel start notifications env) :
    Unremarked start env := by
  induction arrived with
  | first => exact .refl start
  | @next notifications _ env _ _ result ih =>
      have further := unremarked_round watcher channel notifications env
      rw [result] at further
      exact ih.trans further

theorem unremarked_watch (watcher : Watcher) (env : Environment) :
    Unremarked env (watcher.watch env).2 := by
  cases watched : watcher.watched? with
  | none =>
      obtain ⟨fault, result⟩ := watch_of_not_watched? watched env
      rw [result]
      exact .refl env
  | some channel =>
      have begun : Unremarked env env := .of_eq rfl rfl
      obtain ⟨count, before, arrived, result⟩ | ⟨_, count, arrived⟩ :=
        watcher.watch_cases watched env
      · have last := unremarked_round watcher channel count before
        rw [result] at last
        exact (begun.trans (unremarked_arrives arrived)).trans last
      · exact begun.trans (unremarked_arrives arrived)

/-! ## What the other operations do -/

theorem unremarked_setup (watcher : Watcher) (env : Environment) :
    Unremarked env (watcher.setup env).2.2 := by
  rw [setup]
  split
  · exact .refl env
  · have made := env.unremarked_create (.counter 0)
    rw [Channel.create]
    rcases created : env.create (.counter 0) with ⟨cause | channel, after⟩
    · rw [created] at made
      exact made
    · rw [created] at made
      exact made.note rfl

theorem unremarked_closeHandles (handles : List (HandleKind × Descriptor))
    (env : Environment) : Unremarked env (handles.foldl closeHandle env) := by
  induction handles generalizing env with
  | nil => exact .refl env
  | cons handle rest ih =>
      have closed := (env.note (.closing handle.1 handle.2)).unremarked_close
        handle.2
      exact (((Unremarked.refl env).note rfl).trans closed).trans (ih _)

theorem unremarked_notifier (watcher : Watcher) (env : Environment) :
    Unremarked env (watcher.notifier env).2 := by
  obtain same | ⟨channel, held, made⟩ := watcher.notifier_cases env
  · rw [same]
    exact .refl env
  · rw [made]
    exact .of_eq rfl rfl

end Watcher

/-! ## What registrations add -/

namespace Step

/-- Whether a step is a registration that was not written whole. -/
def isShortfall : Step → Bool
  | registered bytes answer => answer ≠ .done bytes.length
  | opened _ | closed _ | waited _ _ | read _ | delivered _ _ | probed _
  | added _ | interrupted => false

/-- What is logged as a warning about a step. -/
def warnings (policy : RegistrationPolicy) (path : Path) :
    Step → List LogEvent
  | registered bytes answer =>
    (Registration.judge policy path bytes.length
      (Registration.outcome answer)).2
  | opened _ | closed _ | waited _ _ | read _ | delivered _ _ | probed _
  | added _ | interrupted => []

theorem warnings_of_not_isRegistration {step : Step}
    (silent : step.isRegistration = false) (policy : RegistrationPolicy)
    (path : Path) : step.warnings policy path = [] := by
  cases step <;> simp_all [isRegistration, warnings]

/-- The lenient policy warns once of a registration that was not written whole,
and never of anything else. -/
theorem length_warnings_lenient (path : Path) (step : Step) :
    (step.warnings .lenient path).length =
      if step.isShortfall = true then 1 else 0 := by
  cases step with
  | registered bytes answer =>
      cases answer with
      | done written =>
          by_cases whole : written = bytes.length <;>
            simp [warnings, isShortfall, Registration.judge,
              Registration.outcome, whole]
      | failed cause | blocked =>
          simp [warnings, isShortfall, Registration.judge,
            Registration.outcome]
  | opened | closed | waited | read | delivered | probed | added
  | interrupted => rfl

/-- The strict policy fails instead of warning. -/
theorem warnings_strict (path : Path) (step : Step) :
    step.warnings .strict path = [] := by
  cases step with
  | registered bytes answer =>
      cases answer with
      | done written =>
          by_cases whole : written = bytes.length <;>
            simp [warnings, Registration.judge, Registration.outcome, whole]
      | failed cause | blocked => rfl
  | opened | closed | waited | read | delivered | probed | added
  | interrupted => rfl

/-- There are as many warnings as registrations that were not written whole, if
the policy is lenient. -/
theorem length_flatMap_warnings (policy : RegistrationPolicy) (path : Path)
    (steps : List Step) :
    (steps.flatMap (warnings policy path)).length =
      if policy = .lenient then steps.countP isShortfall else 0 := by
  cases policy with
  | strict => simp [List.length_flatMap, warnings_strict]
  | lenient =>
      induction steps with
      | nil => rfl
      | cons step rest ih =>
          simp only [if_true] at ih ⊢
          rw [List.flatMap_cons, List.length_append, ih, List.countP_cons,
            length_warnings_lenient, Nat.add_comm]

end Step

/-- All that a policy logs about a write call is a warning. -/
theorem Registration.isWarning_of_judge {policy : RegistrationPolicy}
    {path : Path} {expected : Nat} {outcome : Except SystemError Nat}
    {event : LogEvent}
    (logged : event ∈ (judge policy path expected outcome).2) :
    event.isWarning = true := by
  cases outcome with
  | ok written =>
      by_cases whole : written = expected <;> cases policy <;>
        simp [judge, whole] at logged
      rw [logged]
      rfl
  | error cause =>
      cases policy <;> simp [judge] at logged
      rw [logged]
      rfl

namespace Environment

/-- The log and the trace have gone on, and the new warnings are those that the
policy gives for the new registrations. -/
def Warns (policy : RegistrationPolicy) (path : Path)
    (before after : Environment) : Prop :=
  ∃ events steps, after.log = before.log ++ events ∧
    after.trace = before.trace ++ steps ∧
    events.filter LogEvent.isWarning = steps.flatMap (Step.warnings policy path)

variable {policy : RegistrationPolicy} {path : Path}
  {before between after : Environment}

theorem Unremarked.warns (unremarked : Unremarked before after)
    (policy : RegistrationPolicy) (path : Path) :
    Warns policy path before after := by
  obtain ⟨events, steps, logged, shown, calm, silent⟩ := unremarked
  refine ⟨events, steps, logged, shown, ?_⟩
  rw [LogEvent.filter_isWarning calm, eq_comm, List.flatMap_eq_nil_iff]
  intro step member
  exact Step.warnings_of_not_isRegistration (silent step member) policy path

theorem Warns.trans (first : Warns policy path before between)
    (second : Warns policy path between after) :
    Warns policy path before after := by
  obtain ⟨events, steps, logged, shown, warned⟩ := first
  obtain ⟨others, more, further, later, warnedToo⟩ := second
  refine ⟨events ++ others, steps ++ more, ?_, ?_, ?_⟩
  · rw [further, logged, List.append_assoc]
  · rw [later, shown, List.append_assoc]
  · rw [List.filter_append, warned, warnedToo, List.flatMap_append]

end Environment

namespace Watcher

open Environment (Unremarked Warns)

/-- The surroundings after the write call of a registration. -/
def registered (control : Descriptor) (text : String) (ready : Environment) :
    Environment :=
  let written := ready.host.write control (Utf8.ofString text)
  { ready.note (.registering text) with host := written.2 }.record
    (.registered (Utf8.ofString text) written.1)

/-- What the policy makes of the write call of a registration. -/
def judged (watcher : Watcher) (control : Descriptor) (text : String)
    (ready : Environment) : Except WatchError Nat × List LogEvent :=
  Registration.judge watcher.settings.registration
    (Cgroup.eventControl watcher.settings.cgroup)
    (Utf8.ofString text).length
    (Registration.outcome (ready.host.write control (Utf8.ofString text)).1)

/-- A registration makes one write call, and the policy decides what follows. -/
theorem register_eq {watcher : Watcher}
    {channel control oomControl : Descriptor} {text : String}
    (named : Registration.message channel oomControl Registration.capacity =
      .ok text) (ready : Environment) :
    watcher.register channel control oomControl ready =
      let judged := watcher.judged control text ready
      let after := registered control text ready
      let logged := { after with log := after.log ++ judged.2 }
      let handles := { watcher.handles with registration := some text }
      match judged.1 with
      | .error error => (.error error, { watcher with handles }, logged)
      | .ok _ =>
        (.ok (),
         { watcher with handles := { handles with eventControl := none } },
         (logged.close control).note
           (.subscribed watcher.settings.cgroup channel oomControl)) := by
  rw [register, named]
  simp only [Registration.register, Registration.writeControl_eq]
  rfl

/-- The write call of a registration adds the warnings that the policy gives
for it. -/
theorem warns_registered (watcher : Watcher) (control : Descriptor)
    (text : String) (ready : Environment) :
    Warns watcher.settings.registration
      (Cgroup.eventControl watcher.settings.cgroup) ready
      { registered control text ready with
        log := (registered control text ready).log ++
          (watcher.judged control text ready).2 } := by
  have all : (watcher.judged control text ready).2.filter
      LogEvent.isWarning = (watcher.judged control text ready).2 :=
    List.filter_eq_self.mpr fun _ => Registration.isWarning_of_judge
  refine ⟨.registering text :: (watcher.judged control text ready).2,
    [.registered (Utf8.ofString text)
      (ready.host.write control (Utf8.ofString text)).1], ?_, rfl, ?_⟩
  · simp [registered, Environment.note, Environment.record]
  · have calm : (LogEvent.registering text).isWarning = false := rfl
    rw [List.filter_cons_of_neg (by simp [calm]), all, List.flatMap_singleton]
    rfl

theorem warns_register (watcher : Watcher)
    (channel control oomControl : Descriptor) (ready : Environment) :
    Warns watcher.settings.registration
      (Cgroup.eventControl watcher.settings.cgroup) ready
      (watcher.register channel control oomControl ready).2.2 := by
  rcases named : Registration.message channel oomControl
    Registration.capacity with error | text
  · rw [register, named]
    exact (Unremarked.refl ready).warns _ _
  · have written := watcher.warns_registered control text ready
    rw [register_eq named]
    dsimp only
    generalize (watcher.judged control text ready) = judged at written ⊢
    rcases judged with ⟨error | count, warnings⟩
    · exact written
    · refine written.trans (Unremarked.warns ?_ _ _)
      exact (Environment.unremarked_close _ control).note rfl

/-- The watcher under another policy. -/
def under (watcher : Watcher) (policy : RegistrationPolicy) : Watcher :=
  { watcher with
    settings := { watcher.settings with registration := policy } }

/-- Before the write call the policy plays no part: a subscription fails in the
same way under each, or it has opened both control files. -/
theorem subscribe_under_cases (watcher : Watcher) (env : Environment) :
    (∃ error handles after, Unremarked env after ∧
        ∀ policy, (watcher.under policy).subscribe env =
          (.error error, { watcher.under policy with handles }, after)) ∨
      ∃ channel control oomControl ready, Unremarked env ready ∧
        watcher.OpensControls env channel control oomControl ready := by
  rcases watcher with
    ⟨settings, cancel, channel, eventControl, oomHeld, registration⟩
  cases registration with
  | some text =>
      exact Or.inl ⟨.misuse (.alreadySubscribed settings.cgroup),
        ⟨channel, eventControl, oomHeld, some text⟩, env, .refl env,
        fun _ => rfl⟩
  | none =>
      cases channel with
      | none =>
          exact Or.inl ⟨.misuse .noChannel,
            ⟨none, eventControl, oomHeld, none⟩, env, .refl env, fun _ => rfl⟩
      | some channel =>
          have opening := env.unremarked_openPath
            (Cgroup.eventControl settings.cgroup) .writing
          rcases first : env.openPath (Cgroup.eventControl settings.cgroup)
            .writing with ⟨cause | control, opened⟩
          · rw [first] at opening
            refine Or.inl ⟨.controlUnavailable
              (Cgroup.eventControl settings.cgroup) cause,
              ⟨some channel, eventControl, oomHeld, none⟩, opened, opening,
              fun policy => ?_⟩
            simp only [under, subscribe, first]
          · rw [first] at opening
            have closing := opening.trans
              (opened.unremarked_closeHeld eventControl)
            have further := (opened.closeHeld eventControl).unremarked_openPath
              (Cgroup.oomControl settings.cgroup) .reading
            rcases second : (opened.closeHeld eventControl).openPath
              (Cgroup.oomControl settings.cgroup) .reading with
              ⟨cause | oomControl, ready⟩
            · rw [second] at further
              refine Or.inl ⟨.controlUnavailable
                (Cgroup.oomControl settings.cgroup) cause,
                ⟨some channel, some control, oomHeld, none⟩, ready,
                closing.trans further, fun policy => ?_⟩
              simp only [under, subscribe, first, second]
            · rw [second] at further
              refine Or.inr ⟨channel, control, oomControl,
                ready.closeHeld oomHeld,
                (closing.trans further).trans (ready.unremarked_closeHeld _),
                rfl, rfl, opened, ready, first, second, rfl⟩

theorem warns_subscribe (watcher : Watcher) (env : Environment) :
    Warns watcher.settings.registration
      (Cgroup.eventControl watcher.settings.cgroup) env
      (watcher.subscribe env).2.2 := by
  obtain ⟨error, handles, after, unremarked, failed⟩ |
    ⟨channel, control, oomControl, ready, unremarked, controls⟩ :=
    watcher.subscribe_under_cases env
  · rw [show watcher.subscribe env = _ from
      failed watcher.settings.registration]
    exact unremarked.warns _ _
  · have written := warns_register
      { watcher with
        handles :=
          { channel := some channel, eventControl := some control,
            oomControl := some oomControl } }
      channel control oomControl ready
    rw [controls.subscribe_eq]
    exact (unremarked.warns _ _).trans written

end Watcher

namespace Session

open Environment (Unremarked Warns)

/-- One session after another with the same settings, between which the warnings
are those of the registrations. -/
structure Reports (before after : Session) : Prop where
  settings : after.watcher.settings = before.watcher.settings
  warns : Warns before.watcher.settings.registration
    (Cgroup.eventControl before.watcher.settings.cgroup) before.env after.env

namespace Reports

variable {before between after : Session}

theorem of_unremarked
    (settings : after.watcher.settings = before.watcher.settings)
    (unremarked : Unremarked before.env after.env) : before.Reports after :=
  ⟨settings, unremarked.warns _ _⟩

theorem trans (first : before.Reports between)
    (second : between.Reports after) : before.Reports after := by
  obtain ⟨settings, warns⟩ := second
  rw [first.settings] at settings warns
  exact ⟨settings, first.warns.trans warns⟩

end Reports

variable (session : Session)

theorem reports_setup : session.Reports session.setup :=
  .of_unremarked (session.watcher.settings_setup session.env)
    (session.watcher.unremarked_setup session.env)

theorem reports_subscribe : session.Reports session.subscribe :=
  ⟨session.watcher.settings_subscribe session.env,
    session.watcher.warns_subscribe session.env⟩

theorem reports_watch : session.Reports session.watch :=
  .of_unremarked rfl (session.watcher.unremarked_watch session.env)

theorem reports_cleanup : session.Reports session.cleanup :=
  .of_unremarked rfl (Watcher.unremarked_closeHandles _ session.env)

theorem reports_surrender : session.Reports session.surrender :=
  session.reports_cleanup.trans
    (.of_unremarked rfl ((Unremarked.refl session.cleanup.env).note rfl))

variable {session}

theorem reports_oneByOne {answer : Answer WatchError Summary} {hand : Session}
    (called : OneByOne session answer hand) : session.Reports hand := by
  cases called with
  | notSetUp failed => exact session.reports_setup
  | notSubscribed ready failed =>
      exact session.reports_setup.trans session.setup.reports_subscribe
  | watched ready subscribed =>
      exact (session.reports_setup.trans
        session.setup.reports_subscribe).trans
          session.setup.subscribe.reports_watch

theorem reports_run : session.Reports session.run := by
  obtain ⟨hand, called, blocked, returned⟩ := Watcher.oneByOne_run session
  have reports := reports_oneByOne called
  by_cases endless : (session.watcher.run session.env).1 = .blocked
  · rw [blocked endless]
    exact reports
  · rw [returned endless]
    exact reports.trans hand.reports_surrender

theorem reports_perform (operation : Operation) :
    session.Reports (session.perform operation) := by
  cases operation with
  | setup => exact session.reports_setup
  | subscribe => exact session.reports_subscribe
  | watch => exact session.reports_watch
  | run => exact reports_run
  | cleanup => exact session.reports_cleanup
  | notifier =>
      exact .of_unremarked rfl
        (session.watcher.unremarked_notifier session.env)

/-- The watcher is given up, and a new one with the same settings takes its
place. -/
def replace (session : Session) : Session where
  watcher :=
    { settings := session.watcher.settings, cancel := session.watcher.cancel }
  env := session.watcher.dispose session.env

theorem reports_replace : session.Reports session.replace :=
  .of_unremarked rfl (Watcher.unremarked_closeHandles _ session.env)

end Session

/-- The sessions that a session can come to by operations and by putting one
watcher in the place of another, while others do anything that neither warns nor
registers. -/
inductive Succession (origin : Session) : Session → Prop
  | origin : Succession origin origin
  | perform {session : Session} (earlier : Succession origin session)
      (operation : Operation) :
      Succession origin (session.perform operation)
  | outside {session : Session} {after : Environment}
      (earlier : Succession origin session)
      (unremarked : session.env.Unremarked after) :
      Succession origin (session.elapse after)
  | replace {session : Session} (earlier : Succession origin session) :
      Succession origin session.replace

/-- All warnings of a session are those of its registrations. -/
theorem Succession.reports {origin session : Session}
    (succession : Succession origin session) : origin.Reports session := by
  induction succession with
  | origin => exact .of_unremarked rfl (.refl origin.env)
  | perform _ operation ih => exact ih.trans (Session.reports_perform operation)
  | outside _ unremarked ih => exact ih.trans (.of_unremarked rfl unremarked)
  | replace _ ih => exact ih.trans Session.reports_replace

end MemoryWatch
