import MemoryWatch.Proofs.Warning

/-!
# The two policies

The strict and the lenient policy see the same world.  Whatever an endpoint is
and does, registering makes one write call with the whole text, and only then
the policy decides: when the whole text was taken both policies agree, and
otherwise the strict one gives the error that the lenient one logs as a warning.

So a subscription under either policy opens the same files, writes the same text
and keeps the same channel and the same file that the listener is tied to.
After an incomplete write it fails under the strict policy and keeps the file
for registrations, and goes through under the lenient one.  No incomplete
registration goes unreported in any session.
-/

namespace MemoryWatch

namespace Registration

/-- What the strict and the lenient policy make of the outcome of a write call
of so many bytes, each with what it logs. -/
inductive Verdicts (path : Path) (expected : Nat) :
    Except SystemError Nat → Except WatchError Nat × List LogEvent →
      Except WatchError Nat × List LogEvent → Prop
  | complete : Verdicts path expected (.ok expected) (.ok expected, [])
      (.ok expected, [])
  | short {written : Nat} (different : written ≠ expected) :
      Verdicts path expected (.ok written)
        (.error (.registrationIncomplete path written expected), [])
        (.ok written,
          [.registrationIncomplete
            (.registrationIncomplete path written expected)])
  | failed (cause : SystemError) :
      Verdicts path expected (.error cause)
        (.error (.controlUnavailable path cause), [])
        (.ok 0, [.registrationFailed path cause])

theorem verdicts_judge (path : Path) (expected : Nat)
    (outcome : Except SystemError Nat) :
    Verdicts path expected outcome (judge .strict path expected outcome)
      (judge .lenient path expected outcome) := by
  cases outcome with
  | error cause => exact .failed cause
  | ok written =>
      by_cases whole : written = expected
      · subst whole
        simpa [judge] using Verdicts.complete
      · simpa [judge, whole] using Verdicts.short whole

end Registration

namespace Watcher

open Environment (Unremarked)

variable {watcher : Watcher} {env : Environment}

/-- What a subscription comes to under the strict and under the lenient policy:
the same, or else what follows from an incomplete write. -/
inductive Compared (watcher : Watcher) (env : Environment) :
    Except WatchError Unit × Watcher × Environment →
      Except WatchError Unit × Watcher × Environment → Prop
  | same (result : Except WatchError Unit) (handles : Handles)
      {after : Environment} (silent : after.warnings = env.warnings) :
      Compared watcher env
        (result, { watcher.under .strict with handles }, after)
        (result, { watcher.under .lenient with handles }, after)
  | incomplete {channel control oomControl : Descriptor} {text : String}
      {answer : Answer SystemError Nat} {error : WatchError} {count : Nat}
      {warning : LogEvent} {after : Environment}
      (verdicts : Registration.Verdicts
        (Cgroup.eventControl watcher.settings.cgroup)
        (Utf8.ofString text).length (Registration.outcome answer)
        (.error error, []) (.ok count, [warning]))
      (shown : ∃ earlier,
        after.trace = earlier ++ [.registered (Utf8.ofString text) answer])
      (silent : after.warnings = env.warnings) :
      Compared watcher env
        (.error error,
          { watcher.under .strict with
            handles :=
              { channel := some channel, eventControl := some control,
                oomControl := some oomControl, registration := some text } },
          after)
        (.ok (),
          { watcher.under .lenient with
            handles :=
              { channel := some channel, oomControl := some oomControl,
                registration := some text } },
          ({ after with log := after.log ++ [warning] }.close control).note
            (.subscribed watcher.settings.cgroup channel oomControl))

theorem warnings_registered (control : Descriptor) (text : String)
    (ready : Environment) :
    (registered control text ready).warnings = ready.warnings := by
  have calm : (LogEvent.registering text).isWarning = false := rfl
  simp [Environment.warnings, registered, Environment.record,
    Environment.note, List.filter_append, calm]

/-- With both files open the policies first differ after the write call. -/
theorem compared_register {channel control oomControl : Descriptor}
    {ready : Environment}
    (controls : watcher.OpensControls env channel control oomControl ready)
    (unremarked : Unremarked env ready) :
    Compared watcher env ((watcher.under .strict).subscribe env)
      ((watcher.under .lenient).subscribe env) := by
  have strictly : (watcher.under .strict).OpensControls env channel control
      oomControl ready := ⟨controls.unmarked, controls.held, controls.opened⟩
  have leniently : (watcher.under .lenient).OpensControls env channel control
      oomControl ready := ⟨controls.unmarked, controls.held, controls.opened⟩
  rw [strictly.subscribe_eq, leniently.subscribe_eq]
  rcases named : Registration.message channel oomControl
    Registration.capacity with error | text
  · rw [register, register, named]
    exact .same (.error error) _ unremarked.warnings_eq
  · have silent := (warnings_registered control text ready).trans
      unremarked.warnings_eq
    have verdicts := Registration.verdicts_judge
      (Cgroup.eventControl watcher.settings.cgroup)
      (Utf8.ofString text).length
      (Registration.outcome
        (ready.host.write control (Utf8.ofString text)).1)
    rw [register_eq named, register_eq named]
    simp only [judged, under]
    generalize said : Registration.outcome
      (ready.host.write control (Utf8.ofString text)).1 = outcome
      at verdicts ⊢
    generalize Registration.judge .strict
      (Cgroup.eventControl watcher.settings.cgroup)
      (Utf8.ofString text).length outcome = strict at verdicts ⊢
    generalize Registration.judge .lenient
      (Cgroup.eventControl watcher.settings.cgroup)
      (Utf8.ofString text).length outcome = lenient at verdicts ⊢
    cases verdicts with
    | complete =>
        have closed := (Environment.unremarked_close
          (registered control text ready) control).note
            (by rfl : (LogEvent.subscribed watcher.settings.cgroup channel
              oomControl).isWarning = false)
        simp only [List.append_nil]
        exact .same (.ok ()) _ (closed.warnings_eq.trans silent)
    | short different =>
        have verdict := @Registration.Verdicts.short
          (Cgroup.eventControl watcher.settings.cgroup) _ _ different
        rw [← said] at verdict
        simp only [List.append_nil]
        exact .incomplete verdict ⟨_, rfl⟩ silent
    | failed cause =>
        have verdict := @Registration.Verdicts.failed
          (Cgroup.eventControl watcher.settings.cgroup)
          (Utf8.ofString text).length cause
        rw [← said] at verdict
        simp only [List.append_nil]
        exact .incomplete verdict ⟨_, rfl⟩ silent

theorem compared_subscribe (watcher : Watcher) (env : Environment) :
    Compared watcher env ((watcher.under .strict).subscribe env)
      ((watcher.under .lenient).subscribe env) := by
  obtain ⟨error, handles, after, unremarked, failed⟩ |
    ⟨channel, control, oomControl, ready, unremarked, controls⟩ :=
    watcher.subscribe_under_cases env
  · rw [failed, failed]
    exact .same (.error error) handles unremarked.warnings_eq
  · exact compared_register controls unremarked

/-- Both policies leave the same files, the same text, the same channel and the
same file that the listener is tied to. -/
theorem Compared.same_registrations
    {strict lenient : Except WatchError Unit × Watcher × Environment}
    (compared : Compared watcher env strict lenient) :
    lenient.2.2.host.tree = strict.2.2.host.tree ∧
      lenient.2.2.host.openFiles = strict.2.2.host.openFiles ∧
      lenient.2.1.handles.registration = strict.2.1.handles.registration ∧
      lenient.2.1.handles.channel = strict.2.1.handles.channel ∧
      lenient.2.1.handles.oomControl = strict.2.1.handles.oomControl := by
  cases compared <;> exact ⟨rfl, rfl, rfl, rfl, rfl⟩

/-- Registering makes one write call with the whole text and no flush call, and
the policies differ only in what they make of its outcome.  Subscribing under
both leaves the same but for the result, the warning, and the file for
registrations that a failure keeps.  In a session there is one warning for each
incomplete registration if the policy is lenient, in the order of these, and no
other one. -/
theorem both_policies :
    (∀ {ε : Type} (write : List UInt8 → ε → Except SystemError Nat × ε)
        (endpoint : ε) (path : Path) (text : String),
      let written := write (Utf8.ofString text) endpoint
      let strict := Registration.register write .strict path text endpoint
      let lenient := Registration.register write .lenient path text endpoint
      strict.2.2 = written.2 ∧ lenient.2.2 = written.2 ∧
        Registration.Verdicts path (Utf8.ofString text).length written.1
          (strict.1, strict.2.1) (lenient.1, lenient.2.1)) ∧
      (∀ (policy : RegistrationPolicy) (path : Path) (text : String)
          (sink : Sink),
        (Registration.register Sink.write policy path text sink).2.2 =
          { sink with
            writes := sink.writes.tail
            calls := sink.calls ++
              [.write (Utf8.ofString text) sink.nextWrite] }) ∧
      (∀ (watcher : Watcher) (env : Environment),
        let strict := (watcher.under .strict).subscribe env
        let lenient := (watcher.under .lenient).subscribe env
        Compared watcher env strict lenient ∧
          lenient.2.2.host.tree = strict.2.2.host.tree ∧
          lenient.2.2.host.openFiles = strict.2.2.host.openFiles ∧
          lenient.2.1.handles.registration =
            strict.2.1.handles.registration ∧
          lenient.2.1.handles.channel = strict.2.1.handles.channel ∧
          lenient.2.1.handles.oomControl = strict.2.1.handles.oomControl) ∧
      ∀ {origin session : Session}, Succession origin session →
        let policy := origin.watcher.settings.registration
        let path := Cgroup.eventControl origin.watcher.settings.cgroup
        ∃ events steps, session.env.log = origin.env.log ++ events ∧
          session.env.trace = origin.env.trace ++ steps ∧
          events.filter LogEvent.isWarning =
            steps.flatMap (Step.warnings policy path) ∧
          events.countP LogEvent.isWarning =
            if policy = .lenient then steps.countP Step.isShortfall else 0 := by
  refine ⟨?_, ?_, ?_, ?_⟩
  · intro ε write endpoint path text
    exact ⟨rfl, rfl, Registration.verdicts_judge path _ _⟩
  · intro policy path text sink
    rfl
  · intro watcher env
    have compared := watcher.compared_subscribe env
    exact ⟨compared, compared.same_registrations⟩
  · intro origin session succession
    obtain ⟨events, steps, logged, shown, warned⟩ := succession.reports.warns
    refine ⟨events, steps, logged, shown, warned, ?_⟩
    rw [List.countP_eq_length_filter, warned, Step.length_flatMap_warnings]

end Watcher

namespace Session

/-- The sample under the lenient policy with a file for registrations that fails
every write. -/
def lenientSample : Session where
  watcher := (sample fullActions).watcher.under .lenient
  env := (sample fullActions).env

/-- Two watchers, one after the other, register in vain. -/
def relentlessSample : Session :=
  lenientSample.setup.subscribe.replace.run

theorem both_policies_lenientSample :
    Registration.Verdicts sampleCgroup 3 (.ok 9)
        (.error (.registrationIncomplete sampleCgroup 9 3), [])
        (.ok 9, [.registrationIncomplete
          (.registrationIncomplete sampleCgroup 9 3)]) ∧
      Watcher.Compared fullSample.watcher fullSample.env
        ((fullSample.watcher.under .strict).subscribe fullSample.env)
        ((fullSample.watcher.under .lenient).subscribe fullSample.env) ∧
      ((fullSample.watcher.under .strict).subscribe fullSample.env).1 =
        .error (.controlUnavailable (Cgroup.eventControl sampleCgroup)
          (.number 28)) ∧
      ((fullSample.watcher.under .lenient).subscribe fullSample.env).1 =
        .ok () ∧
      Succession lenientSample relentlessSample ∧
      ∃ events steps,
        relentlessSample.env.log = lenientSample.env.log ++ events ∧
        relentlessSample.env.trace = lenientSample.env.trace ++ steps ∧
        events.countP LogEvent.isWarning = 2 ∧
        steps.countP Step.isShortfall = 2 := by
  obtain ⟨judged, _, compared, reported⟩ := Watcher.both_policies
  have succession : Succession lenientSample relentlessSample :=
    .perform (.replace (.perform (.perform .origin .setup) .subscribe)) .run
  obtain ⟨events, steps, logged, shown, _, counted⟩ := reported succession
  have twice : events.countP LogEvent.isWarning = 2 := by
    have before : lenientSample.env.log = [] := by decide +kernel
    rw [before, List.nil_append] at logged
    rw [← logged]
    decide +kernel
  refine ⟨?_, (compared fullSample.watcher fullSample.env).1, ?_, ?_,
    succession, events, steps, logged, shown, twice, ?_⟩
  · have verdicts := (judged Sink.write { writes := [.claim 9] } sampleCgroup
      "3 4").2.2
    exact verdicts
  · decide +kernel
  · decide +kernel
  · exact counted.symm.trans twice

end Session

end MemoryWatch
