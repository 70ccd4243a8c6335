import MemoryWatch.Proofs.Parallel
import MemoryWatch.Proofs.Vacancy

/-!
# What comes of a registration

A subscription that opens both control files makes one write call, and what the
policy makes of the answer is what it comes to.  It changes nothing but the file
for registrations, in which the two numbers are written, and the handles: the
second control file is held, and the first one only after a failure.
-/

namespace MemoryWatch

/-- The handles after a subscription that has come to its write call. -/
def Handles.enlisted (channel control oomControl : Descriptor)
    (result : Except WatchError Unit) : Handles where
  channel := some channel
  eventControl :=
    match result with
    | .ok () => none
    | .error _ => some control
  oomControl := some oomControl
  registration := some s!"{channel} {oomControl}"

/-- The same handles are held when the results are the same. -/
theorem Handles.same_enlisted {result other : Except WatchError Unit}
    (same : Answer.Same (.ofExcept result) (.ofExcept other))
    (channel control oomControl controlTwin oomTwin : Descriptor) :
    (enlisted channel control oomControl result).Same
      (enlisted channel controlTwin oomTwin other) where
  held kind := by
    cases kind with
    | channel | oomControl => rfl
    | eventControl => cases result <;> cases other <;> first | rfl | cases same
  registration := rfl

/-- What the policy makes of the answer to the write call. -/
def Watcher.verdict (watcher : Watcher) (channel oomControl : Descriptor)
    (answer : Answer SystemError Nat) : Except WatchError Unit :=
  (Registration.judge watcher.settings.registration
    (Cgroup.eventControl watcher.settings.cgroup)
    (textLength channel oomControl) (Registration.outcome answer)).1.map
    fun _ => ()

theorem Answer.Same.of_sameVerdict
    {judged counterpart : Except WatchError Nat × List LogEvent}
    (same : Registration.SameVerdict judged counterpart) :
    Answer.Same (.ofExcept (judged.1.map fun _ => ()))
      (.ofExcept (counterpart.1.map fun _ => ())) := by
  cases same with
  | rejected same warnings copies => exact .failed same
  | passed written copied warnings copies => exact .done ()

namespace Session

/-- The host without the file for registrations that an attempt has left
open. -/
def bare (session : Session) : Host :=
  (session.env.closeHeld session.watcher.handles.eventControl).host

theorem host_bare (session : Session) :
    ∃ table, session.bare = { session.env.host with table } :=
  session.env.host_closeHeld session.watcher.handles.eventControl

theorem openCount_bare {session : Session}
    (holds : session.watcher.Holds session.env) :
    session.env.host.openCount = session.bare.openCount +
      if session.watcher.handles.eventControl.isSome = true then 1 else 0 := by
  rw [bare]
  cases held : session.watcher.handles.eventControl with
  | none => rfl
  | some descriptor =>
      obtain ⟨position, located⟩ :=
        holds.placed .eventControl descriptor held
      exact (Host.openCount_close located).symm

/-- The host without the control files that the watcher holds. -/
def stripped (session : Session) : Host :=
  ((session.env.closeHeld session.watcher.handles.eventControl).closeHeld
    session.watcher.handles.oomControl).host

/-- What comes of a subscription that makes its write call, with the numbers
that it uses and the answer that it gets. -/
structure Enlisted (session : Session)
    (channel control oomControl : Descriptor)
    (answer : Answer SystemError Nat) : Prop where
  result : (session.watcher.subscribe session.env).1 =
    session.watcher.verdict channel oomControl answer
  watcher : session.subscribe.watcher =
    { session.watcher with
      handles := .enlisted channel control oomControl
        (session.watcher.verdict channel oomControl answer) }
  written : session.subscribe.env.trace.filter Step.isRegistration =
    session.env.trace.filter Step.isRegistration ++
      [.registered (Utf8.ofString s!"{channel} {oomControl}") answer]
  files : session.env.host.tree.Takes
    (Cgroup.eventControl session.watcher.settings.cgroup)
    (session.env.host.storage.takes
      (Utf8.ofString s!"{channel} {oomControl}"))
    session.subscribe.env.host.tree
  listens : ∃ visit content,
    session.env.host.tree.resolve
        (Cgroup.oomControl session.watcher.settings.cgroup) = .ok visit ∧
      Host.contentOf visit.location .reading visit.node = .ok content ∧
      session.subscribe.env.host.openFile? oomControl = some { content }
  rest : session.bare.Resembles session.subscribe.stripped

end Session

namespace WellFormed

variable {settings : Settings} {session : Session}
  {channel control oomControl : Descriptor} {ready : Environment}

/-- Apart from the control files, the host is as it was before. -/
theorem resembles_of_opensControls (formed : WellFormed settings session)
    (controls : session.watcher.OpensControls session.env channel control
      oomControl ready) {after : Host}
    (openFiles : after.openFiles = ready.host.openFiles)
    (allowance : after.allowance = ready.host.allowance)
    (storage : after.storage = ready.host.storage)
    (position : ∀ descriptor, after.position? descriptor =
      if descriptor = oomControl ∨ descriptor = control then none
      else ready.host.position? descriptor) :
    session.bare.Resembles after := by
  have coherent := formed.holds.coherent
  obtain ⟨_, bare⟩ :=
    session.env.host_closeHeld session.watcher.handles.eventControl
  obtain ⟨_, _, host⟩ := controls.host_eq
  obtain ⟨first, second, files⟩ := controls.openFiles_eq
  obtain ⟨controlFree, oomFree⟩ := controls.free coherent
  refine .of_position [{ content := first }, { content := second }]
    (Environment.isCoherent_closeHeld coherent _) ?_ ?_ ?_ ?_
  · rw [Session.bare, Environment.openFiles_closeHeld, openFiles, files]
  · intro descriptor
    rw [position, Session.bare, Environment.position?_closeHeld,
      controls.position?_eq (formed.vacant controls.unmarked)]
    by_cases second : descriptor = oomControl
    · subst second
      rcases oomFree with held | free
      · simp [held]
      · simp [free]
    · by_cases first : descriptor = control
      · subst first
        simp [controlFree]
      · simp [first, second]
  · rw [allowance, host, Session.bare, bare]
  · rw [storage, host, Session.bare, bare]

/-- The files are those that the write call leaves. -/
theorem tree_subscribe (formed : WellFormed settings session)
    (controls : session.watcher.OpensControls session.env channel control
      oomControl ready) :
    session.subscribe.env.host.tree = (ready.host.write control
      (Utf8.ofString s!"{channel} {oomControl}")).2.tree := by
  obtain ⟨after, writes, outcome⟩ :=
    controls.subscribe_cases (formed.named controls)
  rw [← writes.host]
  obtain ⟨_, _, subscribed⟩ | ⟨_, _, _, subscribed⟩ := outcome
  · rw [Session.subscribe, subscribed]
  · rw [Session.subscribe, subscribed]
    rfl

theorem enlisted (formed : WellFormed settings session)
    (controls : session.watcher.OpensControls session.env channel control
      oomControl ready) :
    session.Enlisted channel control oomControl
      (Watcher.registering control channel oomControl ready) := by
  have named := formed.named controls
  have vacant := formed.vacant controls.unmarked
  have result := controls.result_eq named
  obtain ⟨after, writes, outcome⟩ := controls.subscribe_cases named
  obtain ⟨_, tree, host, took, _⟩ := formed.takes controls writes
  have trace : after.trace.filter Step.isRegistration =
      session.env.trace.filter Step.isRegistration ++
        [.registered (Utf8.ofString s!"{channel} {oomControl}")
          (Watcher.registering control channel oomControl ready)] := by
    rw [writes.trace, controls.trace_eq vacant]
    simp [List.filter_append, List.filter_cons, Step.isRegistration]
  have rest : session.bare.Resembles
      ((after.host.close control).close oomControl) := by
    rw [host]
    refine formed.resembles_of_opensControls controls rfl rfl rfl ?_
    intro descriptor
    rw [Host.position?_close, Host.position?_close]
    by_cases second : descriptor = oomControl
    · simp [second]
    · simp only [second, if_false, false_or]
      rfl
  obtain ⟨visit, content, resolved, given, file⟩ :=
    controls.opensOomControl vacant
  have listens : after.host.openFile? oomControl = some { content } := by
    rw [host]
    exact file
  have apart : oomControl ≠ control :=
    (formed.holds_of_opensControls controls).apart .oomControl .eventControl
      (by simp) rfl rfl
  rcases outcome with ⟨error, judged, subscribed⟩ |
    ⟨written, event, judged, subscribed⟩
  · have verdict : session.watcher.verdict channel oomControl
        (Watcher.registering control channel oomControl ready) =
          .error error := by
      rw [Watcher.verdict, judged]
      rfl
    have reached : session.subscribe =
        ⟨{ session.watcher with
            handles := .enlisted channel control oomControl (.error error) },
          after⟩ := by
      rw [Session.subscribe, subscribed]
      rfl
    refine ⟨result, ?_, ?_, ?_, ?_, ?_⟩
    · rw [reached, verdict]
    · rw [reached, trace]
    · rwa [reached, host]
    · rw [reached]
      exact ⟨visit, content, resolved, given, listens⟩
    · rw [reached]
      exact rest
  · have verdict : session.watcher.verdict channel oomControl
        (Watcher.registering control channel oomControl ready) = .ok () := by
      rw [Watcher.verdict, judged]
      rfl
    have reached : session.subscribe =
        ⟨{ session.watcher with
            handles := .enlisted channel control oomControl (.ok ()) },
          (after.close control).note event⟩ := by
      rw [Session.subscribe, subscribed]
      rfl
    refine ⟨result, ?_, ?_, ?_, ?_, ?_⟩
    · rw [reached, verdict]
    · rw [reached]
      change (after.trace ++ [Step.closed control]).filter _ = _
      rw [List.filter_append, trace]
      exact List.append_nil _
    · rw [reached]
      change session.env.host.tree.Takes _ _ after.host.tree
      rwa [host]
    · rw [reached]
      exact ⟨visit, content, resolved, given,
        (Host.keeps_close after.host apart).file.trans listens⟩
    · rw [reached]
      exact rest

end WellFormed

end MemoryWatch
