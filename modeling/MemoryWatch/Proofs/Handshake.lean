import MemoryWatch.Proofs.Frame
import MemoryWatch.Proofs.Shape

/-!
# The handshake of a subscription

A subscription goes through five conditions: nothing was registered before, the
channel is held, the file for registrations opens, the second control file opens
after it, and the write call takes the whole text, unless the policy is lenient.
It succeeds when all of them are met, and otherwise it fails with the error that
belongs to the first one that is not.  What earlier attempts have left behind
makes no difference to this, and nothing of it is held after a success.
-/

namespace MemoryWatch

/-- A descriptor keeps its open file when others are opened and it stays at its
place. -/
theorem Host.keeps_of_append {before after : Host} {more : List OpenFile}
    {descriptor : Descriptor} {position : Nat} (coherent : before.IsCoherent)
    (openFiles : after.openFiles = before.openFiles ++ more)
    (located : before.position? descriptor = some position)
    (same : after.position? descriptor = before.position? descriptor) :
    Keeps descriptor before after := by
  refine ⟨same, ?_⟩
  rw [openFile?_eq (same.trans located), openFile?_eq located, openFiles]
  exact List.getElem?_append_left (coherent descriptor position located)

namespace Environment

variable {env after : Environment} {path : Path} {access : Access}
  {made : Descriptor}

/-- A path that opens gets a new open file for the node that it names. -/
theorem attach_of_openPath
    (opened : env.openPath path access = (.ok made, after)) :
    ∃ visit content, env.host.tree.resolve path = .ok visit ∧
      Host.contentOf visit.location access visit.node = .ok content ∧
      env.host.attach { content } = (made, after.host) ∧
      after = { env with host := after.host }.record (.opened made) := by
  rw [openPath] at opened
  rcases found : env.host.openPath path access with ⟨cause | number, host⟩
  · simp [found] at opened
  · simp only [found] at opened
    cases opened
    obtain ⟨visit, content, resolved, given, created⟩ := Host.openPath_ok found
    exact ⟨visit, content, resolved, given, Host.create_ok created, rfl⟩

theorem position?_of_openPath
    (opened : env.openPath path access = (.ok made, after))
    (other : Descriptor) :
    after.host.position? other =
      if other = made then some env.host.openFiles.length
      else env.host.position? other := by
  obtain ⟨_, content, _, _, attached, _⟩ := attach_of_openPath opened
  have taken := Host.position?_attach env.host { content } other
  rwa [attached] at taken

theorem host_closeHeld (env : Environment) (held : Option Descriptor) :
    ∃ table, (env.closeHeld held).host = { env.host with table } := by
  cases held with
  | none => exact ⟨env.host.table, rfl⟩
  | some closed => exact ⟨_, rfl⟩

/-- Opening one file and giving up another changes neither the files nor how
many descriptors there may be. -/
theorem host_reopened
    (opened : env.openPath path access = (.ok made, after))
    (held : Option Descriptor) :
    ∃ openFiles table,
      (after.closeHeld held).host = { env.host with openFiles, table } := by
  obtain ⟨_, content, _, _, attached, _⟩ := attach_of_openPath opened
  have host : after.host = (env.host.attach { content }).2 := by
    rw [attached]
  obtain ⟨_, closed⟩ := after.host_closeHeld held
  rw [closed, host]
  exact ⟨_, _, rfl⟩

theorem position?_closeHeld (env : Environment) (held : Option Descriptor)
    (other : Descriptor) :
    (env.closeHeld held).host.position? other =
      if held = some other then none else env.host.position? other := by
  cases held with
  | none => simp [closeHeld]
  | some closed =>
      rw [closeHeld]
      refine (env.host.position?_close closed other).trans ?_
      simp [eq_comm]

@[simp]
theorem openFiles_closeHeld (env : Environment) (held : Option Descriptor) :
    (env.closeHeld held).host.openFiles = env.host.openFiles := by
  cases held <;> rfl

theorem trace_closeHeld (env : Environment) (held : Option Descriptor) :
    (env.closeHeld held).trace =
      env.trace ++ held.toList.map Step.closed := by
  cases held <;> simp [closeHeld, close, record]

end Environment

namespace Watcher

variable {watcher : Watcher} {env ready : Environment}
  {channel control oomControl : Descriptor}

/-- The first control file that a subscription cannot open, and why. -/
inductive Shut (watcher : Watcher) (env : Environment) :
    Path → SystemError → Prop
  | eventControl {cause : SystemError}
      (failed : (env.openPath (Cgroup.eventControl watcher.settings.cgroup)
        .writing).1 = .error cause) :
      Shut watcher env (Cgroup.eventControl watcher.settings.cgroup) cause
  | oomControl {control : Descriptor} {opened : Environment}
      {cause : SystemError}
      (open_ : env.openPath (Cgroup.eventControl watcher.settings.cgroup)
        .writing = (.ok control, opened))
      (failed : ((opened.closeHeld watcher.handles.eventControl).openPath
        (Cgroup.oomControl watcher.settings.cgroup) .reading).1 =
          .error cause) :
      Shut watcher env (Cgroup.oomControl watcher.settings.cgroup) cause

/-- A subscription that cannot open one of the control files keeps everything,
or it gets another handle for the file for registrations. -/
theorem Shut.subscribe_eq {path : Path} {cause : SystemError}
    (shut : watcher.Shut env path cause)
    (unmarked : watcher.handles.registration = none)
    (held : watcher.handles.channel = some channel) :
    watcher.subscribe env =
        (.error (.controlUnavailable path cause), watcher, env) ∨
      ∃ control opened,
        env.openPath (Cgroup.eventControl watcher.settings.cgroup) .writing =
          (.ok control, opened) ∧
        watcher.subscribe env =
          (.error (.controlUnavailable path cause),
            { watcher with
              handles := watcher.handles.put .eventControl (some control) },
            opened.closeHeld watcher.handles.eventControl) := by
  rw [subscribe, unmarked, held]
  dsimp only
  cases shut with
  | eventControl failed =>
      left
      rcases tried : env.openPath
        (Cgroup.eventControl watcher.settings.cgroup) .writing with
        ⟨result, after⟩
      rw [tried] at failed
      cases failed
      rw [Environment.openPath_error tried]
  | @oomControl control opened cause open_ failed =>
      right
      refine ⟨control, opened, open_, ?_⟩
      rw [open_]
      rcases tried : (opened.closeHeld watcher.handles.eventControl).openPath
        (Cgroup.oomControl watcher.settings.cgroup) .reading with
        ⟨result, after⟩
      rw [tried] at failed
      cases failed
      dsimp only
      rw [tried, Environment.openPath_error tried, Handles.put, unmarked, held]

/-- What the write call of a registration answers to the text that names the
channel and the second control file. -/
def registering (control channel oomControl : Descriptor)
    (ready : Environment) : Answer SystemError Nat :=
  (ready.host.write control (Utf8.ofString s!"{channel} {oomControl}")).1

/-- The number of bytes of that text. -/
def textLength (channel oomControl : Descriptor) : Nat :=
  (Utf8.ofString s!"{channel} {oomControl}").length

/-- The conditions under which a subscription succeeds. -/
structure Connects (watcher : Watcher) (env : Environment)
    (channel control oomControl : Descriptor) (ready : Environment) : Prop
    extends OpensControls watcher env channel control oomControl ready where
  taken : watcher.settings.registration = .lenient ∨
    registering control channel oomControl ready =
      .done (textLength channel oomControl)

/-- The first condition of a subscription that is not met, by the error that
tells it. -/
inductive Obstacle (watcher : Watcher) (env : Environment) :
    WatchError → Prop
  | marked {text : String}
      (marked : watcher.handles.registration = some text) :
      Obstacle watcher env
        (.misuse (.alreadySubscribed watcher.settings.cgroup))
  | noChannel (unmarked : watcher.handles.registration = none)
      (unheld : watcher.handles.channel = none) :
      Obstacle watcher env (.misuse .noChannel)
  | shut {channel : Descriptor} {path : Path} {cause : SystemError}
      (unmarked : watcher.handles.registration = none)
      (held : watcher.handles.channel = some channel)
      (shut : watcher.Shut env path cause) :
      Obstacle watcher env (.controlUnavailable path cause)
  | failed {channel control oomControl : Descriptor} {ready : Environment}
      {cause : SystemError}
      (controls : watcher.OpensControls env channel control oomControl ready)
      (strict : watcher.settings.registration = .strict)
      (failed : registering control channel oomControl ready =
        .failed cause) :
      Obstacle watcher env
        (.controlUnavailable (Cgroup.eventControl watcher.settings.cgroup)
          cause)
  | short {channel control oomControl : Descriptor} {ready : Environment}
      {written : Nat}
      (controls : watcher.OpensControls env channel control oomControl ready)
      (strict : watcher.settings.registration = .strict)
      (short : registering control channel oomControl ready = .done written)
      (incomplete : written ≠ textLength channel oomControl) :
      Obstacle watcher env
        (.registrationIncomplete
          (Cgroup.eventControl watcher.settings.cgroup) written
          (textLength channel oomControl))

namespace OpensControls

/-- With both files open, a subscription comes to the registration. -/
theorem subscribe_eq
    (controls : watcher.OpensControls env channel control oomControl ready) :
    watcher.subscribe env =
      Watcher.register
        { watcher with
          handles :=
            { channel := some channel, eventControl := some control,
              oomControl := some oomControl } }
        channel control oomControl ready := by
  obtain ⟨unmarked, held, first, second, opened, further, rfl⟩ := controls
  rcases watcher with
    ⟨settings, cancel, channel, eventControl, oomHeld, registration⟩
  dsimp only at unmarked held opened further ⊢
  subst unmarked held
  simp only [subscribe, opened, further]

/-- A subscription that has opened both control files makes the write call, and
the policy decides by the answer what becomes of the file for registrations. -/
theorem subscribe_cases
    (controls : watcher.OpensControls env channel control oomControl ready)
    (named : Registration.message channel oomControl Registration.capacity =
      .ok s!"{channel} {oomControl}") :
    let judged := (Registration.judge watcher.settings.registration
      (Cgroup.eventControl watcher.settings.cgroup)
      (textLength channel oomControl)
      (Registration.outcome (registering control channel oomControl ready))).1
    ∃ after,
      Registration.Writes control (Utf8.ofString s!"{channel} {oomControl}")
          (registering control channel oomControl ready) ready after ∧
        ((∃ error, judged = .error error ∧
            watcher.subscribe env =
              (.error error,
                { watcher with
                  handles :=
                    { channel := some channel, eventControl := some control,
                      oomControl := some oomControl,
                      registration := some s!"{channel} {oomControl}" } },
                after)) ∨
          ∃ written event, judged = .ok written ∧
            watcher.subscribe env =
              (.ok (),
                { watcher with
                  handles :=
                    { channel := some channel, oomControl := some oomControl,
                      registration := some s!"{channel} {oomControl}" } },
                (after.close control).note event)) := by
  rw [controls.subscribe_eq, register]
  dsimp only
  rw [named]
  simp only [Registration.register, Registration.writeControl_eq,
    Environment.note, textLength, registering]
  generalize Registration.judge _ _ _ _ = judged
  rcases judged with ⟨error | written, warnings⟩
  · refine ⟨_, ?_, Or.inl ⟨error, rfl, rfl⟩⟩
    exact ⟨rfl, rfl, rfl, rfl⟩
  · refine ⟨_, ?_, Or.inr ⟨written, _, rfl, rfl⟩⟩
    exact ⟨rfl, rfl, rfl, rfl⟩

/-- The result of a subscription that has come to its write call is what the
policy makes of the answer. -/
theorem result_eq
    (controls : watcher.OpensControls env channel control oomControl ready)
    (named : Registration.message channel oomControl Registration.capacity =
      .ok s!"{channel} {oomControl}") :
    (watcher.subscribe env).1 =
      (Registration.judge watcher.settings.registration
        (Cgroup.eventControl watcher.settings.cgroup)
        (textLength channel oomControl)
        (Registration.outcome
          (registering control channel oomControl ready))).1.map
        fun _ => () := by
  obtain ⟨_, _, ⟨error, judged, result⟩ | ⟨written, _, judged, result⟩⟩ :=
    controls.subscribe_cases named
  · rw [result, judged]
    rfl
  · rw [result, judged]
    rfl

/-- The table of descriptors after both control files were opened. -/
theorem position?_eq
    (controls : watcher.OpensControls env channel control oomControl ready)
    (vacant : watcher.handles.oomControl = none) (other : Descriptor) :
    ready.host.position? other =
      if other = oomControl then some (env.host.openFiles.length + 1)
      else if watcher.handles.eventControl = some other then none
      else if other = control then some env.host.openFiles.length
      else env.host.position? other := by
  obtain ⟨first, second, opened, further, rfl⟩ := controls.opened
  obtain ⟨_, content, _, _, attached, _⟩ :=
    Environment.attach_of_openPath opened
  have openFiles := Host.openFiles_attach env.host { content }
  rw [attached] at openFiles
  rw [vacant, Environment.closeHeld,
    Environment.position?_of_openPath further,
    Environment.openFiles_closeHeld, openFiles, List.length_append,
    List.length_singleton, Environment.position?_closeHeld,
    Environment.position?_of_openPath opened]

theorem openFiles_eq
    (controls : watcher.OpensControls env channel control oomControl ready) :
    ∃ first second, ready.host.openFiles =
      env.host.openFiles ++ [{ content := first }, { content := second }] := by
  obtain ⟨opened, further, opens, reopens, rfl⟩ := controls.opened
  obtain ⟨_, first, _, _, attached, _⟩ := Environment.attach_of_openPath opens
  obtain ⟨_, second, _, _, reattached, _⟩ :=
    Environment.attach_of_openPath reopens
  have openFiles := Host.openFiles_attach env.host { content := first }
  have reopened := Host.openFiles_attach
    (opened.closeHeld watcher.handles.eventControl).host { content := second }
  rw [attached] at openFiles
  rw [reattached, Environment.openFiles_closeHeld, openFiles] at reopened
  exact ⟨first, second, by simpa using reopened⟩

theorem trace_eq
    (controls : watcher.OpensControls env channel control oomControl ready)
    (vacant : watcher.handles.oomControl = none) :
    ready.trace = env.trace ++ .opened control ::
      (watcher.handles.eventControl.toList.map Step.closed ++
        [.opened oomControl]) := by
  obtain ⟨first, second, opened, further, rfl⟩ := controls.opened
  obtain ⟨_, _, _, _, _, opens⟩ := Environment.attach_of_openPath opened
  obtain ⟨_, _, _, _, _, reopens⟩ := Environment.attach_of_openPath further
  rw [vacant, Environment.closeHeld, reopens, Environment.record,
    Environment.trace_closeHeld, opens, Environment.record]
  simp

/-- The numbers of the new descriptors were free, unless the second one is that
of the handle that was given up. -/
theorem free
    (controls : watcher.OpensControls env channel control oomControl ready)
    (coherent : env.host.IsCoherent) :
    env.host.position? control = none ∧
      (watcher.handles.eventControl = some oomControl ∨
        env.host.position? oomControl = none) := by
  obtain ⟨first, second, opened, further, _⟩ := controls.opened
  have opens := Environment.opens_openPath coherent opened
  have between := Environment.isCoherent_closeHeld opens.makes.coherent
    watcher.handles.eventControl
  have free := (Environment.opens_openPath between further).makes.free
  refine ⟨opens.makes.free, ?_⟩
  rw [Environment.position?_closeHeld,
    Environment.position?_of_openPath opened] at free
  split at free
  · next held => exact Or.inl held
  · split at free
    · cases free
    · exact Or.inr free

theorem host_eq
    (controls : watcher.OpensControls env channel control oomControl ready) :
    ∃ openFiles table, ready.host = { env.host with openFiles, table } := by
  obtain ⟨first, second, opened, further, rfl⟩ := controls.opened
  obtain ⟨_, _, halfway⟩ := Environment.host_reopened opened
    watcher.handles.eventControl
  obtain ⟨_, _, ended⟩ := Environment.host_reopened further
    watcher.handles.oomControl
  rw [ended, halfway]
  exact ⟨_, _, rfl⟩

/-- The second control file is open for reading what its path names. -/
theorem opensOomControl
    (controls : watcher.OpensControls env channel control oomControl ready)
    (vacant : watcher.handles.oomControl = none) :
    ∃ visit content,
      env.host.tree.resolve (Cgroup.oomControl watcher.settings.cgroup) =
          .ok visit ∧
        Host.contentOf visit.location .reading visit.node = .ok content ∧
        ready.host.openFile? oomControl = some { content } := by
  obtain ⟨first, second, opened, further, rfl⟩ := controls.opened
  obtain ⟨visit, content, resolved, given, file⟩ :=
    Environment.file_of_openPath further
  have scene := env.scene_openPath
    (Cgroup.eventControl watcher.settings.cgroup) .writing
  rw [opened] at scene
  have tree : (first.closeHeld watcher.handles.eventControl).host.tree =
      env.host.tree :=
    congrArg Scene.tree ((first.scene_closeHeld _).trans scene)
  rw [tree] at resolved
  rw [vacant]
  exact ⟨visit, content, resolved, given, file⟩

end OpensControls

/-- Nothing stands in the way of a subscription, or something does. -/
theorem connects_or_obstacle (watcher : Watcher) (env : Environment)
    (answered : ∀ {channel control oomControl ready},
      watcher.OpensControls env channel control oomControl ready →
        registering control channel oomControl ready ≠ .blocked) :
    (∃ channel control oomControl ready,
        watcher.Connects env channel control oomControl ready) ∨
      ∃ error, watcher.Obstacle env error := by
  cases unmarked : watcher.handles.registration with
  | some text => exact Or.inr ⟨_, .marked unmarked⟩
  | none =>
  cases held : watcher.handles.channel with
  | none => exact Or.inr ⟨_, .noChannel unmarked held⟩
  | some channel =>
  rcases opened : env.openPath (Cgroup.eventControl watcher.settings.cgroup)
    .writing with ⟨cause | control, first⟩
  · exact Or.inr ⟨_, .shut unmarked held (.eventControl (by rw [opened]))⟩
  rcases further : (first.closeHeld watcher.handles.eventControl).openPath
    (Cgroup.oomControl watcher.settings.cgroup) .reading with
    ⟨cause | oomControl, second⟩
  · exact Or.inr
      ⟨_, .shut unmarked held (.oomControl opened (by rw [further]))⟩
  have controls : watcher.OpensControls env channel control oomControl
      (second.closeHeld watcher.handles.oomControl) :=
    ⟨unmarked, held, first, second, opened, further, rfl⟩
  cases policy : watcher.settings.registration with
  | lenient => exact Or.inl ⟨_, _, _, _, controls, Or.inl policy⟩
  | strict =>
  cases answer : registering control channel oomControl
      (second.closeHeld watcher.handles.oomControl) with
  | blocked => exact absurd answer (answered controls)
  | failed cause => exact Or.inr ⟨_, .failed controls policy answer⟩
  | done written =>
  by_cases whole : written = textLength channel oomControl
  · subst whole
    exact Or.inl ⟨_, _, _, _, controls, Or.inr answer⟩
  · exact Or.inr ⟨_, .short controls policy answer whole⟩

section Named

variable (named : ∀ {channel control oomControl ready},
  watcher.OpensControls env channel control oomControl ready →
    Registration.message channel oomControl Registration.capacity =
      .ok s!"{channel} {oomControl}")

include named

theorem Connects.subscribe_ok
    (connects : watcher.Connects env channel control oomControl ready) :
    (watcher.subscribe env).1 = .ok () := by
  have controls := connects.toOpensControls
  rw [controls.result_eq (named controls)]
  rcases connects.taken with policy | answer
  · rw [policy]
    cases registering control channel oomControl ready with
    | done written =>
        simp only [Registration.outcome, Registration.judge]
        split <;> rfl
    | failed cause | blocked => rfl
  · rw [answer]
    simp [Registration.outcome, Registration.judge, Except.map]

theorem Obstacle.subscribe_error {error : WatchError}
    (obstacle : watcher.Obstacle env error) :
    (watcher.subscribe env).1 = .error error := by
  cases obstacle with
  | marked marked => rw [subscribe, marked]
  | noChannel unmarked unheld => rw [subscribe, unmarked, unheld]
  | shut unmarked held shut =>
      obtain same | ⟨_, _, _, left⟩ := shut.subscribe_eq unmarked held
      · rw [same]
      · rw [left]
  | failed controls strict failed =>
      rw [controls.result_eq (named controls), strict, failed]
      rfl
  | short controls strict short incomplete =>
      rw [controls.result_eq (named controls), strict, short]
      simp [Registration.outcome, Registration.judge, incomplete, Except.map]

end Named

end Watcher

namespace WellFormed

variable {settings : Settings} {session : Session}
  {channel control oomControl : Descriptor} {ready : Environment}

theorem vacant (formed : WellFormed settings session)
    (unmarked : session.watcher.handles.registration = none) :
    session.watcher.handles.oomControl = none :=
  formed.shape.oomControl_eq_none unmarked

/-- What a subscription holds when it comes to its write call. -/
theorem holds_of_opensControls (formed : WellFormed settings session)
    (controls : session.watcher.OpensControls session.env channel control
      oomControl ready) :
    Watcher.Holds
      { session.watcher with
        handles :=
          { channel := some channel, eventControl := some control,
            oomControl := some oomControl } } ready :=
  (controls.exchanges formed.holds (formed.vacant controls.unmarked)).holds
    formed.holds

/-- The text of a registration is never too long. -/
theorem named (formed : WellFormed settings session)
    (controls : session.watcher.OpensControls session.env channel control
      oomControl ready) :
    Registration.message channel oomControl Registration.capacity =
      .ok s!"{channel} {oomControl}" := by
  have holds := formed.holds_of_opensControls controls
  have limit : Host.tableLimit < 2 ^ 31 := by decide
  exact Registration.message_eq_ok
    (lt_trans (holds.below .channel channel rfl) limit)
    (lt_trans (holds.below .oomControl oomControl rfl) limit)

theorem takes (formed : WellFormed settings session)
    (controls : session.watcher.OpensControls session.env channel control
      oomControl ready) {bytes : List UInt8}
    {answer : Answer SystemError Nat} {after : Environment}
    (writes : Registration.Writes control bytes answer ready after) :
    answer ≠ .blocked ∧
      ∃ tree, after.host = { ready.host with tree } ∧
        session.env.host.tree.Takes
          (Cgroup.eventControl session.watcher.settings.cgroup)
          (session.env.host.storage.takes bytes) tree ∧
        (answer = .done bytes.length →
          session.env.host.tree.Takes
            (Cgroup.eventControl session.watcher.settings.cgroup)
            bytes tree) :=
  controls.takes formed.holds.coherent formed.holds.placed writes

theorem answered (formed : WellFormed settings session)
    (controls : session.watcher.OpensControls session.env channel control
      oomControl ready) :
    Watcher.registering control channel oomControl ready ≠ .blocked := by
  let bytes := Utf8.ofString s!"{channel} {oomControl}"
  let answer := (ready.host.write control bytes).1
  have writes : Registration.Writes control bytes answer ready
      ({ ready with host := (ready.host.write control bytes).2 }.record
        (.registered bytes answer)) :=
    ⟨rfl, rfl, rfl, rfl⟩
  exact (formed.takes controls writes).1

end WellFormed

namespace Session

/-- What a subscription that has succeeded leaves behind.  It has made one new
open file that is still there, for the second control file; the file for
registrations is closed, and so is the one that an earlier attempt left. -/
structure Connected (session : Session)
    (channel control oomControl : Descriptor)
    (answer : Answer SystemError Nat) : Prop where
  held : session.watcher.handles.channel = some channel
  watcher : session.subscribe.watcher =
    { session.watcher with
      handles :=
        { channel := some channel, oomControl := some oomControl,
          registration := some s!"{channel} {oomControl}" } }
  table : ∀ descriptor, session.subscribe.env.host.position? descriptor =
    if descriptor = oomControl then
      some (session.env.host.openFiles.length + 1)
    else if descriptor = control ∨
        session.watcher.handles.eventControl = some descriptor then none
    else session.env.host.position? descriptor
  openFiles : ∃ first second, session.subscribe.env.host.openFiles =
    session.env.host.openFiles ++ [{ content := first }, { content := second }]
  listens : ∃ visit content,
    session.env.host.tree.resolve
        (Cgroup.oomControl session.watcher.settings.cgroup) = .ok visit ∧
      Host.contentOf visit.location .reading visit.node = .ok content ∧
      session.subscribe.env.host.openFile? oomControl = some { content }
  keeps : Host.Keeps channel session.env.host session.subscribe.env.host
  trace : session.subscribe.env.trace =
    session.env.trace ++ .opened control ::
      (session.watcher.handles.eventControl.toList.map Step.closed ++
        [.opened oomControl,
          .registered (Utf8.ofString s!"{channel} {oomControl}") answer,
          .closed control])
  files : session.env.host.tree.Takes
    (Cgroup.eventControl session.watcher.settings.cgroup)
    (session.env.host.storage.takes
      (Utf8.ofString s!"{channel} {oomControl}"))
    session.subscribe.env.host.tree
  whole : session.watcher.settings.registration = .strict →
    answer = .done (Watcher.textLength channel oomControl) ∧
      session.env.host.tree.Takes
        (Cgroup.eventControl session.watcher.settings.cgroup)
        (Utf8.ofString s!"{channel} {oomControl}")
        session.subscribe.env.host.tree

/-- A subscription succeeds when its conditions are met, and fails with the
error of the first that is not. -/
structure Handshake (session : Session) : Prop where
  ok_iff : (session.watcher.subscribe session.env).1 = .ok () ↔
    ∃ channel control oomControl ready,
      session.watcher.Connects session.env channel control oomControl ready
  error_iff : ∀ error,
    (session.watcher.subscribe session.env).1 = .error error ↔
      session.watcher.Obstacle session.env error
  fits : ∀ text capacity, (session.watcher.subscribe session.env).1 ≠
    .error (.messageTooLong text capacity)
  connected : (session.watcher.subscribe session.env).1 = .ok () →
    ∃ channel control oomControl answer,
      session.Connected channel control oomControl answer

end Session

namespace WellFormed

variable {settings : Settings} {session : Session}

theorem connected (formed : WellFormed settings session)
    (succeeded : (session.watcher.subscribe session.env).1 = .ok ()) :
    ∃ channel control oomControl answer,
      session.Connected channel control oomControl answer := by
  have subscribing := session.watcher.subscribing_subscribe session.env
  have reached : session.subscribe =
      ⟨(session.watcher.subscribe session.env).2.1,
        (session.watcher.subscribe session.env).2.2⟩ := rfl
  generalize (session.watcher.subscribe session.env).2.1 = next
    at subscribing reached
  generalize (session.watcher.subscribe session.env).2.2 = after
    at subscribing reached
  rw [succeeded] at subscribing
  cases subscribing with
  | @accepted channel control oomControl ready written text answer event
      controls named writes passed =>
  obtain rfl := Registration.eq_of_message named
  have vacant := formed.vacant controls.unmarked
  have holds := formed.holds_of_opensControls controls
  have controlsApart : control ≠ oomControl :=
    holds.apart .eventControl .oomControl (by simp) rfl rfl
  obtain ⟨_, tree, host, took, whole⟩ := formed.takes controls writes
  obtain ⟨first, second, openFiles⟩ := controls.openFiles_eq
  have position (descriptor : Descriptor) :
      ((written.close control).note event).host.position? descriptor =
        if descriptor = control then none
        else ready.host.position? descriptor := by
    refine (written.host.position?_close control descriptor).trans ?_
    rw [host]
    rfl
  have table (descriptor : Descriptor) :
      ((written.close control).note event).host.position? descriptor =
        if descriptor = oomControl then
          some (session.env.host.openFiles.length + 1)
        else if descriptor = control ∨
            session.watcher.handles.eventControl = some descriptor then none
        else session.env.host.position? descriptor := by
    rw [position, controls.position?_eq vacant]
    by_cases same : descriptor = control
    · subst same
      simp [controlsApart]
    · simp [same]
  have files : ((written.close control).note event).host.openFiles =
      session.env.host.openFiles ++
        [{ content := first }, { content := second }] := by
    rw [← openFiles]
    change written.host.openFiles = ready.host.openFiles
    rw [host]
  obtain ⟨place, located⟩ :=
    formed.holds.placed .channel channel controls.held
  have channelPlace : ((written.close control).note event).host.position?
      channel = session.env.host.position? channel := by
    have unheld : session.watcher.handles.eventControl ≠ some channel :=
      fun held => absurd (formed.holds.distinct .channel .eventControl channel
        controls.held held) (by simp)
    rw [table, if_neg (holds.apart .channel .oomControl (by simp) rfl rfl),
      if_neg]
    rintro (same | left)
    · exact holds.apart .channel .eventControl (by simp) rfl rfl same
    · exact unheld left
  obtain ⟨visit, content, resolved, given, file⟩ :=
    controls.opensOomControl vacant
  have stays : Host.Keeps oomControl ready.host
      ((written.close control).note event).host := by
    have wrote : Host.Keeps oomControl ready.host written.host := by
      rw [host]
      exact ⟨rfl, rfl⟩
    exact wrote.trans (Host.keeps_close _ controlsApart.symm)
  refine ⟨channel, control, oomControl, answer, ?_⟩
  constructor
  case held => exact controls.held
  case watcher => rw [reached]
  case table => rwa [reached]
  case openFiles => exact ⟨first, second, by rw [reached, files]⟩
  case listens =>
    rw [reached]
    exact ⟨visit, content, resolved, given, stays.file.trans file⟩
  case keeps =>
    rw [reached]
    exact Host.keeps_of_append formed.holds.coherent files located channelPlace
  case trace =>
    have wrote := controls.trace_eq vacant
    rw [reached]
    change written.trace ++ [Step.closed control] = _
    rw [writes.trace, wrote]
    simp
  case files =>
    rw [reached]
    change session.env.host.tree.Takes _ _ written.host.tree
    rwa [host]
  case whole =>
    intro strict
    have full : answer = .done (Watcher.textLength channel oomControl) := by
      rcases passed with lenient | full
      · rw [strict] at lenient
        cases lenient
      · exact full
    refine ⟨full, ?_⟩
    rw [reached]
    change session.env.host.tree.Takes _ _ written.host.tree
    rw [host]
    exact whole full

/-- The conditions decide between success and each of the errors. -/
theorem handshakes (formed : WellFormed settings session) :
    session.Handshake := by
  have refuses {error : WatchError}
      (obstacle : session.watcher.Obstacle session.env error) :
      (session.watcher.subscribe session.env).1 = .error error :=
    obstacle.subscribe_error formed.named
  have decided := session.watcher.connects_or_obstacle session.env
    formed.answered
  constructor
  case ok_iff =>
    constructor
    · intro succeeded
      obtain connects | ⟨error, obstacle⟩ := decided
      · exact connects
      · rw [refuses obstacle] at succeeded
        cases succeeded
    · rintro ⟨channel, control, oomControl, ready, connects⟩
      exact connects.subscribe_ok formed.named
  case error_iff =>
    intro error
    constructor
    · intro failed
      obtain ⟨_, _, _, _, connects⟩ | ⟨other, obstacle⟩ := decided
      · rw [connects.subscribe_ok formed.named] at failed
        cases failed
      · cases (refuses obstacle).symm.trans failed
        exact obstacle
    · exact refuses
  case fits =>
    intro text capacity failed
    obtain ⟨_, _, _, _, connects⟩ | ⟨other, obstacle⟩ := decided
    · rw [connects.subscribe_ok formed.named] at failed
      cases failed
    · cases (refuses obstacle).symm.trans failed
      cases obstacle
  case connected => exact formed.connected

end WellFormed

/-- After any operations of a new watcher, whatever they came to and whatever
others did to the host except taking away what the watcher holds, a subscription
succeeds exactly when nothing was registered, the channel is held, both control
files open and the write call takes the text or may fail.  Otherwise it answers
with the error of the first of these that is not so.  After a success the
channel is the same, the other handle is for a new open file, and the text that
was written names the two. -/
theorem Course.handshake {origin session : Session}
    (empty : origin.watcher.handles = {})
    (coherent : origin.env.host.IsCoherent)
    (course : Course Watcher.Spares origin session) : session.Handshake :=
  (course.keeps (WellFormed.kept origin.watcher.settings)
    (.of_empty empty coherent)).handshakes

namespace Session

/-- The second attempt of the sample succeeds.  The handle that the first one
left is given up, and its number is used again. -/
theorem handshake_halfwaySample :
    (sample partialActions).watcher.handles = {} ∧
      (sample partialActions).env.host.IsCoherent ∧
      Course Watcher.Spares (sample partialActions) halfwaySample ∧
      halfwaySample.watcher.handles.eventControl = some 5 ∧
      halfwaySample.Handshake ∧
      ∃ control answer, halfwaySample.Connected 4 control 5 answer := by
  have coherent : (sample partialActions).env.host.IsCoherent := by
    decide +kernel
  have failed : Course Watcher.Spares (sample partialActions) failedSample :=
    .perform (.perform .origin .setup) .subscribe
  have formed := failed.keeps (WellFormed.kept _)
    (WellFormed.of_empty rfl coherent)
  have course : Course Watcher.Spares (sample partialActions) halfwaySample :=
    .outside failed (formed.holds.spares_act 4 _)
  have handshake := course.handshake rfl coherent
  obtain ⟨channel, control, oomControl, answer, connected⟩ :=
    handshake.connected (by decide +kernel)
  have numbers : halfwaySample.subscribe.watcher.handles.channel = some 4 ∧
      halfwaySample.subscribe.watcher.handles.oomControl = some 5 := by
    decide +kernel
  rw [connected.watcher] at numbers
  obtain ⟨⟨⟩, ⟨⟩⟩ := numbers
  exact ⟨rfl, coherent, course, by decide +kernel, handshake, control, answer,
    connected⟩

end Session

end MemoryWatch
