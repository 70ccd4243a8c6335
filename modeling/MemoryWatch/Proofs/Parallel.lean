import MemoryWatch.Proofs.Census
import MemoryWatch.Proofs.Lockstep
import MemoryWatch.Proofs.Numbering

/-!
# Operations side by side

Two watchers with handles of the same kinds, on two hosts with the same files,
make their channels, subscribe, ask for a notifier and clean up in the same way.
Both get what they ask for or both fail with the same cause, they go on to hold
handles of the same kinds, and the files stay the same up to the text of the
registrations.
-/

namespace MemoryWatch

/-- Handles of the same kinds are held, and both watchers have written a
registration or neither has. -/
structure Handles.Same (handles other : Handles) : Prop where
  held : ∀ kind,
    (other.descriptor? kind).isSome = (handles.descriptor? kind).isSome
  registration : other.registration.isSome = handles.registration.isSome

theorem Handles.Same.channel {handles other : Handles}
    (same : handles.Same other) :
    (handles.channel = none ∧ other.channel = none) ∨
      ∃ channel counterpart, handles.channel = some channel ∧
        other.channel = some counterpart :=
  both_or_neither (same.held .channel)

theorem Handles.Same.put {handles other : Handles} (same : handles.Same other)
    (kind : HandleKind) {descriptor counterpart : Option Descriptor}
    (both : counterpart.isSome = descriptor.isSome) :
    (handles.put kind descriptor).Same (other.put kind counterpart) where
  held made := by
    rw [descriptor?_put, descriptor?_put]
    split
    · exact both
    · exact same.held made
  registration := by
    cases kind <;> exact same.registration

/-- A registration was written by both. -/
theorem Handles.Same.mark {handles other : Handles} (same : handles.Same other)
    (text copy : String) :
    { handles with registration := some text : Handles }.Same
      { other with registration := some copy } where
  held kind := by
    have held := same.held kind
    cases kind <;> exact held
  registration := rfl

theorem Handles.Same.count {handles other : Handles}
    (same : handles.Same other) : other.count = handles.count := by
  have channel := same.held .channel
  have eventControl := same.held .eventControl
  have oomControl := same.held .oomControl
  dsimp only [descriptor?] at channel eventControl oomControl
  rw [Handles.count, Handles.count, Handles.held, Handles.held]
  simp only [List.length_append, Option.length_toList, Option.isSome_map,
    channel, eventControl, oomControl]

namespace Registration

/-- Both registrations are rejected, or both are let pass. -/
inductive SameVerdict : Except WatchError Nat × List LogEvent →
    Except WatchError Nat × List LogEvent → Prop
  | rejected {error other : WatchError} (same : error.Same other)
      (warnings copies : List LogEvent) :
      SameVerdict (.error error, warnings) (.error other, copies)
  | passed (written copied : Nat) (warnings copies : List LogEvent) :
      SameVerdict (.ok written, warnings) (.ok copied, copies)

theorem judge_alike {length other : Nat} {answer counterpart :
      Answer SystemError Nat}
    (taken : SameTake length other answer counterpart)
    (policy : RegistrationPolicy) (path : Path) :
    SameVerdict (judge policy path length (outcome answer))
      (judge policy path other (outcome counterpart)) := by
  cases taken with
  | whole =>
      simp only [outcome, judge, if_true]
      exact .passed _ _ _ _
  | short missing less twinLess =>
      simp only [outcome, judge, Nat.ne_of_lt less, Nat.ne_of_lt twinLess,
        if_false]
      cases policy with
      | strict => exact .rejected (.incomplete path missing _ _) _ _
      | lenient => exact .passed _ _ _ _
  | failed cause =>
      cases policy with
      | strict => exact .rejected (.refl _) _ _
      | lenient => exact .passed _ _ _ _

end Registration

namespace Environment

variable {env other : Environment}

theorem openPath_alike (alike : env.host.Alike other.host)
    (room : env.host.openCount < Host.tableLimit)
    (twinRoom : other.host.openCount < Host.tableLimit) (path : Path)
    (access : Access) :
    (∃ cause, env.openPath path access = (.error cause, env) ∧
        other.openPath path access = (.error cause, other)) ∨
      ∃ descriptor counterpart after twin,
        env.openPath path access = (.ok descriptor, after) ∧
        other.openPath path access = (.ok counterpart, twin) ∧
        Host.BothMade env.host other.host after.host twin.host := by
  rw [openPath, openPath]
  obtain ⟨cause, failed, twinFailed⟩ |
    ⟨descriptor, counterpart, after, twin, opened, twinOpened, both⟩ :=
    alike.openPath room twinRoom path access
  · rw [failed, twinFailed]
    exact Or.inl ⟨cause, rfl, rfl⟩
  · rw [opened, twinOpened]
    exact Or.inr ⟨_, _, _, _, rfl, rfl, both⟩

/-- A handle of the same kind is given up in both surroundings, if there is
one. -/
theorem closeHeld_alike (alike : env.host.Alike other.host)
    {held kept : Option Descriptor} (same : kept.isSome = held.isSome)
    (placed : ∀ descriptor, held = some descriptor →
      ∃ position, env.host.position? descriptor = some position)
    (twinPlaced : ∀ descriptor, kept = some descriptor →
      ∃ position, other.host.position? descriptor = some position) :
    (env.closeHeld held).host.Alike (other.closeHeld kept).host := by
  cases held <;> cases kept
  · exact alike
  · cases same
  · cases same
  · exact alike.close (placed _ rfl) (twinPlaced _ rfl)

theorem openCount_closeHeld_le (env : Environment) (held : Option Descriptor) :
    (env.closeHeld held).host.openCount ≤ env.host.openCount := by
  cases held with
  | none => exact Nat.le_refl _
  | some descriptor => exact env.host.openCount_close_le descriptor

end Environment

namespace Watcher

variable {watcher twin : Watcher} {env other : Environment}
  {channel control oomControl : Descriptor}
  {channelTwin controlTwin oomTwin : Descriptor}

/-- Both registrations are let pass or rejected, and in both cases the control
file takes them in the same way. -/
theorem register_alike (same : watcher.settings.Same twin.settings)
    (shape : watcher.handles.Same twin.handles)
    (alike : env.host.Alike other.host)
    (below : channel < Host.tableLimit ∧ oomControl < Host.tableLimit)
    (twinBelow : channelTwin < Host.tableLimit ∧ oomTwin < Host.tableLimit)
    {content : OpenContent}
    (file : env.host.openFile? control = some { content })
    (twinFile : other.host.openFile? controlTwin = some { content })
    (writable : (∃ location, content = .endpoint location) ∨
      ∃ device, content = .device device .writing) :
    let result := watcher.register channel control oomControl env
    let counterpart := twin.register channelTwin controlTwin oomTwin other
    Answer.Same (.ofExcept result.1) (.ofExcept counterpart.1) ∧
      result.2.1.handles.Same counterpart.2.1.handles ∧
      result.2.2.host.Alike counterpart.2.2.host := by
  have limit : Host.tableLimit < 2 ^ 31 := by decide
  have named := Registration.message_eq_ok (below.1.trans limit)
    (below.2.trans limit)
  have twinNamed := Registration.message_eq_ok (twinBelow.1.trans limit)
    (twinBelow.2.trans limit)
  obtain ⟨taken, written⟩ := alike.register (.mk named) (.mk twinNamed)
    file twinFile writable
  have placed : ∃ position,
      (env.host.write control (Utf8.ofString s!"{channel} {oomControl}")
        ).2.position? control = some position := by
    rw [(env.host.touches_write control _).position?]
    exact Host.position?_isSome_of_openFile? file
  have twinPlaced : ∃ position,
      (other.host.write controlTwin
          (Utf8.ofString s!"{channelTwin} {oomTwin}")
        ).2.position? controlTwin = some position := by
    rw [(other.host.touches_write controlTwin _).position?]
    exact Host.position?_isSome_of_openFile? twinFile
  dsimp only
  rw [register, register, named, twinNamed]
  generalize s!"{channel} {oomControl}" = text at taken written placed ⊢
  generalize s!"{channelTwin} {oomTwin}" = copy at taken written twinPlaced ⊢
  have judged := Registration.judge_alike taken watcher.settings.registration
    (Cgroup.eventControl watcher.settings.cgroup)
  simp only [Registration.register, Registration.writeControl_eq, same.cgroup,
    same.registration]
  change Registration.SameVerdict
    (Registration.judge _ _ _ (Registration.outcome
      ((env.note (.registering text)).host.write control _).1))
    (Registration.judge _ _ _ (Registration.outcome
      ((other.note (.registering copy)).host.write controlTwin _).1)) at judged
  generalize Registration.judge _ _ (Utf8.ofString text).length _ = first
    at judged ⊢
  generalize Registration.judge _ _ (Utf8.ofString copy).length _ = second
    at judged ⊢
  cases judged with
  | rejected wrong warnings copies =>
      exact ⟨.failed wrong, shape.mark text copy, written⟩
  | passed count copied warnings copies =>
      exact ⟨.done (), (shape.mark text copy).put .eventControl rfl,
        written.close placed twinPlaced⟩

/-- The file for registrations is open for the same file in both processes. -/
theorem OpensControls.alike_file {ready readyTwin : Environment}
    (controls : watcher.OpensControls env channel control oomControl ready)
    (controlsTwin : twin.OpensControls other channelTwin controlTwin oomTwin
      readyTwin)
    (root : twin.settings.cgroup = watcher.settings.cgroup)
    (owns : watcher.Owns env) (twinOwns : twin.Owns other)
    (alike : env.host.Alike other.host) :
    ∃ content, ready.host.openFile? control = some { content } ∧
      readyTwin.host.openFile? controlTwin = some { content } ∧
      ((∃ location, content = .endpoint location) ∨
        ∃ device, content = .device device .writing) := by
  obtain ⟨visit, content, resolved, given, file⟩ :=
    controls.opensControl owns.coherent owns.placed
  obtain ⟨visitTwin, copy, resolvedTwin, givenTwin, fileTwin⟩ :=
    controlsTwin.opensControl twinOwns.coherent twinOwns.placed
  have visits := FileTree.alike_resolve alike.files
    (Cgroup.eventControl watcher.settings.cgroup)
  rw [root] at resolvedTwin
  rw [resolved, resolvedTwin] at visits
  cases visits with
  | ok there =>
      have contents := Host.contentOf_alike there.node visit.location .writing
      rw [there.location] at givenTwin
      rw [given, givenTwin] at contents
      cases contents with
      | ok same =>
          cases same rfl
          refine ⟨content, file, fileTwin, ?_⟩
          obtain ⟨_, _, rfl⟩ | ⟨device, _, rfl⟩ := Host.contentOf_writing given
          · exact Or.inl ⟨_, rfl⟩
          · exact Or.inr ⟨device, rfl⟩

/-- One surroundings after another between which a watcher got a handle of some
kind for a file and gave up the one of this kind it had. -/
structure Reopens (watcher : Watcher) (env : Environment) (kind : HandleKind)
    (path : Path) (access : Access) (made : Descriptor)
    (after : Environment) : Prop where
  opened : env.openPath path access = (.ok made, after)
  owns : Owns { watcher with handles := watcher.handles.put kind (some made) }
    (after.closeHeld (watcher.handles.descriptor? kind))
  below : made < Host.tableLimit
  count : (after.closeHeld
      (watcher.handles.descriptor? kind)).host.openCount ≤
    env.host.openCount + 1

theorem Owns.reopens {after : Environment} {path : Path} {access : Access}
    {made : Descriptor} (owns : watcher.Owns env)
    (opened : env.openPath path access = (.ok made, after))
    (count : after.host.openCount = env.host.openCount + 1)
    (kind : HandleKind) : watcher.Reopens env kind path access made after where
  opened := opened
  owns := by
    have opens := Environment.opens_openPath owns.coherent opened
    exact owns.acquire opens.makes opens.canceller kind rfl rfl
  below := (Environment.opens_openPath owns.coherent opened).below
  count := by
    rw [← count]
    exact after.openCount_closeHeld_le _

theorem Owns.placed_of_openPath {after : Environment} {path : Path}
    {access : Access} {made held : Descriptor} (owns : watcher.Owns env)
    (opened : env.openPath path access = (.ok made, after)) {kind : HandleKind}
    (holds : watcher.handles.descriptor? kind = some held) :
    ∃ position, after.host.position? held = some position := by
  obtain ⟨position, located⟩ := owns.placed kind held holds
  have opens := Environment.opens_openPath owns.coherent opened
  exact ⟨position, (opens.makes.keeps held position located).position.trans
    located⟩

/-- Both watchers get a handle of some kind for a file, or neither can open
it. -/
theorem reopen_alike (shape : watcher.handles.Same twin.handles)
    (owns : watcher.Owns env) (twinOwns : twin.Owns other)
    (alike : env.host.Alike other.host)
    (room : env.host.openCount < Host.tableLimit)
    (twinRoom : other.host.openCount < Host.tableLimit) (path : Path)
    (access : Access) (kind : HandleKind) :
    (∃ cause, env.openPath path access = (.error cause, env) ∧
        other.openPath path access = (.error cause, other)) ∨
      ∃ made madeTwin after afterTwin,
        watcher.Reopens env kind path access made after ∧
        twin.Reopens other kind path access madeTwin afterTwin ∧
        Host.Alike (after.closeHeld (watcher.handles.descriptor? kind)).host
          (afterTwin.closeHeld (twin.handles.descriptor? kind)).host := by
  obtain failed | ⟨made, madeTwin, after, afterTwin, opened, openedTwin, both⟩ :=
    Environment.openPath_alike alike room twinRoom path access
  · exact Or.inl failed
  · exact Or.inr ⟨made, madeTwin, after, afterTwin,
      owns.reopens opened both.count kind,
      twinOwns.reopens openedTwin both.twinCount kind,
      Environment.closeHeld_alike both.alike (shape.held kind)
        (fun _ => owns.placed_of_openPath opened)
        (fun _ => twinOwns.placed_of_openPath openedTwin)⟩

/-- Two watchers that both have a channel and no registration subscribe, or
fail in the same way. -/
theorem subscribe_alike_of_ready (same : watcher.settings.Same twin.settings)
    (shape : watcher.handles.Same twin.handles)
    (unmarked : watcher.handles.registration = none)
    (unmarkedTwin : twin.handles.registration = none)
    (held : watcher.handles.channel = some channel)
    (heldTwin : twin.handles.channel = some channelTwin)
    (below : channel < Host.tableLimit)
    (belowTwin : channelTwin < Host.tableLimit) (owns : watcher.Owns env)
    (twinOwns : twin.Owns other) (alike : env.host.Alike other.host)
    (room : env.host.openCount + 2 ≤ Host.tableLimit)
    (twinRoom : other.host.openCount + 2 ≤ Host.tableLimit) :
    let result := watcher.subscribe env
    let counterpart := twin.subscribe other
    Answer.Same (.ofExcept result.1) (.ofExcept counterpart.1) ∧
      result.2.1.handles.Same counterpart.2.1.handles ∧
      result.2.2.host.Alike counterpart.2.2.host := by
  have root := same.cgroup
  have first := reopen_alike shape owns twinOwns alike (by omega) (by omega)
    (Cgroup.eventControl watcher.settings.cgroup) .writing .eventControl
  obtain ⟨settings, cancel, ⟨_, eventControl, oomHeld, _⟩⟩ := watcher
  obtain ⟨settingsTwin, guard, ⟨_, eventTwin, oomHeldTwin, _⟩⟩ := twin
  cases held
  cases heldTwin
  cases unmarked
  cases unmarkedTwin
  dsimp only at root
  dsimp only
  rw [subscribe, subscribe]
  dsimp only
  rw [root]
  obtain ⟨cause, failed, failedTwin⟩ |
    ⟨control, controlTwin, opened, openedTwin, event, eventAlso, halfway⟩ :=
    first
  · rw [failed, failedTwin]
    exact ⟨.failed (.refl _), shape, alike⟩
  have count := event.count
  have countTwin := eventAlso.count
  have formed : Handles.Same ⟨some channel, some control, oomHeld, none⟩
      ⟨some channelTwin, some controlTwin, oomHeldTwin, none⟩ :=
    shape.put .eventControl rfl
  have second := reopen_alike formed event.owns eventAlso.owns halfway (by omega)
    (by omega) (Cgroup.oomControl settings.cgroup) .reading .oomControl
  rw [event.opened, eventAlso.opened]
  -- From here on both watchers hold the new handle for registrations.
  dsimp only [Handles.descriptor?, Handles.put] at second ⊢
  obtain ⟨cause, failed, failedTwin⟩ |
    ⟨oomControl, oomTwin, ready, readyTwin, oom, oomAlso, ended⟩ := second
  · rw [failed, failedTwin]
    exact ⟨.failed (.refl _), formed, halfway⟩
  rw [oom.opened, oomAlso.opened]
  dsimp only
  have controls : OpensControls
      ⟨settings, cancel, some channel, eventControl, oomHeld, none⟩ env channel
      control oomControl (ready.closeHeld oomHeld) :=
    ⟨rfl, rfl, opened, ready, event.opened, oom.opened, rfl⟩
  have controlsTwin : OpensControls
      ⟨settingsTwin, guard, some channelTwin, eventTwin, oomHeldTwin, none⟩
      other channelTwin controlTwin oomTwin
      (readyTwin.closeHeld oomHeldTwin) := by
    refine ⟨rfl, rfl, openedTwin, readyTwin, ?_, ?_, rfl⟩ <;> dsimp only
    · rw [root, eventAlso.opened]
    · rw [root]
      exact oomAlso.opened
  obtain ⟨content, file, fileTwin, writable⟩ :=
    controls.alike_file controlsTwin root owns twinOwns alike
  exact register_alike same (formed.put .oomControl rfl) ended
    ⟨below, oom.below⟩ ⟨belowTwin, oomAlso.below⟩ file fileTwin writable

/-- Both watchers subscribe, or both fail in the same way. -/
theorem subscribe_alike (same : watcher.settings.Same twin.settings)
    (shape : watcher.handles.Same twin.handles)
    (below : ∀ channel, watcher.handles.channel = some channel →
      channel < Host.tableLimit)
    (belowTwin : ∀ channel, twin.handles.channel = some channel →
      channel < Host.tableLimit)
    (owns : watcher.Owns env) (twinOwns : twin.Owns other)
    (alike : env.host.Alike other.host)
    (room : env.host.openCount + 2 ≤ Host.tableLimit)
    (twinRoom : other.host.openCount + 2 ≤ Host.tableLimit) :
    let result := watcher.subscribe env
    let counterpart := twin.subscribe other
    Answer.Same (.ofExcept result.1) (.ofExcept counterpart.1) ∧
      result.2.1.handles.Same counterpart.2.1.handles ∧
      result.2.2.host.Alike counterpart.2.2.host := by
  dsimp only
  obtain ⟨unmarked, unmarkedTwin⟩ | ⟨_, _, marked, markedTwin⟩ :=
    both_or_neither shape.registration
  · obtain ⟨free, freeTwin⟩ | ⟨channel, channelTwin, held, heldTwin⟩ :=
      shape.channel
    · rw [subscribe, subscribe, unmarked, unmarkedTwin, free, freeTwin]
      exact ⟨.failed (.refl _), shape, alike⟩
    · exact subscribe_alike_of_ready same shape unmarked unmarkedTwin held
        heldTwin (below channel held) (belowTwin channelTwin heldTwin) owns
        twinOwns alike room twinRoom
  · rw [subscribe, subscribe, marked, markedTwin, same.cgroup]
    exact ⟨.failed (.refl _), shape, alike⟩

theorem setup_alike (shape : watcher.handles.Same twin.handles)
    (alike : env.host.Alike other.host)
    (room : env.host.openCount < Host.tableLimit)
    (twinRoom : other.host.openCount < Host.tableLimit) :
    let result := watcher.setup env
    let counterpart := twin.setup other
    Answer.Same (.ofExcept result.1) (.ofExcept counterpart.1) ∧
      result.2.1.handles.Same counterpart.2.1.handles ∧
      result.2.2.host.Alike counterpart.2.2.host := by
  dsimp only
  rw [setup, setup]
  obtain ⟨free, freeTwin⟩ | ⟨channel, channelTwin, held, heldTwin⟩ :=
    shape.channel
  · rw [free, freeTwin]
    dsimp only
    rw [Channel.create, Channel.create, Environment.create, Environment.create]
    obtain ⟨failed, failedTwin⟩ |
      ⟨made, madeTwin, after, afterTwin, created, createdTwin, both⟩ :=
      alike.create room twinRoom (.counter 0) (.counter 0)
    · rw [failed, failedTwin]
      exact ⟨.failed (.refl _), shape, alike⟩
    · rw [created, createdTwin]
      exact ⟨.done (), shape.put .channel rfl, both.alike⟩
  · rw [held, heldTwin]
    exact ⟨.failed (.refl _), shape, alike⟩

theorem notifier_alike (shape : watcher.handles.Same twin.handles)
    (owns : watcher.Owns env) (twinOwns : twin.Owns other)
    (alike : env.host.Alike other.host)
    (room : env.host.openCount < Host.tableLimit)
    (twinRoom : other.host.openCount < Host.tableLimit) :
    Answer.Same (.ofExcept ((watcher.notifier env).1.map fun _ => ()))
        (.ofExcept ((twin.notifier other).1.map fun _ => ())) ∧
      (watcher.notifier env).2.host.Alike (twin.notifier other).2.host := by
  rw [notifier, notifier]
  obtain ⟨free, freeTwin⟩ | ⟨channel, channelTwin, held, heldTwin⟩ :=
    shape.channel
  · rw [free, freeTwin]
    exact ⟨.failed (.refl _), alike⟩
  · obtain ⟨_, placed⟩ := owns.placed .channel channel held
    obtain ⟨_, twinPlaced⟩ := twinOwns.placed .channel channelTwin heldTwin
    obtain ⟨made, after⟩ := alike.duplicate room twinRoom placed twinPlaced
    rw [held, heldTwin]
    dsimp only
    rw [Channel.notifier, Channel.notifier]
    generalize env.host.duplicate channel = first at made after ⊢
    generalize other.host.duplicate channelTwin = second at made after ⊢
    obtain ⟨result, host⟩ := first
    obtain ⟨resultTwin, hostTwin⟩ := second
    cases made with
    | error cause => exact ⟨.failed (.refl _), after⟩
    | ok => exact ⟨.done (), after⟩

/-! ## Cleaning up -/

theorem release_alike (shape : watcher.handles.Same twin.handles)
    (owns : watcher.Owns env) (twinOwns : twin.Owns other)
    (alike : env.host.Alike other.host) (kind : HandleKind) :
    let rest : Watcher :=
      { watcher with handles := watcher.handles.put kind none }
    let restTwin : Watcher :=
      { twin with handles := twin.handles.put kind none }
    rest.handles.Same restTwin.handles ∧
      rest.Owns (env.closeHeld (watcher.handles.descriptor? kind)) ∧
      restTwin.Owns (other.closeHeld (twin.handles.descriptor? kind)) ∧
      (env.closeHeld (watcher.handles.descriptor? kind)).host.Alike
        (other.closeHeld (twin.handles.descriptor? kind)).host :=
  ⟨shape.put kind rfl, owns.release kind rfl rfl, twinOwns.release kind rfl rfl,
    Environment.closeHeld_alike alike (shape.held kind) (owns.placed kind)
      (twinOwns.placed kind)⟩

theorem cleanup_alike (shape : watcher.handles.Same twin.handles)
    (owns : watcher.Owns env) (twinOwns : twin.Owns other)
    (alike : env.host.Alike other.host) :
    (watcher.cleanup env).2.2.host.Alike (twin.cleanup other).2.2.host := by
  obtain ⟨shape, owns, twinOwns, alike⟩ :=
    release_alike shape owns twinOwns alike .channel
  obtain ⟨shape, owns, twinOwns, alike⟩ :=
    release_alike shape owns twinOwns alike .eventControl
  obtain ⟨_, _, _, alike⟩ :=
    release_alike shape owns twinOwns alike .oomControl
  rw [cleanup, cleanup]
  dsimp only
  rw [host_closeHandles, host_closeHandles]
  exact alike

end Watcher

end MemoryWatch
