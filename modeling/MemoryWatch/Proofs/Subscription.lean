import MemoryWatch.Proofs.Ownership

/-!
# What a subscription comes to

A subscription opens both control files, one after the other, and then writes
the text that names the channel and the second of them in a single call.  It is
refused before it does anything, fails at one of the two files, or comes to the
write.  From then on the text is kept, whatever the call has answered.
-/

namespace MemoryWatch

namespace Environment

/-- One surroundings after another between which a descriptor was made for a new
open file. -/
structure Opens (descriptor : Descriptor) (before after : Environment) :
    Prop where
  makes : Host.Makes descriptor before.host after.host
  below : descriptor < Host.tableLimit
  canceller : after.canceller = before.canceller
  trace : after.trace = before.trace ++ [.opened descriptor]

theorem opens_create {env after : Environment} {content : OpenContent}
    {descriptor : Descriptor} (coherent : env.host.IsCoherent)
    (made : env.create content = (.ok descriptor, after)) :
    Opens descriptor env after ∧
      after.host.openFile? descriptor = some { content } := by
  rw [create] at made
  rcases result : env.host.create content with ⟨cause | found, host⟩
  · simp [result] at made
  · simp only [result] at made
    cases made
    have attached := Host.create_ok result
    have makes := Host.makes_attach coherent { content }
    have file := Host.openFile?_attach_self env.host { content }
    rw [attached] at makes file
    exact ⟨⟨makes, Host.lt_tableLimit_of_create result, rfl, rfl⟩, file⟩

theorem create_error {env after : Environment} {content : OpenContent}
    {cause : SystemError}
    (failed : env.create content = (.error cause, after)) : after = env := by
  rw [create] at failed
  rcases result : env.host.create content with ⟨cause | found, host⟩
  · simp only [result] at failed
    cases failed
    rw [Host.create_error result]
  · simp [result] at failed

theorem opens_openPath {env after : Environment} {path : Path}
    {access : Access} {descriptor : Descriptor}
    (coherent : env.host.IsCoherent)
    (opened : env.openPath path access = (.ok descriptor, after)) :
    Opens descriptor env after := by
  rw [openPath] at opened
  rcases result : env.host.openPath path access with ⟨cause | found, host⟩
  · simp [result] at opened
  · simp only [result] at opened
    cases opened
    obtain ⟨_, content, _, _, created⟩ := Host.openPath_ok result
    have makes := Host.makes_attach coherent { content }
    rw [Host.create_ok created] at makes
    exact ⟨makes, Host.lt_tableLimit_of_create created, rfl, rfl⟩

theorem openPath_error {env after : Environment} {path : Path}
    {access : Access} {cause : SystemError}
    (failed : env.openPath path access = (.error cause, after)) :
    after = env := by
  rw [openPath] at failed
  rcases result : env.host.openPath path access with ⟨cause | found, host⟩
  · simp only [result] at failed
    cases failed
    rw [Host.openPath_error result]
  · simp [result] at failed

theorem Opens.continues {descriptor : Descriptor} {before after : Environment}
    (opens : Opens descriptor before after) :
    Continues (fun step => step.isTurnover = true) before after :=
  .single opens.trace rfl

theorem continues_closeHeld (env : Environment) (held : Option Descriptor) :
    Continues (fun step => step.isTurnover = true) env
      (env.closeHeld held) := by
  cases held with
  | none => exact .of_eq rfl
  | some closed => exact .single rfl rfl

end Environment

namespace Registration

/-- What the answer of a write call comes to for a caller that does not
wait. -/
def outcome : Answer SystemError Nat → Except SystemError Nat
  | .done written => .ok written
  | .failed cause => .error cause
  | .blocked => .error .wouldWait

/-- One surroundings after another between which a registration was written. -/
structure Writes (control : Descriptor) (bytes : List UInt8)
    (answer : Answer SystemError Nat) (before after : Environment) : Prop where
  answered : (before.host.write control bytes).1 = answer
  host : after.host = (before.host.write control bytes).2
  canceller : after.canceller = before.canceller
  trace : after.trace = before.trace ++ [.registered bytes answer]

theorem Writes.stays {control : Descriptor} {bytes : List UInt8}
    {answer : Answer SystemError Nat} {before after : Environment}
    (writes : Writes control bytes answer before after) :
    Environment.Stays before after := by
  have touches := Host.touches_write before.host control bytes
  rw [← writes.host] at touches
  exact .of_touches touches writes.canceller

/-- A registration keeps every file but the control file it is written to. -/
theorem Writes.keeps {control other : Descriptor} {bytes : List UInt8}
    {answer : Answer SystemError Nat} {before after : Environment}
    (writes : Writes control bytes answer before after)
    (apart : before.host.position? control ≠ before.host.position? other) :
    Host.Keeps other before.host after.host := by
  have touches := Host.touches_write before.host control bytes
  rw [← writes.host] at touches
  exact touches.keeps apart

theorem writeControl_eq (control : Descriptor) (bytes : List UInt8)
    (env : Environment) :
    writeControl control bytes env =
      (outcome (env.host.write control bytes).1,
       { env with host := (env.host.write control bytes).2 }.record
         (.registered bytes (env.host.write control bytes).1)) := by
  rw [writeControl]
  rcases env.host.write control bytes with ⟨answer, host⟩
  cases answer <;> rfl

/-- Only the strict policy fails, and only for what was not written whole. -/
theorem judge_error {policy : RegistrationPolicy} {path : Path}
    {expected : Nat} {answer : Answer SystemError Nat} {error : WatchError}
    (failed : (judge policy path expected (outcome answer)).1 =
      .error error) :
    policy = .strict ∧ answer ≠ .done expected := by
  cases answer with
  | done written =>
      simp only [outcome, judge] at failed
      split at failed
      · cases failed
      · next different =>
          cases policy with
          | strict => exact ⟨rfl, fun equal => different (by cases equal; rfl)⟩
          | lenient => cases failed
  | failed cause =>
      cases policy with
      | strict => exact ⟨rfl, by simp⟩
      | lenient => cases failed
  | blocked =>
      cases policy with
      | strict => exact ⟨rfl, by simp⟩
      | lenient => cases failed

/-- The strict policy lets pass only what was written whole. -/
theorem judge_ok {policy : RegistrationPolicy} {path : Path}
    {expected written : Nat} {answer : Answer SystemError Nat}
    (passed : (judge policy path expected (outcome answer)).1 =
      .ok written) :
    policy = .lenient ∨ answer = .done expected := by
  cases policy with
  | lenient => exact Or.inl rfl
  | strict =>
      right
      cases answer with
      | done count =>
          simp only [outcome, judge] at passed
          split at passed
          · next same => rw [same]
          · cases passed
      | failed cause => cases passed
      | blocked => cases passed

end Registration

namespace Watcher

variable {watcher : Watcher}

/-- One surroundings after another between which a subscription has opened both
control files and given up the handles of that kind it had. -/
structure OpensControls (watcher : Watcher) (before : Environment)
    (channel control oomControl : Descriptor) (ready : Environment) :
    Prop where
  unmarked : watcher.handles.registration = none
  held : watcher.handles.channel = some channel
  opened : ∃ first second,
    before.openPath (Cgroup.eventControl watcher.settings.cgroup) .writing =
      (.ok control, first) ∧
    (first.closeHeld watcher.handles.eventControl).openPath
        (Cgroup.oomControl watcher.settings.cgroup) .reading =
      (.ok oomControl, second) ∧
    ready = second.closeHeld watcher.handles.oomControl

/-- What a subscription can come to. -/
inductive Subscribing (watcher : Watcher) (env : Environment) :
    Except WatchError Unit → Watcher → Environment → Prop
  | refused (fault : Misuse) :
      Subscribing watcher env (.error (.misuse fault)) watcher env
  | noEventControl (cause : SystemError)
      (unmarked : watcher.handles.registration = none) :
      Subscribing watcher env
        (.error (.controlUnavailable
          (Cgroup.eventControl watcher.settings.cgroup) cause))
        watcher env
  | noOomControl {control : Descriptor} {opened : Environment}
      (cause : SystemError) (unmarked : watcher.handles.registration = none)
      (open_ : env.openPath (Cgroup.eventControl watcher.settings.cgroup)
        .writing = (.ok control, opened))
      (held : watcher.handles.channel.isSome = true) :
      Subscribing watcher env
        (.error (.controlUnavailable
          (Cgroup.oomControl watcher.settings.cgroup) cause))
        { watcher with
          handles := watcher.handles.put .eventControl (some control) }
        (opened.closeHeld watcher.handles.eventControl)
  | unwritten {channel control oomControl : Descriptor} {ready : Environment}
      (error : WatchError)
      (controls : watcher.OpensControls env channel control oomControl ready)
      (unnamed :
        Registration.message channel oomControl Registration.capacity =
          .error error) :
      Subscribing watcher env (.error error)
        { watcher with
          handles :=
            { channel := some channel, eventControl := some control,
              oomControl := some oomControl } }
        ready
  | rejected {channel control oomControl : Descriptor}
      {ready after : Environment} {text : String}
      {answer : Answer SystemError Nat} {error : WatchError}
      (controls : watcher.OpensControls env channel control oomControl ready)
      (named : Registration.message channel oomControl Registration.capacity =
        .ok text)
      (writes : Registration.Writes control (Utf8.ofString text) answer ready
        after)
      (strict : watcher.settings.registration = .strict)
      (incomplete : answer ≠ .done (Utf8.ofString text).length) :
      Subscribing watcher env (.error error)
        { watcher with
          handles :=
            { channel := some channel, eventControl := some control,
              oomControl := some oomControl, registration := some text } }
        after
  | accepted {channel control oomControl : Descriptor}
      {ready after : Environment} {text : String}
      {answer : Answer SystemError Nat} (event : LogEvent)
      (controls : watcher.OpensControls env channel control oomControl ready)
      (named : Registration.message channel oomControl Registration.capacity =
        .ok text)
      (writes : Registration.Writes control (Utf8.ofString text) answer ready
        after)
      (passed : watcher.settings.registration = .lenient ∨
        answer = .done (Utf8.ofString text).length) :
      Subscribing watcher env (.ok ())
        { watcher with
          handles :=
            { channel := some channel, oomControl := some oomControl,
              registration := some text } }
        ((after.close control).note event)

/-- A watcher that has opened both control files registers, or keeps them. -/
theorem subscribing_register {env ready : Environment}
    {channel control oomControl : Descriptor}
    (controls : watcher.OpensControls env channel control oomControl ready) :
    let opened : Watcher :=
      { watcher with
        handles :=
          { channel := some channel, eventControl := some control,
            oomControl := some oomControl } }
    let result := opened.register channel control oomControl ready
    Subscribing watcher env result.1 result.2.1 result.2.2 := by
  dsimp only
  rw [register]
  dsimp only
  rcases named : Registration.message channel oomControl
    Registration.capacity with error | text
  · exact .unwritten error controls named
  · simp only [Registration.register, Registration.writeControl_eq]
    rcases judged : Registration.judge watcher.settings.registration
      (Cgroup.eventControl watcher.settings.cgroup) (Utf8.ofString text).length
      (Registration.outcome
        ((ready.note (.registering text)).host.write control
          (Utf8.ofString text)).1) with ⟨error | written, warnings⟩
    · obtain ⟨strict, incomplete⟩ :=
        Registration.judge_error (congrArg Prod.fst judged)
      exact .rejected controls named ⟨rfl, rfl, rfl, rfl⟩ strict incomplete
    · have passed := Registration.judge_ok (congrArg Prod.fst judged)
      exact .accepted _ controls named ⟨rfl, rfl, rfl, rfl⟩ passed

theorem subscribing_subscribe (watcher : Watcher) (env : Environment) :
    Subscribing watcher env (watcher.subscribe env).1
      (watcher.subscribe env).2.1 (watcher.subscribe env).2.2 := by
  rcases watcher with
    ⟨settings, cancel, channel, eventControl, oomHeld, registration⟩
  cases registration with
  | some text => exact .refused _
  | none =>
      cases channel with
      | none => exact .refused _
      | some channel =>
          rw [subscribe]
          dsimp only
          rcases first : env.openPath (Cgroup.eventControl settings.cgroup)
            .writing with ⟨cause | control, opened⟩
          · rw [Environment.openPath_error first]
            exact .noEventControl cause rfl
          · dsimp only
            rcases second : (opened.closeHeld eventControl).openPath
              (Cgroup.oomControl settings.cgroup) .reading with
              ⟨cause | oomControl, ready⟩
            · rw [Environment.openPath_error second]
              exact .noOomControl cause rfl first rfl
            · have controls : OpensControls
                  ⟨settings, cancel, some channel, eventControl, oomHeld, none⟩
                  env channel control oomControl (ready.closeHeld oomHeld) :=
                ⟨rfl, rfl, opened, ready, first, second, rfl⟩
              -- Without the reductions the two calls are unfolded to compare
              -- them.
              have registered := subscribing_register controls
              dsimp only at registered ⊢
              exact registered

namespace OpensControls

variable {before ready : Environment}
  {channel control oomControl : Descriptor}

theorem stages
    (controls : watcher.OpensControls before channel control oomControl ready)
    (coherent : before.host.IsCoherent) :
    ∃ first second, Environment.Opens control before first ∧
      Environment.Opens oomControl
        (first.closeHeld watcher.handles.eventControl) second ∧
      ready = second.closeHeld watcher.handles.oomControl := by
  obtain ⟨first, second, opened, further, closed⟩ := controls.opened
  have firstOpens := Environment.opens_openPath coherent opened
  have halfway : (first.closeHeld
      watcher.handles.eventControl).host.IsCoherent :=
    Environment.isCoherent_closeHeld firstOpens.makes.coherent _
  have secondOpens := Environment.opens_openPath halfway further
  exact ⟨first, second, firstOpens, secondOpens, closed⟩

theorem canceller
    (controls : watcher.OpensControls before channel control oomControl ready)
    (coherent : before.host.IsCoherent) : ready.canceller = before.canceller := by
  obtain ⟨first, second, firstOpens, secondOpens, rfl⟩ :=
    controls.stages coherent
  rw [Environment.canceller_closeHeld, secondOpens.canceller,
    Environment.canceller_closeHeld, firstOpens.canceller]

theorem owns
    (controls : watcher.OpensControls before channel control oomControl ready)
    (owns : watcher.Owns before) :
    Owns { watcher with
      handles :=
        { channel := some channel, eventControl := some control,
          oomControl := some oomControl } } ready := by
  obtain ⟨first, second, firstOpens, secondOpens, rfl⟩ :=
    controls.stages owns.coherent
  have halfway : Owns { watcher with
      handles := watcher.handles.put .eventControl (some control) }
      (first.closeHeld watcher.handles.eventControl) :=
    owns.acquire firstOpens.makes firstOpens.canceller .eventControl rfl rfl
  refine halfway.acquire secondOpens.makes secondOpens.canceller .oomControl
    rfl ?_
  simp [Handles.put, controls.held, controls.unmarked]

/-- Opening the control files keeps every descriptor in use, except those of
such files that were open before. -/
theorem keeps
    (controls : watcher.OpensControls before channel control oomControl ready)
    (coherent : before.host.IsCoherent) {other : Descriptor} {position : Nat}
    (located : before.host.position? other = some position)
    (eventControl : watcher.handles.eventControl ≠ some other)
    (oomHeld : watcher.handles.oomControl ≠ some other) :
    Host.Keeps other before.host ready.host := by
  obtain ⟨first, second, firstOpens, secondOpens, rfl⟩ :=
    controls.stages coherent
  have halfway : Host.Keeps other before.host
      (first.closeHeld watcher.handles.eventControl).host :=
    (firstOpens.makes.keeps other position located).trans
      (first.keeps_closeHeld eventControl)
  have stays := halfway.position.trans located
  exact (halfway.trans (secondOpens.makes.keeps other position stays)).trans
    (second.keeps_closeHeld oomHeld)

theorem continues
    (controls : watcher.OpensControls before channel control oomControl ready)
    (coherent : before.host.IsCoherent) :
    Environment.Continues (fun step => step.isTurnover = true) before
      ready := by
  obtain ⟨first, second, firstOpens, secondOpens, rfl⟩ :=
    controls.stages coherent
  exact ((firstOpens.continues.trans (first.continues_closeHeld _)).trans
    secondOpens.continues).trans (second.continues_closeHeld _)

theorem opens
    (controls : watcher.OpensControls before channel control oomControl ready)
    (coherent : before.host.IsCoherent) :
    ∃ steps, ready.trace = before.trace ++ steps ∧
      .opened oomControl ∈ steps := by
  obtain ⟨first, second, firstOpens, secondOpens, rfl⟩ :=
    controls.stages coherent
  obtain ⟨earlier, shown, _⟩ := firstOpens.continues.trans
    (first.continues_closeHeld watcher.handles.eventControl)
  obtain ⟨later, surrendered, _⟩ :=
    second.continues_closeHeld watcher.handles.oomControl
  refine ⟨earlier ++ .opened oomControl :: later, ?_, by simp⟩
  rw [surrendered, secondOpens.trace, shown]
  simp

theorem owns_of_writes {after : Environment} {text : String}
    {answer : Answer SystemError Nat}
    (controls : watcher.OpensControls before channel control oomControl ready)
    (owns : watcher.Owns before)
    (writes : Registration.Writes control (Utf8.ofString text) answer ready
      after) :
    Owns { watcher with
      handles :=
        { channel := some channel, eventControl := some control,
          oomControl := some oomControl, registration := some text } }
      after := by
  have opened := controls.owns owns
  have wrote := writes.stays
  refine opened.change rfl wrote.canceller (wrote.coherent opened.coherent)
    .channel ?_ (fun descriptor _ => wrote.position descriptor)
  intro kind descriptor held
  refine Or.inl ⟨?_, wrote.position descriptor⟩
  cases kind <;> exact held

/-- The file for registrations is neither the channel nor what the watch is
cancelled through. -/
theorem apart
    (controls : watcher.OpensControls before channel control oomControl ready)
    (owns : watcher.Owns before) {descriptor : Descriptor}
    (kept : watcher.handles.channel = some descriptor ∨
      watcher.IsCancelledThrough before descriptor) :
    ready.host.position? control ≠ ready.host.position? descriptor := by
  have opened := controls.owns owns
  rcases kept with held | cancels
  · rw [controls.held] at held
    exact opened.apart .eventControl .channel control descriptor (by simp) rfl
      held
  · have through : IsCancelledThrough { watcher with
        handles :=
          { channel := some channel, eventControl := some control,
            oomControl := some oomControl } } ready descriptor := by
      rwa [IsCancelledThrough, controls.canceller owns.coherent]
    exact opened.cancelApart descriptor through .eventControl control rfl

end OpensControls

namespace Subscribing

variable {next : Watcher} {env after : Environment}
  {result : Except WatchError Unit}

theorem settings (subscribing : Subscribing watcher env result next after) :
    next.settings = watcher.settings := by
  cases subscribing <;> rfl

theorem cancel (subscribing : Subscribing watcher env result next after) :
    next.cancel = watcher.cancel := by
  cases subscribing <;> rfl

/-- A subscription neither makes the channel nor gives it up. -/
theorem channel (subscribing : Subscribing watcher env result next after) :
    next.handles.channel = watcher.handles.channel := by
  cases subscribing with
  | refused fault => rfl
  | noEventControl cause unmarked => rfl
  | noOomControl cause unmarked open_ held => rfl
  | unwritten error controls unnamed => exact controls.held.symm
  | rejected controls named writes strict incomplete =>
      exact controls.held.symm
  | accepted event controls named writes passed => exact controls.held.symm

theorem owns (subscribing : Subscribing watcher env result next after)
    (owns : watcher.Owns env) : next.Owns after := by
  cases subscribing with
  | refused fault => exact owns
  | noEventControl cause unmarked => exact owns
  | noOomControl cause unmarked open_ held =>
      have opens := Environment.opens_openPath owns.coherent open_
      exact owns.acquire opens.makes opens.canceller .eventControl rfl rfl
  | unwritten error controls unnamed => exact controls.owns owns
  | rejected controls named writes strict incomplete =>
      exact controls.owns_of_writes owns writes
  | accepted event controls named writes passed =>
      have written := controls.owns_of_writes owns writes
      refine Owns.note ?_ event
      exact written.release .eventControl rfl rfl

/-- The steps of a subscription make descriptors, give them up and write the
registration. -/
theorem continues (subscribing : Subscribing watcher env result next after)
    (coherent : env.host.IsCoherent) :
    Environment.Continues (fun step => step.isHandling = true) env after := by
  have handling := Step.isHandling_of_isTurnover
  cases subscribing with
  | refused fault => exact .of_eq rfl
  | noEventControl cause unmarked => exact .of_eq rfl
  | noOomControl cause unmarked open_ held =>
      have opens := Environment.opens_openPath coherent open_
      exact (opens.continues.trans (Environment.continues_closeHeld _ _)).mono
        handling
  | unwritten error controls unnamed => exact (controls.continues coherent).mono handling
  | rejected controls named writes strict incomplete =>
      exact ((controls.continues coherent).mono handling).trans
        (.single writes.trace rfl)
  | accepted event controls named writes passed =>
      exact (((controls.continues coherent).mono handling).trans
        (.single writes.trace rfl)).trans (.single rfl rfl)

/-- A subscription keeps the channel and what the watch is cancelled through. -/
theorem keeps (subscribing : Subscribing watcher env result next after)
    (owns : watcher.Owns env) {descriptor : Descriptor}
    (kept : watcher.handles.channel = some descriptor ∨
      watcher.IsCancelledThrough env descriptor) :
    Host.Keeps descriptor env.host after.host := by
  have located : ∃ position, env.host.position? descriptor = some position := by
    rcases kept with held | cancels
    · exact owns.placed .channel descriptor held
    · exact owns.cancelPlaced descriptor cancels
  obtain ⟨position, located⟩ := located
  have apart : ∀ kind, kind ≠ .channel →
      watcher.handles.descriptor? kind ≠ some descriptor := by
    intro kind different equal
    rcases kept with held | cancels
    · exact owns.ne_of_kind_ne kind .channel different equal held rfl
    · exact owns.ne_of_isCancelledThrough equal cancels rfl
  have notEventControl : watcher.handles.eventControl ≠ some descriptor :=
    apart .eventControl (by simp)
  have notOomControl : watcher.handles.oomControl ≠ some descriptor :=
    apart .oomControl (by simp)
  cases subscribing with
  | refused fault => exact Host.Keeps.refl descriptor env.host
  | noEventControl cause unmarked => exact Host.Keeps.refl descriptor env.host
  | noOomControl cause unmarked open_ held =>
      have opens := Environment.opens_openPath owns.coherent open_
      exact (opens.makes.keeps descriptor position located).trans
        (Environment.keeps_closeHeld _ notEventControl)
  | unwritten error controls unnamed =>
      exact controls.keeps owns.coherent located notEventControl notOomControl
  | rejected controls named writes strict incomplete =>
      have opened := controls.keeps owns.coherent located notEventControl notOomControl
      exact opened.trans (writes.keeps (controls.apart owns kept))
  | @accepted _ control _ _ _ _ _ event controls named writes passed =>
      have opened := controls.keeps owns.coherent located notEventControl notOomControl
      have different : descriptor ≠ control := by
        intro equal
        exact controls.apart owns kept (by rw [equal])
      exact (opened.trans (writes.keeps (controls.apart owns kept))).trans
        (Host.keeps_close _ different)

end Subscribing

end Watcher

end MemoryWatch
