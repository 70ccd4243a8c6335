import MemoryWatch.Proofs.Enlistment

/-!
# Attempts that fail before the registration

A subscription that cannot open one of the control files may be repeated.  All
that it leaves behind is the file for registrations, if that one did open, and
the next attempt gives it up when it has opened it anew.  So however often this
happens, and whatever becomes of the files meanwhile, nothing is written, the
channel is as it was, and an attempt that opens both files comes to the same as
if it had been the first.
-/

namespace MemoryWatch

open Environment (Silent)

namespace Environment

variable {env opened : Environment} {path : Path} {access : Access}
  {made : Descriptor}

/-- Opening one file and giving up another is done to the host alone. -/
theorem rest_reopened (open_ : env.openPath path access = (.ok made, opened))
    (held : Option Descriptor) :
    ∃ host trace, opened.closeHeld held = { env with host, trace } := by
  obtain ⟨_, _, _, _, _, rest⟩ := attach_of_openPath open_
  rw [rest]
  cases held <;> exact ⟨_, _, rfl⟩

/-- A file that is opened and closed again leaves every descriptor at its
place. -/
theorem position?_reopened
    (open_ : env.openPath path access = (.ok made, opened))
    (held : Option Descriptor) (descriptor : Descriptor) :
    ((opened.closeHeld held).close made).host.position? descriptor =
      (env.closeHeld held).host.position? descriptor := by
  obtain ⟨_, _, _, _, attached, _⟩ := attach_of_openPath open_
  have taken := position?_taken attached { eventControl := held }
    .eventControl descriptor
  cases held <;> exact taken

/-- A file that is opened and closed again leaves no trace on the host. -/
theorem mirrors_reopened (coherent : env.host.IsCoherent)
    (open_ : env.openPath path access = (.ok made, opened))
    (held : Option Descriptor) :
    (env.closeHeld held).host.Mirrors
      ((opened.closeHeld held).close made).host := by
  obtain ⟨_, _, _, _, attached, _⟩ := attach_of_openPath open_
  have taken := mirrors_taken coherent attached { eventControl := held }
    .eventControl
  cases held <;> exact taken

/-- One more file is open after a file was opened, also when another is given
up. -/
theorem openCount_reopened (coherent : env.host.IsCoherent)
    (open_ : env.openPath path access = (.ok made, opened))
    {held : Option Descriptor}
    (placed : ∀ descriptor, held = some descriptor →
      ∃ position, env.host.position? descriptor = some position) :
    (opened.closeHeld held).host.openCount =
      (env.closeHeld held).host.openCount + 1 := by
  obtain ⟨_, content, _, _, attached, _⟩ := attach_of_openPath open_
  have more : opened.host.openCount = env.host.openCount + 1 := by
    have counted := env.host.openCount_attach { content }
    rwa [attached] at counted
  cases held with
  | none => exact more
  | some closed =>
      obtain ⟨position, located⟩ := placed closed rfl
      have stays := (opens_openPath coherent open_).makes.keeps closed position
        located
      have fewer := Host.openCount_close located
      have fewerOpened := Host.openCount_close
        (stays.position.trans located)
      change (opened.host.close closed).openCount =
        (env.host.close closed).openCount + 1
      omega

/-- What opens in some surroundings opens in others with the same files, if
there is room for it. -/
theorem openPath_of_openPath {other : Environment}
    (tree : other.host.tree = env.host.tree)
    (room : env.host.hasRoom = true → other.host.hasRoom = true)
    (open_ : env.openPath path access = (.ok made, opened)) :
    ∃ twin openedTwin, other.openPath path access = (.ok twin, openedTwin) := by
  rw [openPath] at open_ ⊢
  rw [Host.openPath] at open_ ⊢
  rw [tree]
  generalize FileTree.check path = admitted at open_ ⊢
  generalize env.host.tree.locate path = located at open_ ⊢
  rcases admitted with cause | _
  · simp at open_
  by_cases roomy : env.host.hasRoom = true
  · have roomyTwin := room roomy
    simp only [roomy, roomyTwin, if_true] at open_ ⊢
    rcases located with cause | visit
    · simp at open_
    dsimp only at open_ ⊢
    generalize Host.contentOf visit.location access visit.node = given
      at open_ ⊢
    rcases given with cause | content
    · simp at open_
    simp only [Host.create, roomyTwin, if_true]
    exact ⟨_, _, rfl⟩
  · simp [roomy] at open_

end Environment

namespace Host

theorem hasRoom_of_le {host other : Host}
    (allowance : other.allowance = host.allowance)
    (fewer : other.openCount ≤ host.openCount) (room : host.hasRoom = true) :
    other.hasRoom = true := by
  rw [hasRoom, Bool.and_eq_true, decide_eq_true_eq] at room ⊢
  rw [allowance]
  refine ⟨lt_of_le_of_lt fewer room.1, ?_⟩
  have allowed := room.2
  cases kind : host.allowance with
  | unlimited => rfl
  | upTo total =>
      rw [kind] at allowed
      simp only [decide_eq_true_eq] at allowed ⊢
      omega
  | nothing =>
      rw [kind] at allowed
      exact allowed

end Host

namespace Session

/-- The session after others have changed the files, what these take and how
many descriptors there may be. -/
def refiled (session : Session) (tree : FileTree) (allowance : Allowance)
    (storage : Storage) : Session :=
  session.elapse
    { session.env with
      host := { session.env.host with tree, allowance, storage } }

/-- A session after so many attempts to subscribe that could not open one of
the control files, with changes of the files in between, and the session that
has gone through the same changes without any attempt. -/
inductive Attempts (start : Session) : Nat → Session → Session → Prop
  | unmade : Attempts start 0 start start
  | failed {number : Nat} {session twin : Session} {path : Path}
      {cause : SystemError} (earlier : Attempts start number session twin)
      (shut : session.watcher.Shut session.env path cause) :
      Attempts start (number + 1) session.subscribe twin
  | outside {number : Nat} {session twin : Session}
      (earlier : Attempts start number session twin) (tree : FileTree)
      (allowance : Allowance) (storage : Storage) :
      Attempts start number (session.refiled tree allowance storage)
        (twin.refiled tree allowance storage)

theorem bare_refiled (session : Session) (tree : FileTree)
    (allowance : Allowance) (storage : Storage) :
    (session.refiled tree allowance storage).bare =
      { session.bare with tree, allowance, storage } := by
  rw [bare, bare]
  change (Environment.closeHeld _ session.watcher.handles.eventControl).host = _
  cases session.watcher.handles.eventControl <;> rfl

/-- A session that differs from another one only by the file for registrations
that an attempt has left open. -/
structure Trails (twin session : Session) : Prop where
  watcher : session.watcher =
    { twin.watcher with
      handles := twin.watcher.handles.put .eventControl
        session.watcher.handles.eventControl }
  left : twin.watcher.handles.eventControl.isSome = true →
    session.watcher.handles.eventControl.isSome = true
  hosts : twin.bare.Mirrors session.bare
  position : ∀ descriptor,
    session.bare.position? descriptor = twin.bare.position? descriptor
  silent : Silent twin.env session.env
  env : session.env =
    { twin.env with host := session.env.host, trace := session.env.trace }

namespace Trails

variable {twin session : Session}

theorem refl {session : Session} (coherent : session.env.host.IsCoherent) :
    session.Trails session where
  watcher := rfl
  left := id
  hosts := .refl (Environment.isCoherent_closeHeld coherent _)
  position _ := rfl
  silent := .of_eq rfl
  env := rfl

theorem refile (trails : twin.Trails session) (tree : FileTree)
    (allowance : Allowance) (storage : Storage) :
    (twin.refiled tree allowance storage).Trails
      (session.refiled tree allowance storage) where
  watcher := trails.watcher
  left := trails.left
  hosts := by
    rw [bare_refiled, bare_refiled]
    exact { trails.hosts with allowance := rfl, storage := rfl, tree := rfl }
  position := by
    rw [bare_refiled, bare_refiled]
    exact trails.position
  silent := trails.silent
  env := by
    rw [refiled, elapse, trails.env]
    rfl

/-- An attempt that fails to open a control file goes on to differ in no more
than the handle that it leaves. -/
theorem fail (trails : twin.Trails session)
    (coherent : session.env.host.IsCoherent)
    (unmarked : session.watcher.handles.registration = none)
    {channel : Descriptor}
    (held : session.watcher.handles.channel = some channel) {path : Path}
    {cause : SystemError}
    (shut : session.watcher.Shut session.env path cause) :
    twin.Trails session.subscribe := by
  obtain same | ⟨control, opened, open_, result⟩ :=
    shut.subscribe_eq unmarked held
  · have stays : session.subscribe = session := by
      rw [Session.subscribe, same]
    rwa [stays]
  · have left : session.subscribe =
        ⟨{ session.watcher with
            handles := session.watcher.handles.put .eventControl
              (some control) },
          opened.closeHeld session.watcher.handles.eventControl⟩ := by
      rw [Session.subscribe, result]
    rw [left]
    refine ⟨?_, fun _ => rfl, ?_, fun descriptor => ?_, ?_, ?_⟩
    · rw [trails.watcher]
      rfl
    · exact trails.hosts.trans (Environment.mirrors_reopened coherent open_
        session.watcher.handles.eventControl)
    · exact (Environment.position?_reopened open_
        session.watcher.handles.eventControl descriptor).trans
          (trails.position descriptor)
    · exact (trails.silent.trans (Environment.silent_openPath open_)).trans
        (opened.silent_closeHeld _)
    · obtain ⟨host, trace, rest⟩ :=
        Environment.rest_reopened open_ session.watcher.handles.eventControl
      dsimp only
      rw [rest, trails.env]

end Trails

end Session

namespace Session

namespace Trails

variable {twin session : Session}

theorem tree (trails : twin.Trails session) :
    session.env.host.tree = twin.env.host.tree := by
  have same := trails.hosts.tree
  obtain ⟨_, here⟩ := session.host_bare
  obtain ⟨_, there⟩ := twin.host_bare
  rwa [here, there] at same

theorem allowance (trails : twin.Trails session) :
    session.env.host.allowance = twin.env.host.allowance := by
  have same := trails.hosts.allowance
  obtain ⟨_, here⟩ := session.host_bare
  obtain ⟨_, there⟩ := twin.host_bare
  rwa [here, there] at same

theorem storage (trails : twin.Trails session) :
    session.env.host.storage = twin.env.host.storage := by
  have same := trails.hosts.storage
  obtain ⟨_, here⟩ := session.host_bare
  obtain ⟨_, there⟩ := twin.host_bare
  rwa [here, there] at same

theorem settings (trails : twin.Trails session) :
    session.watcher.settings = twin.watcher.settings := by
  rw [trails.watcher]

theorem registration (trails : twin.Trails session) :
    session.watcher.handles.registration =
      twin.watcher.handles.registration := by
  rw [trails.watcher]
  rfl

theorem channel (trails : twin.Trails session) :
    session.watcher.handles.channel = twin.watcher.handles.channel := by
  rw [trails.watcher]
  rfl

/-- Without the attempts there is as much room for descriptors, or more. -/
theorem openCount_le (trails : twin.Trails session)
    (holds : session.watcher.Holds session.env)
    (twinHolds : twin.watcher.Holds twin.env) :
    twin.env.host.openCount ≤ session.env.host.openCount := by
  rw [openCount_bare holds, openCount_bare twinHolds, trails.hosts.openCount]
  have left := trails.left
  split <;> split <;> simp_all

/-- Both files would open without the attempts too. -/
theorem opensControls (trails : twin.Trails session)
    (holds : session.watcher.Holds session.env)
    (twinHolds : twin.watcher.Holds twin.env)
    {channel control oomControl : Descriptor} {ready : Environment}
    (controls : session.watcher.OpensControls session.env channel control
      oomControl ready) :
    ∃ controlTwin oomTwin readyTwin,
      twin.watcher.OpensControls twin.env channel controlTwin oomTwin
        readyTwin := by
  obtain ⟨first, second, opened, further, _⟩ := controls.opened
  rw [trails.settings] at opened further
  obtain ⟨controlTwin, firstTwin, openedTwin⟩ :=
    Environment.openPath_of_openPath trails.tree.symm
      (Host.hasRoom_of_le trails.allowance.symm
        (trails.openCount_le holds twinHolds)) opened
  have count := Environment.openCount_reopened holds.coherent opened
    (holds.placed .eventControl)
  have countTwin := Environment.openCount_reopened twinHolds.coherent
    openedTwin (twinHolds.placed .eventControl)
  have even : (firstTwin.closeHeld
      twin.watcher.handles.eventControl).host.openCount =
        (first.closeHeld session.watcher.handles.eventControl).host.openCount :=
    countTwin.trans
      ((congrArg (· + 1) trails.hosts.openCount.symm).trans count.symm)
  obtain ⟨_, _, host⟩ := Environment.host_reopened opened
    session.watcher.handles.eventControl
  obtain ⟨_, _, hostTwin⟩ := Environment.host_reopened openedTwin
    twin.watcher.handles.eventControl
  have tree : (firstTwin.closeHeld
      twin.watcher.handles.eventControl).host.tree =
        (first.closeHeld session.watcher.handles.eventControl).host.tree := by
    rw [host, hostTwin]
    exact trails.tree.symm
  have allowance : (firstTwin.closeHeld
      twin.watcher.handles.eventControl).host.allowance =
        (first.closeHeld
          session.watcher.handles.eventControl).host.allowance := by
    rw [host, hostTwin]
    exact trails.allowance.symm
  obtain ⟨oomTwin, secondTwin, furtherTwin⟩ :=
    Environment.openPath_of_openPath tree
      (Host.hasRoom_of_le allowance even.le) further
  exact ⟨controlTwin, oomTwin, _,
    trails.registration.symm.trans controls.unmarked,
    trails.channel.symm.trans controls.held, firstTwin, secondTwin, openedTwin,
    furtherTwin, rfl⟩

end Trails

/-- What an attempt comes to that opens both files, against what the same
attempt comes to without any before it.  They differ in the numbers that they
use, and so in the texts that they write, and in nothing else. -/
structure Retried (twin session : Session)
    (channel control oomControl controlTwin oomTwin : Descriptor)
    (answer answerTwin : Answer SystemError Nat) : Prop where
  enlisted : session.Enlisted channel control oomControl answer
  twinEnlisted : twin.Enlisted channel controlTwin oomTwin answerTwin
  taken : Registration.SameTake (Watcher.textLength channel oomTwin)
    (Watcher.textLength channel oomControl) answerTwin answer
  same : Answer.Same (.ofExcept (twin.watcher.subscribe twin.env).1)
    (.ofExcept (session.watcher.subscribe session.env).1)
  handles : twin.subscribe.watcher.handles.Same session.subscribe.watcher.handles
  settings : session.subscribe.watcher.settings =
    twin.subscribe.watcher.settings
  cancel : session.subscribe.watcher.cancel = twin.subscribe.watcher.cancel
  works : Environment.Works twin.subscribe.env session.subscribe.env
  files : FileTree.SameFiles twin.env.host.storage
    twin.subscribe.env.host.tree session.subscribe.env.host.tree
  listens : session.subscribe.env.host.openFile? oomControl =
    twin.subscribe.env.host.openFile? oomTwin
  rest : twin.subscribe.stripped.Resembles session.subscribe.stripped

namespace Trails

variable {twin session : Session} {settings : Settings}
  {channel control oomControl : Descriptor} {ready : Environment}

theorem retried (trails : twin.Trails session)
    (formed : WellFormed settings session)
    (twinFormed : WellFormed settings twin)
    (controls : session.watcher.OpensControls session.env channel control
      oomControl ready) :
    ∃ controlTwin oomTwin answer answerTwin,
      Retried twin session channel control oomControl controlTwin oomTwin
        answer answerTwin := by
  obtain ⟨controlTwin, oomTwin, readyTwin, controlsTwin⟩ :=
    trails.opensControls formed.holds twinFormed.holds controls
  have enlisted := formed.enlisted controls
  have twinEnlisted := twinFormed.enlisted controlsTwin
  have cgroup : session.watcher.settings.cgroup =
      twin.watcher.settings.cgroup := by
    rw [trails.settings]
  obtain ⟨visit, content, resolved, given, file⟩ :=
    controls.opensControl formed.holds.coherent formed.holds.placed
  obtain ⟨visitTwin, copy, resolvedTwin, givenTwin, fileTwin⟩ :=
    controlsTwin.opensControl twinFormed.holds.coherent
      twinFormed.holds.placed
  rw [trails.tree, cgroup, resolvedTwin] at resolved
  cases resolved
  rw [givenTwin] at given
  cases given
  have writable : (∃ location, content = .endpoint location) ∨
      ∃ device, content = .device device .writing := by
    obtain ⟨_, _, same⟩ | ⟨device, _, same⟩ :=
      Host.contentOf_writing givenTwin
    · exact Or.inl ⟨_, same⟩
    · exact Or.inr ⟨device, same⟩
  have storage : ready.host.storage = readyTwin.host.storage :=
    (congrArg Scene.storage controls.scene).trans
      (trails.storage.trans (congrArg Scene.storage controlsTwin.scene).symm)
  have text : Registration.IsText (Utf8.ofString s!"{channel} {oomControl}") :=
    .mk (formed.named controls)
  have copy : Registration.IsText (Utf8.ofString s!"{channel} {oomTwin}") :=
    .mk (twinFormed.named controlsTwin)
  have taken := Host.sameTake_write storage copy text fileTwin file writable
  have same : Answer.Same (.ofExcept (twin.watcher.subscribe twin.env).1)
      (.ofExcept (session.watcher.subscribe session.env).1) := by
    rw [enlisted.result, twinEnlisted.result, Watcher.verdict,
      Watcher.verdict, trails.settings]
    exact .of_sameVerdict (Registration.judge_alike taken _ _)
  refine ⟨controlTwin, oomTwin, _, _, enlisted, twinEnlisted, taken, same, ?_,
    ?_, ?_, ?_, ?_, ?_, ?_⟩
  · have results := same
    rw [enlisted.result, twinEnlisted.result] at results
    rw [enlisted.watcher, twinEnlisted.watcher]
    exact Handles.same_enlisted results _ _ _ _ _
  · rw [enlisted.watcher, twinEnlisted.watcher]
    exact trails.settings
  · rw [enlisted.watcher, twinEnlisted.watcher, trails.watcher]
  · obtain ⟨_, _, _, here⟩ := session.watcher.works_subscribe session.env
    obtain ⟨_, _, _, there⟩ := twin.watcher.works_subscribe twin.env
    rw [Session.subscribe, Session.subscribe, here, there, trails.env]
    exact ⟨_, _, _, rfl⟩
  · have before : ready.host.tree = readyTwin.host.tree :=
      (congrArg Scene.tree controls.scene).trans
        (trails.tree.trans (congrArg Scene.tree controlsTwin.scene).symm)
    have kept : readyTwin.host.storage = twin.env.host.storage :=
      congrArg Scene.storage controlsTwin.scene
    rw [formed.tree_subscribe controls, twinFormed.tree_subscribe controlsTwin,
      ← kept]
    refine Host.sameFiles_write ?_ storage copy text fileTwin file writable
    rw [before]
    exact ⟨.refl .same _, rfl⟩
  · obtain ⟨visit, content, resolved, given, listens⟩ := enlisted.listens
    obtain ⟨visitTwin, copy, resolvedTwin, givenTwin, listensTwin⟩ :=
      twinEnlisted.listens
    rw [trails.tree, cgroup, resolvedTwin] at resolved
    cases resolved
    rw [givenTwin] at given
    cases given
    rw [listens, listensTwin]
  · exact (twinEnlisted.rest.symm.trans trails.hosts.toResembles).trans
      enlisted.rest

end Trails

end Session

theorem WellFormed.refiled {settings : Settings} {session : Session}
    (formed : WellFormed settings session) (tree : FileTree)
    (allowance : Allowance) (storage : Storage) :
    WellFormed settings (session.refiled tree allowance storage) :=
  formed.still (.keep
    (formed.holds.spares (.of_eq rfl) (.of_eq rfl rfl rfl)) rfl)

theorem Shape.count_le_two {policy : RegistrationPolicy} {handles : Handles}
    (shape : Shape policy handles) (unmarked : handles.registration = none) :
    handles.count ≤ 2 := by
  cases shape with
  | vacant mark | ready channel mark | halfway apart =>
      simp [Handles.count, Handles.held]
  | subscribed apart | rejected strict apart channelApart controlsApart =>
      cases unmarked

namespace Session

/-! ## Any number of attempts -/

/-- What goes on to be true while attempts fail. -/
structure Following (settings : Settings) (start twin session : Session) :
    Prop where
  formed : WellFormed settings session
  twinFormed : WellFormed settings twin
  trails : twin.Trails session
  outside : ∃ tree allowance storage,
    twin = start.refiled tree allowance storage

/-- No attempt that fails and no change of the files makes a session differ by
more than the handle that an attempt leaves. -/
theorem Attempts.following {settings : Settings}
    {start session twin : Session} {number : Nat} {channel : Descriptor}
    (attempts : Attempts start number session twin)
    (formed : WellFormed settings start)
    (held : start.watcher.handles.channel = some channel)
    (unmarked : start.watcher.handles.registration = none) :
    Following settings start twin session := by
  induction attempts with
  | unmade =>
      exact ⟨formed, formed, .refl formed.holds.coherent, _, _, _, rfl⟩
  | @failed number session twin path cause earlier shut ih =>
      obtain ⟨tree, allowance, storage, rfl⟩ := ih.outside
      exact
        { ih with
          formed := ih.formed.subscribe
          trails := ih.trails.fail ih.formed.holds.coherent
            (ih.trails.registration.trans unmarked)
            (ih.trails.channel.trans held) shut
          outside := ⟨_, _, _, rfl⟩ }
  | @outside number session twin earlier tree allowance storage ih =>
      obtain ⟨_, _, _, same⟩ := ih.outside
      refine ⟨ih.formed.refiled _ _ _, ih.twinFormed.refiled _ _ _,
        ih.trails.refile _ _ _, tree, allowance, storage, ?_⟩
      rw [same]
      rfl

/-- What attempts that could not open a control file leave as it was before
them, and what comes of one more attempt.  The twin is the session in which they
were never made. -/
structure Repeatable (start twin session : Session) (channel : Descriptor) :
    Prop where
  outside : ∃ tree allowance storage,
    twin = start.refiled tree allowance storage
  unwritten : Silent start.env session.env
  tree : session.env.host.tree = twin.env.host.tree
  rest : twin.bare.Mirrors session.bare
  held : session.watcher.handles.channel = some channel
  keeps : Host.Keeps channel start.env.host session.env.host
  unmarked : session.watcher.handles.registration = none
  unwatched : session.watcher.watch session.env =
    (.failed (.misuse .notSubscribed), session.env)
  few : session.watcher.handles.count ≤ 2
  refused : ∀ path cause, session.watcher.Shut session.env path cause →
    (session.watcher.subscribe session.env).1 =
      .error (.controlUnavailable path cause)
  retried : ∀ control oomControl ready,
    session.watcher.OpensControls session.env channel control oomControl
        ready →
      ∃ controlTwin oomTwin answer answerTwin,
        Retried twin session channel control oomControl controlTwin oomTwin
          answer answerTwin

theorem Following.keeps {settings : Settings} {start twin session : Session}
    (following : Following settings start twin session) {channel : Descriptor}
    (held : start.watcher.handles.channel = some channel) :
    Host.Keeps channel start.env.host session.env.host := by
  obtain ⟨tree, allowance, storage, rfl⟩ := following.outside
  have trails := following.trails
  have apart : session.watcher.handles.eventControl ≠ some channel :=
    fun other => absurd (following.formed.holds.distinct .channel .eventControl
      channel (trails.channel.trans held) other) (by simp)
  have apartBefore : start.watcher.handles.eventControl ≠ some channel :=
    fun other => absurd (following.twinFormed.holds.distinct .channel
      .eventControl channel held other) (by simp)
  have here := session.env.keeps_closeHeld apart
  have there := (start.refiled tree allowance storage).env.keeps_closeHeld
    apartBefore
  exact
    ⟨here.position.symm.trans ((trails.position channel).trans there.position),
      here.file.symm.trans ((trails.hosts.file channel).trans there.file)⟩

/-- The sample after others have made so much of its cgroup. -/
def provided (session : Session) (actions : List Action) : Session :=
  session.refiled (sample actions).env.host.tree .unlimited .ample

/-- The sample that has made its channel before there is a cgroup. -/
def earlySample : Session :=
  (sample []).setup

/-- It has tried in vain without any file, and then the first one appears. -/
def halfwayEarly : Session :=
  earlySample.subscribe.provided partialActions

/-- It has tried in vain again, and then the second one appears. -/
def persistentSample : Session :=
  halfwayEarly.subscribe.provided sampleActions

end Session

end MemoryWatch
