import MemoryWatch.Proofs.Rounds
import MemoryWatch.Proofs.Subscription

/-!
# The life of a watcher

A session is a watcher in its surroundings.  In its life the operations are
called in any order and with any outcome.  Between two of them others may add to
the channel, and may do everything else that leaves the descriptors of the
watcher alone.  A run is the life of the operations it is made of.
-/

namespace MemoryWatch

/-- A watcher in its surroundings. -/
structure Session where
  watcher : Watcher
  env : Environment

namespace Session

/-- The session after the channel was made, or could not be. -/
def setup (session : Session) : Session where
  watcher := (session.watcher.setup session.env).2.1
  env := (session.watcher.setup session.env).2.2

/-- The session after a subscription. -/
def subscribe (session : Session) : Session where
  watcher := (session.watcher.subscribe session.env).2.1
  env := (session.watcher.subscribe session.env).2.2

/-- The session after a watch. -/
def watch (session : Session) : Session where
  watcher := session.watcher
  env := (session.watcher.watch session.env).2

/-- The session after every handle was closed. -/
def cleanup (session : Session) : Session where
  watcher := (session.watcher.cleanup session.env).2.1
  env := (session.watcher.cleanup session.env).2.2

/-- The session after somebody has asked for a second descriptor of the
channel. -/
def notifier (session : Session) (channel : Descriptor) : Session where
  watcher := session.watcher
  env := (Channel.notifier channel session.env).2

/-- The session after others have acted. -/
def elapse (session : Session) (after : Environment) : Session where
  watcher := session.watcher
  env := after

end Session

/-- What one operation of a watcher came to. -/
inductive Outcome where
  | setUp (result : Except WatchError Unit)
  | subscribed (result : Except WatchError Unit)
  | watched (answer : Answer WatchError Summary)
  | cleanedUp (released : Nat)
  | notifierMade (result : Except SystemError Descriptor)

namespace Watcher

variable {watcher : Watcher} {env : Environment}

/-- What others may do to a watcher between two operations, apart from adding to
its channel.  What it holds stays as it is, and the counter that can cancel it
stays a counter. -/
structure Elsewhere (watcher : Watcher) (before after : Environment) :
    Prop where
  trace : after.trace = before.trace
  coherent : after.host.IsCoherent
  held : ∀ kind descriptor,
    watcher.handles.descriptor? kind = some descriptor →
      Host.Keeps descriptor before.host after.host
  cancelPlaced : ∀ descriptor, watcher.IsCancelledThrough after descriptor →
    ∃ position, after.host.position? descriptor = some position
  cancelApart : ∀ descriptor, watcher.IsCancelledThrough after descriptor →
    ∀ kind held, watcher.handles.descriptor? kind = some held →
      after.host.position? held ≠ after.host.position? descriptor
  cancelCounts : ∀ descriptor pending, watcher.cancel = some descriptor →
    before.host.pending? descriptor = some pending →
      ∃ sum, after.host.pending? descriptor = some sum

/-- What others may do between two operations. -/
inductive Outside (watcher : Watcher) (before : Environment) :
    Environment → Prop
  /-- Somebody adds to the channel through any descriptor that there is for
  it. -/
  | notified {channel other : Descriptor} (count : UInt64)
      (held : watcher.handles.channel = some channel)
      (same : before.host.position? other = before.host.position? channel) :
      Outside watcher before (before.add other count).2
  | elsewhere {after : Environment}
      (changes : watcher.Elsewhere before after) : Outside watcher before after

theorem Outside.position {after : Environment}
    (outside : watcher.Outside env after) {kind : HandleKind}
    {descriptor : Descriptor}
    (held : watcher.handles.descriptor? kind = some descriptor) :
    after.host.position? descriptor = env.host.position? descriptor := by
  cases outside with
  | notified count _ same =>
      exact (Environment.Stays.add env _ count).position descriptor
  | elsewhere changes => exact (changes.held kind descriptor held).position

/-- A watcher that owns what it holds goes on to own it. -/
theorem Owns.outside {after : Environment} (owns : watcher.Owns env)
    (outside : watcher.Outside env after) : watcher.Owns after := by
  cases outside with
  | notified count held same => exact owns.stays (.add env _ count)
  | elsewhere changes =>
      refine ⟨changes.coherent, ?_, ?_, changes.cancelPlaced,
        changes.cancelApart⟩
      · intro kind descriptor held
        rw [(changes.held kind descriptor held).position]
        exact owns.placed kind descriptor held
      · intro kind other first second different firstHeld secondHeld
        rw [(changes.held kind first firstHeld).position,
          (changes.held other second secondHeld).position]
        exact owns.apart kind other first second different firstHeld secondHeld

/-- Others may replace the sink, the schedule and everything else that is
neither on the host nor in the trace. -/
theorem Owns.elsewhere_of_eq (owns : watcher.Owns env) (after : Environment)
    (host : after.host = env.host) (canceller : after.canceller = env.canceller)
    (trace : after.trace = env.trace) : watcher.Elsewhere env after := by
  have stays : Environment.Stays env after := by
    refine ⟨fun descriptor => by rw [host], fun coherent => ?_, canceller⟩
    rwa [host]
  have owning := owns.stays stays
  refine ⟨trace, owning.coherent, ?_, owning.cancelPlaced, owning.cancelApart,
    ?_⟩
  · intro _ descriptor _
    rw [host]
    exact Host.Keeps.refl descriptor env.host
  · intro _ pending _ counted
    rw [host]
    exact ⟨pending, counted⟩

theorem setup_cases (watcher : Watcher) (coherent : env.host.IsCoherent) :
    (∃ error, watcher.setup env = (.error error, watcher, env)) ∨
      ∃ channel after event, watcher.handles.channel = none ∧
        Environment.Opens channel env after ∧
        after.host.openFile? channel = some { content := .counter 0 } ∧
        watcher.setup env =
          (.ok (),
           { watcher with
             handles := watcher.handles.put .channel (some channel) },
           after.note event) := by
  rw [setup]
  cases held : watcher.handles.channel with
  | some channel => exact Or.inl ⟨_, rfl⟩
  | none =>
      dsimp only
      rw [Channel.create]
      rcases made : env.create (.counter 0) with ⟨cause | channel, after⟩
      · rw [Environment.create_error made]
        exact Or.inl ⟨_, rfl⟩
      · obtain ⟨opens, file⟩ :=
          Environment.opens_create coherent made
        exact Or.inr ⟨channel, after, _, rfl, opens, file, rfl⟩

theorem setup_of_channel {channel : Descriptor}
    (held : watcher.handles.channel = some channel) (env : Environment) :
    watcher.setup env = (.error (.misuse .channelExists), watcher, env) := by
  rw [setup, held]

theorem subscribe_of_registration {text : String}
    (marked : watcher.handles.registration = some text) (env : Environment) :
    ∃ fault, watcher.subscribe env =
      (.error (.misuse fault), watcher, env) := by
  rw [subscribe]
  dsimp only
  rw [marked]
  exact ⟨_, rfl⟩

theorem Owns.setup (owns : watcher.Owns env) :
    (watcher.setup env).2.1.Owns (watcher.setup env).2.2 := by
  obtain ⟨error, result⟩ | ⟨channel, after, event, free, opens, _, result⟩ :=
    watcher.setup_cases owns.coherent
  · rw [result]
    exact owns
  · rw [result]
    have acquired : Owns { watcher with
        handles := watcher.handles.put .channel (some channel) }
        (after.closeHeld watcher.handles.channel) :=
      owns.acquire opens.makes opens.canceller .channel rfl rfl
    rw [free] at acquired
    exact acquired.note event

/-! ## Cleaning up -/

theorem coherent_closeHandles {handles : List (HandleKind × Descriptor)}
    (coherent : env.host.IsCoherent) :
    (handles.foldl closeHandle env).host.IsCoherent := by
  induction handles generalizing env with
  | nil => exact coherent
  | cons handle rest ih => exact ih (Host.isCoherent_close coherent handle.2)

theorem canceller_closeHandles (handles : List (HandleKind × Descriptor))
    (env : Environment) :
    (handles.foldl closeHandle env).canceller = env.canceller := by
  induction handles generalizing env with
  | nil => rfl
  | cons handle rest ih => exact ih _

/-- Each handle is given up once, in the order given. -/
theorem trace_closeHandles (handles : List (HandleKind × Descriptor))
    (env : Environment) :
    (handles.foldl closeHandle env).trace =
      env.trace ++ handles.map fun handle => .closed handle.2 := by
  induction handles generalizing env with
  | nil => simp
  | cons handle rest ih =>
      rw [List.foldl_cons, ih]
      simp [closeHandle, Environment.close, Environment.record,
        Environment.note]

theorem keeps_closeHandles {handles : List (HandleKind × Descriptor)}
    {descriptor : Descriptor}
    (other : ∀ handle ∈ handles, handle.2 ≠ descriptor) (env : Environment) :
    Host.Keeps descriptor env.host (handles.foldl closeHandle env).host := by
  induction handles generalizing env with
  | nil => exact Host.Keeps.refl descriptor env.host
  | cons handle rest ih =>
      have different : descriptor ≠ handle.2 := (other handle (by simp)).symm
      exact (Host.keeps_close env.host different).trans
        (ih (fun later member => other later (by simp [member]))
          (closeHandle env handle))

theorem mem_held_iff {handles : Handles} {handle : HandleKind × Descriptor} :
    handle ∈ handles.held ↔ handles.descriptor? handle.1 = some handle.2 := by
  obtain ⟨kind, descriptor⟩ := handle
  cases kind <;> simp [Handles.held, Handles.descriptor?]

theorem Owns.cleanup (owns : watcher.Owns env) :
    (watcher.cleanup env).2.1.Owns (watcher.cleanup env).2.2 := by
  refine owns.change rfl (canceller_closeHandles _ env)
    (coherent_closeHandles owns.coherent) .channel ?_ ?_
  · intro kind descriptor held
    cases kind <;> cases held
  · intro descriptor cancels
    refine (keeps_closeHandles ?_ env).position
    intro handle member
    exact owns.ne_of_isCancelledThrough (mem_held_iff.mp member) cancels

theorem stays_watch (watcher : Watcher) (env : Environment) :
    Environment.Stays env (watcher.watch env).2 := by
  cases watched : watcher.watched? with
  | none =>
      obtain ⟨fault, result⟩ := watch_of_not_watched? watched env
      rw [result]
      exact .refl env
  | some channel => exact .motions (Motions.watch watched env)

/-- A watcher without a channel cannot make a notifier. -/
theorem notifier_cases (watcher : Watcher) (env : Environment) :
    (watcher.notifier env).2 = env ∨
      ∃ channel, watcher.handles.channel = some channel ∧
        (watcher.notifier env).2 = (Channel.notifier channel env).2 := by
  cases held : watcher.handles.channel with
  | none =>
      left
      rw [notifier, held]
  | some channel =>
      right
      refine ⟨channel, rfl, ?_⟩
      simp only [notifier, held]
      rcases Channel.notifier channel env with ⟨cause | second, after⟩ <;> rfl

theorem Owns.notifier (owns : watcher.Owns env) (channel : Descriptor) :
    watcher.Owns (Channel.notifier channel env).2 := by
  have kept : ∀ descriptor position,
      env.host.position? descriptor = some position →
        (Channel.notifier channel env).2.host.position? descriptor =
          env.host.position? descriptor := by
    intro descriptor position located
    exact (Host.keeps_duplicate env.host channel located).position
  refine owns.change rfl rfl
    (Host.isCoherent_duplicate owns.coherent channel) .channel ?_ ?_
  · intro kind descriptor held
    obtain ⟨position, located⟩ := owns.placed kind descriptor held
    exact Or.inl ⟨held, kept descriptor position located⟩
  · intro descriptor cancels
    obtain ⟨position, located⟩ := owns.cancelPlaced descriptor cancels
    exact kept descriptor position located

end Watcher

/-- The sessions that a session can come to, with what the operations on the way
came to. -/
inductive Life (origin : Session) : List Outcome → Session → Prop
  | born : Life origin [] origin
  | setup {history : List Outcome} {session : Session}
      (life : Life origin history session) :
      Life origin
        (history ++ [.setUp (session.watcher.setup session.env).1])
        session.setup
  | subscribe {history : List Outcome} {session : Session}
      (life : Life origin history session) :
      Life origin
        (history ++ [.subscribed (session.watcher.subscribe session.env).1])
        session.subscribe
  | watch {history : List Outcome} {session : Session}
      (life : Life origin history session) :
      Life origin
        (history ++ [.watched (session.watcher.watch session.env).1])
        session.watch
  | cleanup {history : List Outcome} {session : Session}
      (life : Life origin history session) :
      Life origin
        (history ++ [.cleanedUp (session.watcher.cleanup session.env).1])
        session.cleanup
  | notifier {history : List Outcome} {session : Session}
      {channel : Descriptor} (life : Life origin history session)
      (held : session.watcher.handles.channel = some channel) :
      Life origin
        (history ++ [.notifierMade (Channel.notifier channel session.env).1])
        (session.notifier channel)
  | outside {history : List Outcome} {session : Session} {after : Environment}
      (life : Life origin history session)
      (outside : session.watcher.Outside session.env after) :
      Life origin history (session.elapse after)

namespace Session

/-- A new watcher holds nothing, and what can cancel it is open. -/
structure IsFresh (session : Session) : Prop where
  handles : session.watcher.handles = {}
  coherent : session.env.host.IsCoherent
  cancelPlaced : ∀ descriptor,
    session.watcher.IsCancelledThrough session.env descriptor →
      ∃ position, session.env.host.position? descriptor = some position

theorem IsFresh.owns {session : Session} (fresh : session.IsFresh) :
    session.watcher.Owns session.env := by
  have free := Handles.descriptor?_of_empty fresh.handles
  refine ⟨fresh.coherent, ?_, ?_, fresh.cancelPlaced, ?_⟩
  · intro kind descriptor held
    rw [free] at held
    cases held
  · intro kind _ _ _ _ held
    rw [free] at held
    cases held
  · intro _ _ kind _ held
    rw [free] at held
    cases held

end Session

namespace Life

variable {origin session : Session} {history : List Outcome}

/-- A watcher owns what it holds all its life. -/
theorem owns (life : Life origin history session)
    (owns : origin.watcher.Owns origin.env) :
    session.watcher.Owns session.env := by
  induction life with
  | born => exact owns
  | setup _ ih => exact ih.setup
  | @subscribe _ session _ ih =>
      exact (session.watcher.subscribing_subscribe session.env).owns ih
  | @watch _ session _ ih =>
      exact ih.stays (session.watcher.stays_watch session.env)
  | cleanup _ ih => exact ih.cleanup
  | notifier _ _ ih => exact ih.notifier _
  | outside _ outside ih => exact ih.outside outside

/-- Others may have planned anything at the beginning of an operation. -/
theorem reschedule (life : Life origin history session)
    (owns : origin.watcher.Owns origin.env) (schedule : Schedule) :
    Life origin history
      (session.elapse { session.env with schedule := schedule }) :=
  life.outside (.elsewhere
    ((life.owns owns).elsewhere_of_eq _ rfl rfl rfl))

/-- The operations of a run up to the watch. -/
theorem attempt (life : Life origin history session) :
    ∃ later, Life origin (history ++ later)
      ⟨(session.watcher.attempt session.env).2.1,
        (session.watcher.attempt session.env).2.2⟩ := by
  rw [Watcher.attempt]
  have ready := life.setup
  rw [Session.setup] at ready
  rcases first : session.watcher.setup session.env with
    ⟨error | _, watcher, env⟩
  · rw [first] at ready
    exact ⟨_, ready⟩
  · rw [first] at ready
    have watching := ready.subscribe
    rw [Session.subscribe, List.append_assoc] at watching
    dsimp only at watching ⊢
    rcases second : watcher.subscribe env with ⟨error | _, subscribed, after⟩
    · rw [second] at watching
      exact ⟨_, watching⟩
    · rw [second] at watching
      have done := watching.watch
      rw [Session.watch, List.append_assoc] at done
      exact ⟨_, done⟩

/-- A run is a life of its operations, and it has cleaned up if it returns. -/
theorem run (life : Life origin history session)
    (owns : origin.watcher.Owns origin.env) :
    ∃ later, Life origin (history ++ later)
        ⟨(session.watcher.run session.env).2.1,
          (session.watcher.run session.env).2.2⟩ ∧
      ((session.watcher.run session.env).1 ≠ .blocked →
        ∃ released, .cleanedUp released ∈ later) := by
  obtain ⟨later, attempted⟩ := life.attempt
  rw [Watcher.run]
  rcases result : session.watcher.attempt session.env with
    ⟨answer, watcher, env⟩
  rw [result] at attempted
  have cleaned := attempted.cleanup
  rw [Session.cleanup, List.append_assoc] at cleaned
  have owning := cleaned.owns owns
  have noted := cleaned.outside (.elsewhere (owning.elsewhere_of_eq
    ((watcher.cleanup env).2.2.note (.released (watcher.cleanup env).1))
    rfl rfl rfl))
  cases answer with
  | blocked =>
      -- A watch that never ends is not cleaned up after.
      exact ⟨later, attempted, fun returned => absurd rfl returned⟩
  | done summary | failed error =>
      exact ⟨_, noted, fun _ =>
        ⟨_, List.mem_append_right later (List.mem_singleton_self _)⟩⟩

end Life

namespace Session

/-- The cgroup of the sample. -/
def sampleCgroup : Path :=
  ⟨[0x67]⟩

/-- A new watcher that can be cancelled, after some actions of others. -/
def sample (actions : List Action) : Session where
  watcher := { settings := { cgroup := sampleCgroup }, cancel := some 3 }
  env :=
    { ((Environment.fresh {}).create (.counter 0)).2.actAll none actions with
      canceller := some 3 }

/-- What makes the cgroup of the sample. -/
def sampleActions : List Action :=
  [.makeDirectories sampleCgroup,
    .writeFile (Cgroup.eventControl sampleCgroup) [],
    .writeFile (Cgroup.oomControl sampleCgroup) []]

theorem isFresh_sample_of {actions : List Action}
    (coherent : (sample actions).env.host.IsCoherent)
    (located : (sample actions).env.host.position? 3 = some 3) :
    (sample actions).IsFresh where
  handles := rfl
  coherent := coherent
  cancelPlaced descriptor cancels := by
    rcases cancels with same | same
    · cases same
      exact ⟨3, located⟩
    · cases same
      exact ⟨3, located⟩

theorem isFresh_sample : (sample sampleActions).IsFresh :=
  isFresh_sample_of (by decide +kernel) (by decide +kernel)

/-- The sample with the channel that it makes first. -/
def readySample : Session :=
  (sample sampleActions).setup

end Session

end MemoryWatch
