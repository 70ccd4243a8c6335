import MemoryWatch.Proofs.Account
import MemoryWatch.Proofs.Steps
import MemoryWatch.Proofs.Upkeep

/-!
# No notification is lost

From the moment in which a watcher makes its channel until it gives it up, the
account of the channel is balanced, whatever the operations come to and whatever
others do during them and in between.  A wait that ends as notified leaves
something to read, so that the read after it gives a value, and a watch reports
each value that it reads exactly once.
-/

namespace MemoryWatch

namespace Channel

variable {channel : Descriptor} {cancel : Option Descriptor}

/-- A wait that ends as notified has seen something to tell. -/
theorem glance_of_wait {timeout : Option Duration} {env after : Environment}
    (ended : wait channel cancel timeout env = (.done .notified, after)) :
    glance channel cancel after = some .notified := by
  obtain ⟨heard, _, hears, rfl⟩ := hears_of_wait ended
  cases hears with
  | seen count within quiet shown => exact shown

theorem readiness_of_pending {host : Host} {descriptor : Descriptor}
    {pending : UInt64} (counted : host.pending? descriptor = some pending) :
    host.readiness descriptor = ⟨pending ≠ 0, false⟩ := by
  obtain ⟨impatient, opened⟩ := Host.pending?_eq_some_iff.mp counted
  rw [Host.readiness, opened]
  rfl

/-- A look at counters shows whether the handle was fired, and otherwise whether
the channel has something to tell. -/
theorem glance_cases {env : Environment} {pending : UInt64}
    (counted : env.host.pending? channel = some pending)
    (cancelCounts : ∀ handle, cancel = some handle →
      ∃ sum, env.host.pending? handle = some sum) :
    (∃ handle, cancel = some handle ∧ env.Fired handle ∧
        glance channel cancel env = some .cancelled) ∨
      (∀ handle, cancel = some handle → ¬ env.Fired handle) ∧
        (pending ≠ 0 ∧ glance channel cancel env = some .notified ∨
          pending = 0 ∧ glance channel cancel env = none) := by
  have told := readiness_of_pending counted
  cases cancel with
  | none =>
      refine Or.inr ⟨by simp, ?_⟩
      by_cases empty : pending = 0 <;>
        simp [glance, told, empty, Readiness.any]
  | some handle =>
      obtain ⟨sum, cancelCounted⟩ := cancelCounts handle rfl
      have cancelTold := readiness_of_pending cancelCounted
      by_cases unfired : sum = 0
      · refine Or.inr ⟨?_, ?_⟩
        · rintro _ ⟨⟩ ⟨other, counted, filled⟩
          rw [cancelCounted] at counted
          cases counted
          exact filled unfired
        · by_cases empty : pending = 0 <;>
            simp [glance, told, cancelTold, unfired, empty, Readiness.any]
      · refine Or.inl ⟨handle, rfl, ⟨sum, cancelCounted, unfired⟩, ?_⟩
        simp [glance, cancelTold, unfired]

/-- When the handle that cancels is a counter, it is the channel that has
something to tell. -/
theorem pending_ne_zero_of_glance {env : Environment} {pending : UInt64}
    (seen : glance channel cancel env = some .notified)
    (counted : env.host.pending? channel = some pending)
    (cancelCounts : ∀ handle, cancel = some handle →
      ∃ sum, env.host.pending? handle = some sum) : pending ≠ 0 := by
  obtain ⟨_, _, _, other⟩ | ⟨_, ⟨filled, _⟩ | ⟨_, other⟩⟩ :=
    glance_cases counted cancelCounts
  · simp [other] at seen
  · exact filled
  · simp [other] at seen

/-- The bytes of a counter that is not empty are its sum. -/
theorem fetch_of_pending {env : Environment} {pending : UInt64}
    (counted : env.host.pending? channel = some pending)
    (filled : pending ≠ 0) :
    (fetch channel env).1 = .done (Counter.toBytes pending) := by
  obtain ⟨trace, fetched⟩ := fetch_eq channel env
  rw [fetched]
  exact (Host.read_of_pending_ne_zero counted filled).1

theorem interpret_toBytes (counter : UInt64) :
    interpret channel (.done (Counter.toBytes counter)) = .done counter := by
  simp [interpret, decode]

end Channel

namespace Step

/-- Reads, and records handed to the sink. -/
def isExchange : Step → Bool
  | read _ | delivered _ _ => true
  | opened _ | closed _ | registered _ _ | waited _ _ | probed _ | added _
  | interrupted => false

/-- A read of a counter, and the delivery of its record. -/
def exchange (report : UInt64 × Except SystemError Unit) : List Step :=
  [.read (.done (Counter.toBytes report.1)), .delivered report.1 report.2]

end Step

namespace Environment

/-- The reads and deliveries so far. -/
def exchanges (env : Environment) : List Step :=
  env.trace.filter Step.isExchange

theorem exchanges_eq_outward (env : Environment) :
    env.exchanges = env.outward.filter Step.isExchange := by
  rw [exchanges, outward, List.filter_filter]
  congr 1
  funext step
  cases step <;> rfl

theorem exchanges_of_outward {start env : Environment} {steps : List Step}
    (shown : env.outward = start.outward ++ steps) :
    env.exchanges = start.exchanges ++ steps.filter Step.isExchange := by
  rw [exchanges_eq_outward, shown, List.filter_append, exchanges_eq_outward]

end Environment

namespace Watcher

variable {watcher : Watcher} {channel : Descriptor}
  {start env : Environment}

theorem exchanges_afterProbe (watcher : Watcher) (notifications : Nat)
    (env : Environment) :
    (watcher.afterProbe notifications env).surroundings.exchanges =
      env.exchanges := by
  have probed := Environment.exchanges_of_outward
    (env.outward_probe watcher.settings.cgroup)
  rw [show [Step.probed _].filter Step.isExchange = [] from rfl,
    List.append_nil] at probed
  obtain ⟨_, result⟩ | ⟨_, result⟩ :=
    watcher.afterProbe_cases notifications env
  · rw [result]
    exact probed
  · rw [result]
    exact probed

/-- A read after a notified wait gives what the counter holds, which is not
nothing. -/
theorem Genuine.read {waited after : Environment}
    {answer : Answer WatchError UInt64}
    (genuine : watcher.Genuine channel env)
    (wait : Channel.wait channel watcher.cancel
      watcher.settings.probeInterval env = (.done .notified, waited))
    (read : Channel.read channel waited = (answer, after)) :
    ∃ counter, answer = .done counter ∧
      (Channel.fetch channel waited).1 = .done (Counter.toBytes counter) ∧
      after.host.pending? channel = some 0 := by
  have moved := Motions.wait channel watcher.cancel
    watcher.settings.probeInterval env
  rw [wait] at moved
  have notified := genuine.motions moved
  obtain ⟨pending, counted⟩ := notified.channelCounts
  have filled := Channel.pending_ne_zero_of_glance
    (Channel.glance_of_wait wait) counted notified.cancelCounts
  have fetched := Channel.fetch_of_pending counted filled
  have cleared := (Host.read_of_pending_ne_zero counted filled).2
  obtain ⟨trace, rfl⟩ := Channel.after_read read
  obtain ⟨rfl, _⟩ := Channel.outward_of_read read
  rw [fetched, Channel.interpret_toBytes]
  exact ⟨pending, rfl, rfl, cleared⟩

theorem exchanges_wait {waited : Environment} {timeout : Option Duration}
    {cancel : Option Descriptor} {answer : Answer WatchError Wake}
    (wait : Channel.wait channel cancel timeout env = (answer, waited)) :
    waited.exchanges = env.exchanges := by
  obtain ⟨heard, _, shown⟩ := Channel.outward_of_wait wait
  rw [Environment.exchanges_of_outward shown]
  exact List.append_nil _

namespace Reckons

/-- What a round reads it reports, and it reports nothing else. -/
theorem exchanges_round (reckons : watcher.Reckons channel start env)
    (notifications : Nat) :
    ∃ reports : List (UInt64 × Except SystemError Unit),
      (watcher.round channel notifications env).surroundings.exchanges =
        env.exchanges ++ reports.flatMap Step.exchange := by
  have turn := watcher.turn_round channel notifications env
  generalize watcher.round channel notifications env = result at turn
  cases turn with
  | waitBlocked wait | waitFailed wait | cancelled wait =>
      exact ⟨[], (exchanges_wait wait).trans (List.append_nil _).symm⟩
  | timedOut wait =>
      refine ⟨[], ?_⟩
      rw [exchanges_afterProbe, exchanges_wait wait]
      exact (List.append_nil _).symm
  | readBlocked wait read | readFailed wait read =>
      obtain ⟨_, impossible, _⟩ := reckons.genuine.read wait read
      cases impossible
  | @refused _ _ _ counter cause wait read deliver =>
      obtain ⟨_, same, fetched, _⟩ := reckons.genuine.read wait read
      obtain ⟨_, shown⟩ := outward_reporting wait read deliver
      rw [fetched, ← Answer.done.inj same] at shown
      exact ⟨[(counter, .error cause)],
        Environment.exchanges_of_outward shown⟩
  | @reported _ _ _ counter wait read deliver =>
      obtain ⟨_, same, fetched, _⟩ := reckons.genuine.read wait read
      obtain ⟨_, shown⟩ := outward_reporting wait read deliver
      rw [fetched, ← Answer.done.inj same] at shown
      refine ⟨[(counter, .ok ())], ?_⟩
      rw [exchanges_afterProbe]
      exact Environment.exchanges_of_outward shown

theorem exchanges_arrives {begun : Environment} {notifications : Nat}
    (reckons : watcher.Reckons channel start begun)
    (arrived : watcher.Arrives channel begun notifications env) :
    ∃ reports : List (UInt64 × Except SystemError Unit),
      env.exchanges = begun.exchanges ++ reports.flatMap Step.exchange := by
  induction arrived with
  | first => exact ⟨[], by simp⟩
  | @next notifications _ env _ arrived result ih =>
      obtain ⟨reports, shown⟩ := ih
      obtain ⟨more, further⟩ := (reckons.motions
        (Motions.arrives arrived)).exchanges_round notifications
      rw [result] at further
      refine ⟨reports ++ more, ?_⟩
      rw [List.flatMap_append, ← List.append_assoc, ← shown]
      exact further

/-- What a watch reads it reports, and it reports nothing else. -/
theorem exchanges_watch (reckons : watcher.Reckons channel start env)
    (watched : watcher.watched? = some channel) :
    ∃ reports : List (UInt64 × Except SystemError Unit),
      (watcher.watch env).2.exchanges =
        env.exchanges ++ reports.flatMap Step.exchange := by
  obtain ⟨count, last, arrived, result⟩ | ⟨_, count, arrived⟩ :=
    watcher.watch_cases watched env
  · obtain ⟨reports, shown⟩ := reckons.exchanges_arrives arrived
    obtain ⟨more, further⟩ :=
      (reckons.motions (Motions.arrives arrived)).exchanges_round count
    rw [result, shown, List.append_assoc, ← List.flatMap_append] at further
    exact ⟨reports ++ more, further⟩
  · exact reckons.exchanges_arrives arrived

end Reckons

/-! ## Between the operations -/

namespace Owns

variable {handle : Descriptor}

/-- A watch does not lower the counter that cancels. -/
theorem raises_watch (owns : watcher.Owns env)
    (cancels : watcher.cancel = some handle) :
    Host.Raises handle env.host (watcher.watch env).2.host := by
  cases watched : watcher.watched? with
  | none =>
      obtain ⟨fault, result⟩ := watch_of_not_watched? watched env
      rw [result]
      exact (Host.Keeps.refl handle env.host).raises
  | some channel =>
      have held := (watched?_eq_some_iff.mp watched).2
      exact (Motions.watch watched env).raises
        (owns.cancelApart handle (Or.inl cancels) .channel channel held)

end Owns

namespace CancelCounts

theorem tends {before after : Session}
    (counts : before.watcher.CancelCounts before.env)
    (tends : before.Tends after) : after.watcher.CancelCounts after.env := by
  have kept : before.watcher.CancelCounts after.env :=
    counts.raises fun handle cancels =>
      (tends.guarded handle (Or.inl cancels)).raises
  rwa [CancelCounts, tends.cancel]

theorem watch (counts : watcher.CancelCounts env) (owns : watcher.Owns env) :
    watcher.CancelCounts (watcher.watch env).2 :=
  counts.raises fun _ cancels => owns.raises_watch cancels

theorem outside {after : Environment} (counts : watcher.CancelCounts env)
    (outside : watcher.Outside env after) : watcher.CancelCounts after := by
  cases outside with
  | notified count held same =>
      rw [Environment.add_snd]
      exact counts.raises fun handle _ => env.host.raises_write handle _ count
  | elsewhere changes =>
      intro handle cancels
      obtain ⟨sum, counted⟩ := counts handle cancels
      exact changes.cancelCounts handle sum cancels counted

end CancelCounts

end Watcher

namespace Life

variable {origin session : Session} {history : List Outcome}

/-- A handle that cancels and was a counter once is one all the life of a
watcher. -/
theorem cancelCounts (life : Life origin history session)
    (owns : origin.watcher.Owns origin.env)
    (counts : origin.watcher.CancelCounts origin.env) :
    session.watcher.CancelCounts session.env := by
  induction life with
  | born => exact counts
  | setup life ih => exact ih.tends (Session.tends_setup _ (life.owns owns))
  | subscribe life ih =>
      exact ih.tends (Session.tends_subscribe _ (life.owns owns))
  | watch life ih => exact ih.watch (life.owns owns)
  | cleanup life ih => exact ih.tends (Session.tends_cleanup _ (life.owns owns))
  | notifier life _ ih =>
      exact ih.tends (Session.tends_notifier _ (life.owns owns) _)
  | outside _ outside ih => exact ih.outside outside

end Life

namespace Watcher.Reckons

variable {watcher : Watcher} {channel : Descriptor} {start env : Environment}

theorem setup (reckons : watcher.Reckons channel start env) :
    (watcher.setup env).2.1.Reckons channel start
      (watcher.setup env).2.2 := by
  rw [setup_of_channel reckons.held]
  exact reckons

/-- What a watcher does to itself leaves the account of a channel as it is that
the watcher goes on to hold. -/
theorem tends {before after : Session}
    (reckons : before.watcher.Reckons channel start before.env)
    (tends : before.Tends after)
    (held : after.watcher.handles.channel = some channel) :
    after.watcher.Reckons channel start after.env := by
  refine ⟨?_, reckons.cancelCounts.tends tends, tends.owns, held⟩
  obtain ⟨_, kept⟩ | ⟨free, _⟩ := tends.channel channel held
  · refine reckons.accounts.still ?_ kept.pending?
    refine tends.continues.mono ?_
    intro step handling
    cases step <;> simp_all [Step.isHandling, Step.isMovement]
  · cases reckons.held.symm.trans free

theorem watch (reckons : watcher.Reckons channel start env) :
    watcher.Reckons channel start (watcher.watch env).2 := by
  cases watched : watcher.watched? with
  | none =>
      obtain ⟨fault, result⟩ := watch_of_not_watched? watched env
      rw [result]
      exact reckons
  | some other =>
      have held := (watched?_eq_some_iff.mp watched).2
      rw [reckons.held] at held
      cases held
      exact reckons.motions (Motions.watch watched env)

theorem outside {after : Environment}
    (reckons : watcher.Reckons channel start env)
    (outside : watcher.Outside env after) :
    watcher.Reckons channel start after := by
  refine ⟨?_, reckons.cancelCounts.outside outside,
    reckons.owns.outside outside, reckons.held⟩
  cases outside with
  | notified count holds same =>
      rw [reckons.held] at holds
      cases holds
      exact reckons.accounts.moves (Environment.moves_add count same)
  | elsewhere changes =>
      have kept := changes.held .channel channel reckons.held
      exact reckons.accounts.still (.of_eq changes.trace) kept.pending?

/-- The account begins when the channel is made. -/
theorem made (owns : watcher.Owns env) (counts : watcher.CancelCounts env)
    (ready : (watcher.setup env).1 = .ok ()) :
    ∃ channel, (watcher.setup env).2.1.Reckons channel
      (watcher.setup env).2.2 (watcher.setup env).2.2 := by
  have counting : (watcher.setup env).2.1.CancelCounts
      (watcher.setup env).2.2 :=
    counts.tends (Session.tends_setup ⟨watcher, env⟩ owns)
  have owning := owns.setup
  obtain ⟨error, result⟩ | ⟨channel, after, event, _, _, file, result⟩ :=
    watcher.setup_cases owns.coherent
  · rw [result] at ready
    cases ready
  · rw [result] at counting owning ⊢
    have empty : after.host.pending? channel = some 0 :=
      Host.pending?_eq_some_iff.mpr ⟨false, file⟩
    exact ⟨channel, ⟨[], 0, (List.append_nil _).symm, empty, .nil⟩, counting,
      owning, rfl⟩

end Watcher.Reckons

namespace Life

variable {origin before session : Session} {earlier later : List Outcome}

/-- The account of a channel is kept until it is given up. -/
theorem reckons {channel : Descriptor} {start : Environment}
    (life : Life origin later session)
    (reckons : origin.watcher.Reckons channel start origin.env)
    (uncleaned : ∀ released, .cleanedUp released ∉ later) :
    session.watcher.Reckons channel start session.env := by
  have sublife : ∀ {history : List Outcome} {outcome : Outcome},
      (∀ released, .cleanedUp released ∉ history ++ [outcome]) →
        ∀ released, .cleanedUp released ∉ history :=
    fun none released member =>
      none released (List.mem_append_left _ member)
  induction life with
  | born => exact reckons
  | setup _ ih => exact (ih (sublife uncleaned)).setup
  | @subscribe _ session _ ih =>
      have reckons := ih (sublife uncleaned)
      have subscribing := session.watcher.subscribing_subscribe session.env
      exact reckons.tends (session.tends_subscribe reckons.owns)
        (subscribing.channel.trans reckons.held)
  | watch _ ih => exact (ih (sublife uncleaned)).watch
  | cleanup _ ih =>
      exact absurd (List.mem_append_right _ (List.mem_singleton_self _))
        (uncleaned _)
  | @notifier _ session other _ _ ih =>
      have reckons := ih (sublife uncleaned)
      exact reckons.tends (session.tends_notifier reckons.owns other)
        reckons.held
  | outside _ outside ih => exact (ih uncleaned).outside outside

/-- From the moment in which a watcher has made its channel and until it cleans
up, the account of the channel is balanced, between the operations and at every
moment of a watch.  A watch reads nothing but counters, and reports each of them
once. -/
theorem accounts_of_setup (fresh : origin.IsFresh)
    (genuine : origin.watcher.CancelCounts origin.env)
    (life : Life origin earlier before)
    (ready : (before.watcher.setup before.env).1 = .ok ())
    (goesOn : Life before.setup later session)
    (uncleaned : ∀ released, .cleanedUp released ∉ later) :
    ∃ channel, before.setup.watcher.handles.channel = some channel ∧
      session.watcher.handles.channel = some channel ∧
      (∀ moment, Motions channel session.env moment →
        Accounts channel before.setup.env moment) ∧
      (session.watcher.watched? = some channel →
        Motions channel session.env session.watch.env ∧
        ∃ reports : List (UInt64 × Except SystemError Unit),
          session.watch.env.exchanges =
            session.env.exchanges ++ reports.flatMap Step.exchange) := by
  have owns := life.owns fresh.owns
  have counts := life.cancelCounts fresh.owns genuine
  obtain ⟨channel, made⟩ := Watcher.Reckons.made owns counts ready
  have now := goesOn.reckons made uncleaned
  refine ⟨channel, made.held, now.held, ?_, ?_⟩
  · intro moment moved
    exact (now.motions moved).accounts
  · intro watched
    exact ⟨Motions.watch watched session.env, now.exchanges_watch watched⟩

end Life

namespace Session

/-- The sample after a subscription, with five notifications pending. -/
def pendingSample : Session :=
  readySample.subscribe.elapse (readySample.subscribe.env.add 4 5).2

/-- Two more notifications are to come and then a cancellation. -/
def busySample : Session :=
  pendingSample.elapse
    { pendingSample.env with schedule := [[.notify 2], [.cancel]] }

theorem life_busySample :
    Life readySample
      [.subscribed (readySample.watcher.subscribe readySample.env).1]
      busySample := by
  have owns := Life.owns (.setup .born) isFresh_sample.owns
  have held : readySample.subscribe.watcher.handles.channel = some 4 := by
    decide +kernel
  have pending : Life readySample
      [.subscribed (readySample.watcher.subscribe readySample.env).1]
      pendingSample :=
    .outside (.subscribe .born) (.notified 5 held rfl)
  exact pending.reschedule owns [[.notify 2], [.cancel]]

theorem accounts_of_setup_busySample :
    (sample sampleActions).IsFresh ∧
      (sample sampleActions).watcher.CancelCounts
        (sample sampleActions).env ∧
      ((sample sampleActions).watcher.setup (sample sampleActions).env).1 =
        .ok () ∧
      (busySample.watcher.watch busySample.env).1 = .done ⟨.cancelled, 2⟩ ∧
      ∃ channel, busySample.watcher.handles.channel = some channel ∧
        (∀ moment, Motions channel busySample.env moment →
          Accounts channel readySample.env moment) ∧
        (busySample.watcher.watched? = some channel →
          ∃ reports : List (UInt64 × Except SystemError Unit),
            busySample.watch.env.exchanges =
              busySample.env.exchanges ++ reports.flatMap Step.exchange) := by
  have genuine : (sample sampleActions).watcher.CancelCounts
      (sample sampleActions).env := by
    intro handle cancels
    cases cancels
    exact ⟨0, by decide +kernel⟩
  have ready : ((sample sampleActions).watcher.setup
      (sample sampleActions).env).1 = .ok () := by
    decide +kernel
  have uncleaned : ∀ released, Outcome.cleanedUp released ∉
      [Outcome.subscribed
        (readySample.watcher.subscribe readySample.env).1] := by
    simp
  obtain ⟨channel, _, held, accounts, reports⟩ := Life.accounts_of_setup
    isFresh_sample genuine .born ready life_busySample uncleaned
  exact ⟨isFresh_sample, genuine, ready, by decide +kernel, channel, held,
    accounts, fun watched => (reports watched).2⟩

end Session

end MemoryWatch
