import MemoryWatch.Proofs.Machine
import MemoryWatch.Proofs.Operations
import MemoryWatch.Proofs.Patience
import MemoryWatch.Proofs.Wakening

/-!
# Cancelling a watch

Somebody fires the handle of a watcher, before a watch, while a watch waits, or
while it hands a record to the sink.  From then on the handle stays fired, since
nobody reads its counter.  The wait that is blocked at this moment, or else the
next one, ends as cancelled, and the watch ends with it and does nothing more.
Only the round whose wait has returned before that may still end the watch in
another way.

It makes no difference when the limit of a wait expires, and none what open file
is behind the channel, which others may have replaced.
-/

namespace MemoryWatch

namespace Environment

/-- Whoever fires a handle through a descriptor of its counter has fired it. -/
theorem fired_of_fire {env : Environment} {handle clone : Descriptor}
    (counted : ∃ sum, env.host.pending? handle = some sum)
    (same : env.host.position? clone = env.host.position? handle)
    (succeeded : (env.fire clone).1 = .done ()) :
    (env.fire clone).2.Fired handle := by
  obtain ⟨sum, counted⟩ := counted
  rw [← Host.pending?_congr same] at counted
  have touches := env.host.touches_write clone (Counter.toBytes 1)
  have stays : (env.host.write clone (Counter.toBytes 1)).2.position? clone =
      (env.host.write clone (Counter.toBytes 1)).2.position? handle := by
    rw [touches.position?, touches.position?, same]
  rw [fire_snd]
  obtain ⟨fits, _, added⟩ | ⟨_, failed, _⟩ :=
    Host.write_toBytes_cases counted 1
  · refine ⟨sum + 1, (Host.pending?_congr stays).symm.trans added, ?_⟩
    intro empty
    have total := Counter.toNat_add fits
    rw [empty] at total
    simp at total
  · rw [fire] at succeeded
    split at succeeded
    · next written _ answered =>
        exact absurd (congrArg Prod.fst answered) (failed written)
    · cases succeeded
    · cases succeeded

end Environment

namespace Watcher

variable {watcher : Watcher} {handle channel : Descriptor}
  {env after : Environment} {notifications : Nat}

namespace Guarded

/-- A look shows whether the handle was fired, whatever file the channel is. -/
theorem fired_iff (guarded : watcher.Guarded channel env)
    (through : watcher.cancel = some handle) :
    Channel.glance channel watcher.cancel env = some .cancelled ↔
      env.Fired handle := by
  obtain ⟨sum, counted⟩ := guarded.cancelCounts handle through
  have told := Channel.readiness_of_pending counted
  rw [through, Environment.Fired, counted]
  by_cases empty : sum = 0
  · simp [Channel.glance, told, empty]
  · simp [Channel.glance, told, empty]

theorem not_fired_of_glance (guarded : watcher.Guarded channel env)
    (through : watcher.cancel = some handle)
    (silent : Channel.glance channel watcher.cancel env = none) :
    ¬ env.Fired handle := by
  rw [← guarded.fired_iff through, silent]
  simp

/-- Once the handle is fired, a wait ends at once if it can begin. -/
theorem wait_of_fired (guarded : watcher.Guarded channel env)
    (through : watcher.cancel = some handle) (fired : env.Fired handle)
    (able : ¬Channel.isBarred watcher.cancel env) :
    Channel.wait channel watcher.cancel watcher.settings.probeInterval env =
      (.done .cancelled,
        env.record (.waited watcher.limit (.done .cancelled))) := by
  apply Channel.wait_of_listen
  rw [Channel.listen, if_neg able, (guarded.fired_iff through).mpr fired]

/-- A wait at whose end the handle is fired was cancelled, and it has ended at
the first look at which the handle was fired. -/
theorem cancelled_of_hears {answer : Answer SystemError Wake}
    {limit : Option Nat} (guarded : watcher.Guarded channel env)
    (through : watcher.cancel = some handle)
    (hears : Channel.Hears channel watcher.cancel limit env answer after)
    (fired : after.Fired handle) :
    answer = .done .cancelled ∧
      ∃ count ≤ env.schedule.length, after = Channel.elapse channel count env ∧
        ∀ earlier < count,
          ¬ (Channel.elapse channel earlier env).Fired handle := by
  have moment (count : Nat) :
      watcher.Guarded channel (Channel.elapse channel count env) :=
    guarded.motions (.elapse channel count env)
  have unfired {looks count : Nat}
      (quiet : Channel.Quiet channel watcher.cancel looks env)
      (within : count < looks) :
      ¬ (Channel.elapse channel count env).Fired handle :=
    (moment count).not_fired_of_glance through (quiet count within)
  cases hears with
  | @seen count wake within quiet shown =>
      rw [((moment count).fired_iff through).mpr fired] at shown
      cases shown
      exact ⟨rfl, count, within, rfl, fun _ => unfired quiet⟩
  | timedOut count within quiet limited spent =>
      exact absurd fired (unfired quiet (by omega))
  | barred count quiet => exact absurd fired (unfired quiet (by omega))
  | endless quiet => exact absurd fired (unfired quiet (by omega))

theorem wait_cancelled {answer : Answer WatchError Wake}
    (guarded : watcher.Guarded channel env)
    (through : watcher.cancel = some handle)
    (waited : Channel.wait channel watcher.cancel
      watcher.settings.probeInterval env = (answer, after))
    (fired : after.Fired handle) (unfailed : ∀ error, answer ≠ .failed error) :
    answer = .done .cancelled ∧
      ∃ count ≤ env.schedule.length,
        after = (Channel.elapse channel count env).record
          (.waited watcher.limit (.done .cancelled)) ∧
        ∀ earlier < count,
          ¬ (Channel.elapse channel earlier env).Fired handle := by
  obtain ⟨given, heard, _, hears, rfl, rfl⟩ :=
    Channel.hears_of_unfailed waited unfailed
  obtain ⟨rfl, count, within, rfl, unfired⟩ :=
    guarded.cancelled_of_hears through hears fired
  exact ⟨rfl, count, within, rfl, unfired⟩

end Guarded

theorem host_afterProbe (watcher : Watcher) (notifications : Nat)
    (env : Environment) :
    (watcher.afterProbe notifications env).surroundings.host = env.host := by
  have host : (env.probe watcher.settings.cgroup).2.host = env.host := by
    rw [Environment.probe]
    split <;> rfl
  obtain ⟨_, result⟩ | ⟨_, result⟩ :=
    watcher.afterProbe_cases notifications env
  · rw [result]
    exact host
  · rw [result]
    exact host

/-- A watch is cancelled in a wait of the round that begins at a moment, after
so many of the groups scheduled then.  That wait is all it does from the moment
on: it reads nothing, delivers nothing and does not look for the cgroup. -/
structure Stops (watcher : Watcher) (channel : Descriptor)
    (env moment : Environment) (notifications count : Nat) : Prop where
  answer : (watcher.watch env).1 = .done ⟨.cancelled, notifications⟩
  outward : (watcher.watch env).2.outward =
    moment.outward ++ [.waited watcher.limit (.done .cancelled)]
  sink : (watcher.watch env).2.sink = moment.sink
  host : (watcher.watch env).2.host = (Channel.elapse channel count moment).host

/-- How a watch ends at whose end the handle is fired.  It was cancelled, a wait
failed, or the handle was fired after the wait of its last round. -/
inductive Concludes (watcher : Watcher) (handle channel : Descriptor)
    (env : Environment) : Prop
  | cancelled (notifications : Nat)
      (answer : (watcher.watch env).1 = .done ⟨.cancelled, notifications⟩)
  | unable {notifications : Nat} {moment waited : Environment}
      {error : WatchError}
      (arrived : watcher.Arrives channel env notifications moment)
      (wait : Channel.wait channel watcher.cancel
        watcher.settings.probeInterval moment = (.failed error, waited))
      (result : watcher.watch env = (.failed error, waited))
  | reporting {notifications : Nat} {moment waited : Environment}
      (arrived : watcher.Arrives channel env notifications moment)
      (wait : Channel.wait channel watcher.cancel
        watcher.settings.probeInterval moment = (.done .notified, waited))
      (unfired : ¬ waited.Fired handle)
      (ended : watcher.round channel notifications moment =
        .ended (watcher.watch env).1 (watcher.watch env).2)
      (answer : (∃ reason, (watcher.watch env).1 =
          .failed (.channelRead channel reason)) ∨
        (∃ cause, (watcher.watch env).1 = .failed (.sink cause)) ∨
        (watcher.watch env).1 = .done ⟨.cgroupRemoved, notifications + 1⟩)

/-- How a watch obeys the handle that cancels it. -/
structure Obeys (watcher : Watcher) (handle channel : Descriptor)
    (env : Environment) : Prop where
  /-- A round begins with the records delivered that it counts. -/
  counted : ∀ notifications moment,
    watcher.Arrives channel env notifications moment →
      ∃ steps, moment.outward = env.outward ++ steps ∧
        steps.countP Step.isReport = notifications
  /-- A wait that is blocked when the handle is fired, or that begins after
  that, is cancelled as soon as the group is over in which this happens. -/
  waiting : ∀ notifications moment answer waited,
    watcher.Arrives channel env notifications moment →
      Channel.wait channel watcher.cancel watcher.settings.probeInterval
        moment = (answer, waited) →
      waited.Fired handle → (∀ error, answer ≠ .failed error) →
        answer = .done .cancelled ∧
          ∃ count ≤ moment.schedule.length,
            (∀ earlier < count,
              ¬ (Channel.elapse channel earlier moment).Fired handle) ∧
            watcher.Stops channel env moment notifications count
  /-- When the wait of a round has returned before the handle is fired, the round
  reads the channel and reports its record, and it leaves no more steps than
  that.  Either it ends the watch itself, or the next wait does if the handle is
  fired by then. -/
  reporting : ∀ notifications moment waited,
    watcher.Arrives channel env notifications moment →
      Channel.wait channel watcher.cancel watcher.settings.probeInterval
        moment = (.done .notified, waited) →
        ∃ steps,
          (watcher.round channel notifications moment).surroundings.outward =
            moment.outward ++ steps ∧
          (watcher.round channel notifications moment).Leaves channel
            watcher.limit notifications steps ∧
          ((∃ reason, watcher.watch env =
              (.failed (.channelRead channel reason),
                (watcher.round channel notifications moment).surroundings)) ∨
            (∃ cause, watcher.watch env = (.failed (.sink cause),
              (watcher.round channel notifications moment).surroundings)) ∨
            watcher.watch env = (.done ⟨.cgroupRemoved, notifications + 1⟩,
              (watcher.round channel notifications moment).surroundings) ∨
            ∃ next, watcher.round channel notifications moment =
                .continued (notifications + 1) next ∧
              (next.Fired handle → ¬Channel.isBarred watcher.cancel next →
                watcher.Stops channel env next (notifications + 1) 0))
  ending : (watcher.watch env).2.Fired handle →
    watcher.Concludes handle channel env

theorem stops_of_wait {moment : Environment} {count : Nat}
    (watched : watcher.watched? = some channel)
    (arrived : watcher.Arrives channel env notifications moment)
    (wait : Channel.wait channel watcher.cancel
      watcher.settings.probeInterval moment =
        (.done .cancelled, (Channel.elapse channel count moment).record
          (.waited watcher.limit (.done .cancelled)))) :
    watcher.Stops channel env moment notifications count := by
  have result : watcher.round channel notifications moment =
      .ended (.done ⟨.cancelled, notifications⟩)
        (((Channel.elapse channel count moment).record
          (.waited watcher.limit (.done .cancelled))).note
            (.cancelled watcher.settings.cgroup)) := by
    rw [round, wait]
  have ended := watch_eq_of_ended watched arrived result
  refine ⟨by rw [ended], ?_, ?_, ?_⟩
  · rw [ended, Environment.outward_note, Environment.outward_record _ rfl,
      Channel.outward_elapse]
  · rw [ended]
    exact Channel.sink_elapse channel count moment
  · rw [ended]
    rfl

/-- How the round of a watch ends whose wait was notified: the channel cannot be
read, the sink fails, or the record is delivered. -/
inductive Reported (watcher : Watcher) (channel : Descriptor)
    (notifications : Nat) : Round → Prop
  | unreadable (reason : ReadFailure) (after : Environment) :
      Reported watcher channel notifications
        (.ended (.failed (.channelRead channel reason)) after)
  | refused (cause : SystemError) (after : Environment) :
      Reported watcher channel notifications
        (.ended (.failed (.sink cause)) after)
  | removed (after : Environment) :
      Reported watcher channel notifications
        (.ended (.done ⟨.cgroupRemoved, notifications + 1⟩) after)
  | continued (after : Environment) :
      Reported watcher channel notifications
        (.continued (notifications + 1) after)

namespace Guarded

theorem arrives {moment : Environment}
    (guarded : watcher.Guarded channel env)
    (arrived : watcher.Arrives channel env notifications moment) :
    watcher.Guarded channel moment :=
  guarded.motions (Motions.arrives arrived)

/-- A round that begins with the handle fired ends the watch as cancelled. -/
theorem stops_of_fired {moment : Environment}
    (guarded : watcher.Guarded channel env)
    (watched : watcher.watched? = some channel)
    (through : watcher.cancel = some handle)
    (arrived : watcher.Arrives channel env notifications moment)
    (fired : moment.Fired handle)
    (able : ¬Channel.isBarred watcher.cancel moment) :
    watcher.Stops channel env moment notifications 0 :=
  stops_of_wait watched arrived
    ((guarded.arrives arrived).wait_of_fired through fired able)

theorem obeys_waiting {moment waited : Environment}
    {answer : Answer WatchError Wake}
    (guarded : watcher.Guarded channel env)
    (watched : watcher.watched? = some channel)
    (through : watcher.cancel = some handle)
    (arrived : watcher.Arrives channel env notifications moment)
    (wait : Channel.wait channel watcher.cancel
      watcher.settings.probeInterval moment = (answer, waited))
    (fired : waited.Fired handle) (unfailed : ∀ error, answer ≠ .failed error) :
    answer = .done .cancelled ∧
      ∃ count ≤ moment.schedule.length,
        (∀ earlier < count,
          ¬ (Channel.elapse channel earlier moment).Fired handle) ∧
        watcher.Stops channel env moment notifications count := by
  obtain ⟨rfl, count, within, rfl, unfired⟩ :=
    (guarded.arrives arrived).wait_cancelled through wait fired unfailed
  exact ⟨rfl, count, within, unfired, stops_of_wait watched arrived wait⟩

/-- A counter as the handle never wakes a watcher in place of the channel, so
that the read after a notified wait has an answer. -/
theorem readable_of_wait {waited : Environment}
    (guarded : watcher.Guarded channel env)
    (wait : Channel.wait channel watcher.cancel
      watcher.settings.probeInterval env = (.done .notified, waited)) :
    (∃ counter, (Channel.read channel waited).1 = .done counter) ∨
      ∃ reason, (Channel.read channel waited).1 =
        .failed (.channelRead channel reason) := by
  have reliable : Channel.Reliable channel watcher.cancel env.host := by
    refine .of_counters fun handle through => ?_
    obtain ⟨sum, counted⟩ := guarded.cancelCounts handle through
    simp [counted]
  exact Channel.read_of_ready (Channel.ready_of_wait reliable.not_misled wait)

theorem reported_round {moment waited : Environment}
    (guarded : watcher.Guarded channel moment)
    (wait : Channel.wait channel watcher.cancel
      watcher.settings.probeInterval moment = (.done .notified, waited))
    (notifications : Nat) :
    watcher.Reported channel notifications
      (watcher.round channel notifications moment) := by
  have turn := watcher.turn_round channel notifications moment
  generalize watcher.round channel notifications moment = result at turn ⊢
  cases turn with
  | waitBlocked other | waitFailed other | cancelled other | timedOut other =>
      rw [wait] at other
      cases other
  | readBlocked other read =>
      obtain ⟨_, answered⟩ | ⟨_, answered⟩ := guarded.readable_of_wait other
      · cases (congrArg Prod.fst read).symm.trans answered
      · cases (congrArg Prod.fst read).symm.trans answered
  | @readFailed _ after _ other read =>
      obtain ⟨_, answered⟩ | ⟨reason, answered⟩ := guarded.readable_of_wait other
      · cases (congrArg Prod.fst read).symm.trans answered
      · cases (congrArg Prod.fst read).symm.trans answered
        exact .unreadable reason after
  | @refused _ _ _ _ cause => exact .refused cause _
  | @reported _ _ delivered counter =>
      obtain ⟨_, probed⟩ | ⟨_, probed⟩ :=
        watcher.afterProbe_cases (notifications + 1)
          (delivered.record (.delivered counter (.ok ())))
      · exact probed ▸ .continued _
      · exact probed ▸ .removed _

/-- A round that begins with the handle fired ends the watch, if only because
the wait cannot begin. -/
theorem ended_of_fired (guarded : watcher.Guarded channel env)
    (through : watcher.cancel = some handle) (fired : env.Fired handle)
    (notifications : Nat) :
    ∃ answer after, watcher.round channel notifications env =
      .ended answer after ∧ answer ≠ .blocked := by
  by_cases barred : Channel.isBarred watcher.cancel env
  · rw [round, Channel.wait_eq]
    dsimp only
    rw [Channel.listen, if_pos barred]
    exact ⟨_, _, rfl, by simp⟩
  · rw [round, guarded.wait_of_fired through fired barred]
    exact ⟨_, _, rfl, by simp⟩

theorem concludes_of_ended {moment : Environment}
    (guarded : watcher.Guarded channel env)
    (through : watcher.cancel = some handle)
    (arrived : watcher.Arrives channel env notifications moment)
    (result : watcher.round channel notifications moment =
      .ended (watcher.watch env).1 (watcher.watch env).2)
    (fired : (watcher.watch env).2.Fired handle) :
    watcher.Concludes handle channel env := by
  have here := guarded.arrives arrived
  rcases wait : Channel.wait channel watcher.cancel
    watcher.settings.probeInterval moment with ⟨answer, waited⟩
  -- Any wait but a cancelled one has ended before the handle was fired.
  have unfired (other : answer ≠ .done .cancelled)
      (unfailed : ∀ error, answer ≠ .failed error) :
      ¬ waited.Fired handle := by
    intro firedThen
    exact other (here.wait_cancelled through wait firedThen unfailed).1
  cases answer with
  | blocked =>
      rw [round, wait] at result
      obtain ⟨_, rfl⟩ := Round.ended.inj result
      exact absurd fired (unfired (by simp) (by simp))
  | failed error =>
      rw [round, wait] at result
      obtain ⟨answered, final⟩ := Round.ended.inj result
      exact .unable arrived wait (Prod.ext answered.symm final.symm)
  | done wake =>
      cases wake with
      | cancelled =>
          rw [round, wait] at result
          exact .cancelled notifications (Round.ended.inj result).1.symm
      | timedOut =>
          have host := watcher.host_afterProbe notifications waited
          rw [← round_of_timedOut wait, result] at host
          obtain ⟨sum, counted, filled⟩ := fired
          exact absurd ⟨sum, host ▸ counted, filled⟩
            (unfired (by simp) (by simp))
      | notified =>
          refine .reporting arrived wait (unfired (by simp) (by simp)) result ?_
          have reported := here.reported_round wait notifications
          rw [result] at reported
          generalize (watcher.watch env).1 = answer at reported
          cases reported with
          | unreadable reason => exact Or.inl ⟨reason, rfl⟩
          | refused cause => exact Or.inr (Or.inl ⟨cause, rfl⟩)
          | removed => exact Or.inr (Or.inr rfl)

theorem concludes (guarded : watcher.Guarded channel env)
    (watched : watcher.watched? = some channel)
    (through : watcher.cancel = some handle)
    (fired : (watcher.watch env).2.Fired handle) :
    watcher.Concludes handle channel env := by
  obtain ⟨notifications, moment, arrived, result⟩ |
    ⟨blocked, notifications, arrived⟩ := watcher.watch_cases watched env
  · exact guarded.concludes_of_ended through arrived result fired
  · -- A watch that ran out of rounds would have come to one that ends it.
    obtain ⟨answer, after, result, unblocked⟩ :=
      (guarded.arrives arrived).ended_of_fired through fired notifications
    rw [watch_eq_of_ended watched arrived result] at blocked
    exact absurd blocked unblocked

theorem obeys (guarded : watcher.Guarded channel env)
    (watched : watcher.watched? = some channel)
    (through : watcher.cancel = some handle) :
    watcher.Obeys handle channel env where
  counted notifications moment arrived := by
    obtain ⟨steps, shown, rounds⟩ := completeRounds_of_arrives arrived
    exact ⟨steps, shown, rounds.countP_isReport⟩
  waiting notifications moment answer waited arrived wait fired unfailed :=
    guarded.obeys_waiting watched through arrived wait fired unfailed
  reporting notifications moment waited arrived wait := by
    obtain ⟨steps, shown, leaves⟩ :=
      watcher.leaves_round channel notifications moment
    refine ⟨steps, shown, leaves, ?_⟩
    have reported := (guarded.arrives arrived).reported_round wait notifications
    rcases result : watcher.round channel notifications moment with
      ⟨following, after⟩ | ⟨answer, after⟩
    · rw [result] at reported
      cases reported with
      | continued =>
          exact Or.inr (Or.inr (Or.inr ⟨after, rfl, fun fired =>
            guarded.stops_of_fired watched through (arrived.next result)
              fired⟩))
    · have ended := watch_eq_of_ended watched arrived result
      rw [result] at reported
      cases reported with
      | unreadable reason => exact Or.inl ⟨reason, ended⟩
      | refused cause => exact Or.inr (Or.inl ⟨cause, ended⟩)
      | removed => exact Or.inr (Or.inr (Or.inl ended))
  ending := guarded.concludes watched through

end Guarded

/-- What others may do between two operations without reading the handle that
cancels.  They may put other open files behind the descriptors that the watcher
holds. -/
structure Heeds (watcher : Watcher) (before after : Environment) : Prop where
  owns : watcher.Owns after
  unread : ∀ handle, watcher.cancel = some handle →
    Host.Raises handle before.host after.host

theorem Owns.heeds_add (owns : watcher.Owns env) (other : Descriptor)
    (count : UInt64) : watcher.Heeds env (env.add other count).2 where
  owns := owns.stays (.add env other count)
  unread handle _ := by
    rw [Environment.add_snd]
    exact env.host.raises_write handle other count

/-- Somebody may fire the handle between two operations. -/
theorem Owns.heeds_fire (owns : watcher.Owns env) (clone : Descriptor) :
    watcher.Heeds env (env.fire clone).2 := by
  have touches := env.host.touches_write clone (Counter.toBytes 1)
  rw [Environment.fire_snd]
  refine ⟨owns.stays (.of_touches touches rfl), ?_⟩
  intro handle _
  exact env.host.raises_write handle clone 1

/-- Others may have given the sink any script. -/
theorem Owns.heeds_sink (owns : watcher.Owns env) (sink : Sink) :
    watcher.Heeds env { env with sink } where
  owns := owns.stays (.of_eq rfl rfl rfl)
  unread handle _ := (Host.Keeps.refl handle env.host).raises

/-- Others may put any open file in the place of the channel. -/
theorem Owns.heeds_substitute (owns : watcher.Owns env)
    (held : watcher.handles.channel = some channel) (file : OpenFile) :
    watcher.Heeds env
      { env with host := env.host.substitute channel file } := by
  have kept : watcher.handles.descriptor? .channel = some channel := held
  obtain ⟨position, located⟩ := owns.placed .channel channel kept
  have spared {other : Descriptor} (different : other ≠ channel) :
      (env.host.substitute channel file).position? other =
        env.host.position? other := by
    rw [Host.position?_substitute located, if_neg different]
  refine ⟨owns.change rfl rfl
    (Host.isCoherent_substitute owns.coherent located file) .channel ?_ ?_, ?_⟩
  · intro kind descriptor other
    by_cases made : kind = .channel
    · subst made
      obtain rfl : descriptor = channel := Option.some.inj (other.symm.trans kept)
      refine Or.inr ⟨rfl, ?_⟩
      rw [Host.position?_substitute located, if_pos rfl]
    · exact Or.inl ⟨other,
        spared (owns.ne_of_kind_ne kind .channel made other kept)⟩
  · intro descriptor cancels
    exact spared (owns.ne_of_isCancelledThrough kept cancels).symm
  · intro handle through
    have cancels : watcher.IsCancelledThrough env handle := Or.inl through
    obtain ⟨place, found⟩ := owns.cancelPlaced handle cancels
    exact (Host.keeps_substitute owns.coherent located found
      (owns.ne_of_isCancelledThrough kept cancels).symm file).raises

end Watcher

/-- A watcher can be cancelled with a handle, which nobody has read since a
start. -/
structure Cancellable (handle : Descriptor) (start : Environment)
    (session : Session) : Prop where
  owns : session.watcher.Owns session.env
  through : session.watcher.cancel = some handle
  raised : Host.Raises handle start.host session.env.host

namespace Cancellable

variable {handle channel : Descriptor} {start : Environment}
  {session : Session}

theorem tends {after : Session}
    (cancellable : Cancellable handle start session)
    (tends : session.Tends after) : Cancellable handle start after where
  owns := tends.owns
  through := tends.cancel.trans cancellable.through
  raised := cancellable.raised.trans
    (tends.guarded handle (Or.inl cancellable.through)).raises

theorem kept (handle : Descriptor) (start : Environment) :
    Kept Watcher.Heeds (Cancellable handle start) where
  setup session cancellable :=
    cancellable.tends (session.tends_setup cancellable.owns)
  subscribe session cancellable :=
    cancellable.tends (session.tends_subscribe cancellable.owns)
  watch session cancellable :=
    ⟨cancellable.owns.stays (session.watcher.stays_watch session.env),
      cancellable.through, cancellable.raised.trans
        (cancellable.owns.raises_watch cancellable.through)⟩
  cleanup session cancellable :=
    cancellable.tends (session.tends_cleanup cancellable.owns)
  notifier session cancellable :=
    cancellable.tends (session.tends_elapse_notifier cancellable.owns)
  note _ event cancellable :=
    ⟨cancellable.owns.note event, cancellable.through, cancellable.raised⟩
  outside _ _ cancellable heeds :=
    ⟨heeds.owns, cancellable.through,
      cancellable.raised.trans (heeds.unread handle cancellable.through)⟩

/-- A new watcher can be cancelled with the handle that it was given. -/
theorem of_fresh (fresh : session.IsFresh)
    (through : session.watcher.cancel = some handle) :
    Cancellable handle session.env session :=
  ⟨fresh.owns, through, (Host.Keeps.refl _ _).raises⟩

/-- A session counts as a start of its own. -/
theorem restart (cancellable : Cancellable handle start session) :
    Cancellable handle session.env session :=
  ⟨cancellable.owns, cancellable.through, (Host.Keeps.refl _ _).raises⟩

theorem counts (cancellable : Cancellable handle start session)
    (counted : ∃ sum, start.host.pending? handle = some sum) :
    ∃ sum, session.env.host.pending? handle = some sum := by
  obtain ⟨sum, counted⟩ := counted
  obtain ⟨more, now, _⟩ := cancellable.raised sum counted
  exact ⟨more, now⟩

theorem guarded (cancellable : Cancellable handle start session)
    (counted : ∃ sum, start.host.pending? handle = some sum)
    (held : session.watcher.handles.channel = some channel) :
    session.watcher.Guarded channel session.env where
  owns := cancellable.owns
  held := held
  cancelCounts other cancels := by
    rw [cancellable.through] at cancels
    cases cancels
    exact cancellable.counts counted

end Cancellable

/-- What it means for a session that a handle cancels its watches. -/
structure Cancellation (handle : Descriptor) (session : Session) : Prop where
  /-- Between two operations somebody may fire the handle through any descriptor
  of its counter. -/
  between : ∀ clone,
    session.env.host.position? clone = session.env.host.position? handle →
      (session.env.fire clone).1 = .done () →
        session.watcher.Heeds session.env (session.env.fire clone).2 ∧
          (session.env.fire clone).2.Fired handle
  /-- So may somebody at any moment of a watch. -/
  during : ∀ channel moment clone,
    session.watcher.handles.channel = some channel →
      Motions channel session.env moment →
      moment.host.position? clone = moment.host.position? handle →
      (moment.fire clone).1 = .done () → (moment.fire clone).2.Fired handle
  /-- Nothing in the rest of the watch undoes it. -/
  lasting : ∀ channel moment later,
    session.watcher.handles.channel = some channel →
      Motions channel session.env moment → moment.Fired handle →
      Motions channel moment later → later.Fired handle
  /-- Others may put any open file in the place of the channel, and the handle
  cancels as before. -/
  replaced : ∀ channel file, session.watcher.handles.channel = some channel →
    session.watcher.Heeds session.env
      { session.env with host := session.env.host.substitute channel file }
  obeyed : ∀ channel, session.watcher.watched? = some channel →
    session.watcher.Obeys handle channel session.env
  /-- Whatever operations follow, each later watch is cancelled at once. -/
  sticky : session.env.Fired handle →
    ∀ later, Course Watcher.Heeds session later →
      later.env.Fired handle ∧
        ∀ channel, later.watcher.watched? = some channel →
          ¬Channel.isBarred later.watcher.cancel later.env →
            later.watcher.Stops channel later.env later.env 0 0

namespace Course

variable {origin session : Session} {handle : Descriptor}

/-- A watcher that was made with a handle can be cancelled with it for all its
life. -/
theorem cancellation (fresh : origin.IsFresh)
    (through : origin.watcher.cancel = some handle)
    (counted : ∃ sum, origin.env.host.pending? handle = some sum)
    (course : Course Watcher.Heeds origin session) :
    Cancellation handle session := by
  have cancellable := course.keeps (Cancellable.kept handle origin.env)
    (.of_fresh fresh through)
  have counts := cancellable.counts counted
  refine ⟨?_, ?_, ?_, ?_, ?_, ?_⟩
  · intro clone same succeeded
    exact ⟨cancellable.owns.heeds_fire clone,
      Environment.fired_of_fire counts same succeeded⟩
  · intro channel moment clone held moved same succeeded
    have here := (cancellable.guarded counted held).motions moved
    exact Environment.fired_of_fire
      (here.cancelCounts handle cancellable.through) same succeeded
  · intro channel moment later held moved fired further
    have here := (cancellable.guarded counted held).motions moved
    exact fired.raises (further.raises (here.owns.cancelApart handle
      (Or.inl cancellable.through) .channel channel held))
  · intro channel file held
    exact cancellable.owns.heeds_substitute held file
  · intro channel watched
    have held := (Watcher.watched?_eq_some_iff.mp watched).2
    exact (cancellable.guarded counted held).obeys watched cancellable.through
  · intro fired later further
    have still := further.keeps (Cancellable.kept handle session.env)
      cancellable.restart
    have firedLater := fired.raises still.raised
    refine ⟨firedLater, ?_⟩
    intro channel watched able
    have held := (Watcher.watched?_eq_some_iff.mp watched).2
    exact (still.guarded counts held).stops_of_fired watched still.through
      .first firedLater able

end Course

namespace Session

/-- While the first record is flushed, three more notifications come and the
handle is fired. -/
def flushingSample : Session :=
  pendingSample.elapse { pendingSample.env with
    sink := { duringFlush := [[.notify 3, .cancel]] } }

theorem course_flushingSample :
    Course Watcher.Heeds (sample sampleActions) flushingSample := by
  have owning {session : Session}
      (course : Course Watcher.Heeds (sample sampleActions) session) :
      session.watcher.Owns session.env :=
    (course.keeps (Cancellable.kept 3 (sample sampleActions).env)
      (Cancellable.of_fresh isFresh_sample rfl)).owns
  have subscribed : Course Watcher.Heeds (sample sampleActions)
      readySample.subscribe :=
    .perform (.perform .origin .setup) .subscribe
  have pending : Course Watcher.Heeds (sample sampleActions)
      pendingSample :=
    subscribed.outside ((owning subscribed).heeds_add 4 5)
  exact pending.outside ((owning pending).heeds_sink _)

/-- The record in progress is delivered, what came with it is not, and the
watch after that is cancelled at once. -/
theorem cancellation_flushingSample :
    (sample sampleActions).IsFresh ∧
      (sample sampleActions).watcher.cancel = some 3 ∧
      (∃ sum, (sample sampleActions).env.host.pending? 3 = some sum) ∧
      Course Watcher.Heeds (sample sampleActions) flushingSample ∧
      (flushingSample.watcher.watch flushingSample.env).1 =
        .done ⟨.cancelled, 1⟩ ∧
      flushingSample.watch.env.host.pending? 4 = some 3 ∧
      (flushingSample.watch.watcher.watch flushingSample.watch.env).1 =
        .done ⟨.cancelled, 0⟩ ∧
      Cancellation 3 flushingSample := by
  have counted : ∃ sum,
      (sample sampleActions).env.host.pending? 3 = some sum :=
    ⟨0, by decide +kernel⟩
  exact ⟨isFresh_sample, rfl, counted, course_flushingSample,
    by decide +kernel, by decide +kernel, by decide +kernel,
    course_flushingSample.cancellation isFresh_sample rfl counted⟩

end Session

end MemoryWatch
