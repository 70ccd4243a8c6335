import MemoryWatch.Proofs.Delivery
import MemoryWatch.Proofs.Steps
import Mathlib.Data.List.Forall2

/-!
# The output of a watch

The sink of a watch receives one record for every counter that was read, in the
order in which they were read.  Where a wait begins, the record of every counter
read so far has been taken whole and then flushed once.  Only a delivery that
fails leaves less than that, and it ends the watch: what the sink took of the
last record is then a beginning of it.
-/

namespace MemoryWatch

namespace Environment

/-- The counters that were read so far. -/
def counters (env : Environment) : List UInt64 :=
  env.trace.filterMap Step.counter?

theorem counters_eq_outward (env : Environment) :
    env.counters = env.outward.filterMap Step.counter? := by
  rw [counters, outward, List.filterMap_filter]
  congr 1
  funext step
  cases step <;> rfl

theorem counters_of_outward {start env : Environment} {steps : List Step}
    (shown : env.outward = start.outward ++ steps) :
    env.counters = start.counters ++ steps.filterMap Step.counter? := by
  rw [counters_eq_outward, shown, List.filterMap_append, counters_eq_outward]

theorem sink_deliver (env : Environment) (channel : Descriptor)
    (bytes : List UInt8) :
    (env.deliver (some channel) bytes).2.sink =
      (env.sink.deliver bytes).2.2 := by
  rw [deliver]
  exact (isSteady_sink channel).actAll
    { env with sink := (env.sink.deliver bytes).2.2 } _

theorem sink_probe (env : Environment) (cgroup : Path) :
    (env.probe cgroup).2.sink = env.sink := by
  rw [probe]
  split <;> rfl

end Environment

namespace Channel

theorem sink_of_wait {channel : Descriptor} {cancel : Option Descriptor}
    {timeout : Option Duration} {env after : Environment}
    {answer : Answer WatchError Wake}
    (waited : wait channel cancel timeout env = (answer, after)) :
    after.sink = env.sink := by
  have heard := (Environment.isSteady_sink channel).listen cancel
    (timeout.map Duration.waitMilliseconds) env
  rw [wait_eq] at waited
  rw [← (Prod.mk.inj waited).2]
  exact heard

theorem sink_of_read {channel : Descriptor} {env after : Environment}
    {answer : Answer WatchError UInt64}
    (taken : read channel env = (answer, after)) :
    after.sink = env.sink := by
  obtain ⟨trace, rfl⟩ := after_read taken
  rfl

theorem wait_failed {channel : Descriptor} {cancel : Option Descriptor}
    {timeout : Option Duration} {env after : Environment} {error : WatchError}
    (waited : wait channel cancel timeout env = (.failed error, after)) :
    ∃ reason, error = .channelRead channel reason := by
  obtain ⟨heard, meaning, _⟩ := outward_of_wait waited
  cases heard with
  | failed cause =>
      cases meaning
      exact ⟨_, rfl⟩
  | done wake => cases meaning
  | blocked => cases meaning

theorem counter?_of_interpret {channel : Descriptor}
    {given : Answer SystemError (List UInt8)} {counter : UInt64}
    (meaning : interpret channel given = .done counter) :
    (Step.read given).counter? = some counter := by
  obtain ⟨bytes, rfl, decoded⟩ := interpret_eq_done meaning
  rw [Step.counter?, decoded]
  rfl

theorem counter?_of_interpret_ne {channel : Descriptor}
    {given : Answer SystemError (List UInt8)}
    (meaning : ∀ counter, interpret channel given ≠ .done counter) :
    (Step.read given).counter? = none := by
  cases given with
  | done bytes =>
      rw [Step.counter?]
      cases decoded : decode bytes with
      | error reason => rfl
      | ok counter =>
          exact absurd (by rw [interpret, decoded]) (meaning counter)
  | failed cause => rfl
  | blocked => rfl

end Channel

namespace Watcher

variable {watcher : Watcher} {channel : Descriptor}

/-- The record of a counter. -/
def record (watcher : Watcher) (counter : UInt64) : List UInt8 :=
  Record.encode watcher.settings.format watcher.settings.cgroup counter

/-- The calls take the record of each counter whole and flush it once, one
record after the other. -/
def Reports (watcher : Watcher) (counters : List UInt64)
    (calls : List SinkCall) : Prop :=
  ∃ deliveries : List (List SinkCall), calls = deliveries.flatten ∧
    List.Forall₂ (fun counter => Sink.Completes (watcher.record counter))
      counters deliveries

namespace Reports

theorem none (watcher : Watcher) : watcher.Reports [] [] :=
  ⟨[], rfl, .nil⟩

theorem next {counters : List UInt64} {calls more : List SinkCall}
    {counter : UInt64} (reports : watcher.Reports counters calls)
    (completes : Sink.Completes (watcher.record counter) more) :
    watcher.Reports (counters ++ [counter]) (calls ++ more) := by
  obtain ⟨deliveries, rfl, complete⟩ := reports
  refine ⟨deliveries ++ [more], by simp, ?_⟩
  exact List.rel_append complete (.cons completes .nil)

theorem received_eq {counters : List UInt64} {calls : List SinkCall}
    (reports : watcher.Reports counters calls) :
    Sink.received calls = counters.flatMap watcher.record := by
  obtain ⟨deliveries, rfl, complete⟩ := reports
  induction complete with
  | nil => rfl
  | cons completes _ ih =>
      obtain ⟨writes, rfl, _, whole⟩ := completes
      rw [List.flatten_cons, Sink.received_append, ih, List.flatMap_cons,
        ← whole]
      simp

end Reports

/-- Since the start the watcher has read the counters and reported them all. -/
structure Progress (watcher : Watcher) (start env : Environment)
    (counters : List UInt64) : Prop where
  read : env.counters = start.counters ++ counters
  calls : ∃ calls, env.sink.calls = start.sink.calls ++ calls ∧
    watcher.Reports counters calls
  honest : Sink.IsHonest env.sink.writes

namespace Progress

theorem none {start : Environment}
    (honest : Sink.IsHonest start.sink.writes) :
    watcher.Progress start start [] :=
  ⟨by simp, ⟨[], by simp, .none watcher⟩, honest⟩

/-- What neither reads nor writes leaves the progress as it is. -/
theorem still {start env after : Environment} {counters : List UInt64}
    (progress : watcher.Progress start env counters)
    (read : after.counters = env.counters) (sink : after.sink = env.sink) :
    watcher.Progress start after counters where
  read := read.trans progress.read
  calls := by
    rw [sink]
    exact progress.calls
  honest := by
    rw [sink]
    exact progress.honest

theorem waited {start env after : Environment} {counters : List UInt64}
    {cancel : Option Descriptor} {timeout : Option Duration}
    {answer : Answer WatchError Wake}
    (progress : watcher.Progress start env counters)
    (wait : Channel.wait channel cancel timeout env = (answer, after)) :
    watcher.Progress start after counters := by
  obtain ⟨heard, _, shown⟩ := Channel.outward_of_wait wait
  have read := Environment.counters_of_outward shown
  rw [show [Step.waited _ heard].filterMap Step.counter? = [] from rfl,
    List.append_nil] at read
  exact progress.still read (Channel.sink_of_wait wait)

theorem unread {start env after : Environment} {counters : List UInt64}
    {answer : Answer WatchError UInt64}
    (progress : watcher.Progress start env counters)
    (read : Channel.read channel env = (answer, after))
    (fruitless : ∀ counter, answer ≠ .done counter) :
    watcher.Progress start after counters := by
  obtain ⟨rfl, shown⟩ := Channel.outward_of_read read
  have none := Channel.counter?_of_interpret_ne fruitless
  have counted := Environment.counters_of_outward shown
  rw [List.filterMap_cons_none none, List.filterMap_nil,
    List.append_nil] at counted
  exact progress.still counted (Channel.sink_of_read read)

theorem probed {start env : Environment} {counters : List UInt64}
    (progress : watcher.Progress start env counters) (cgroup : Path) :
    watcher.Progress start (env.probe cgroup).2 counters := by
  have read := Environment.counters_of_outward (env.outward_probe cgroup)
  rw [show [Step.probed _].filterMap Step.counter? = [] from rfl,
    List.append_nil] at read
  exact progress.still read (env.sink_probe cgroup)

end Progress

/-- A round that reads a counter hands its record to the sink.  What the sink
takes is a beginning of the record, and all of it, flushed once, if the delivery
goes through. -/
theorem handover {env waited after delivered : Environment} {counter : UInt64}
    {outcome : Except SystemError Unit}
    (honest : Sink.IsHonest env.sink.writes)
    (wait : Channel.wait channel watcher.cancel
      watcher.settings.probeInterval env = (.done .notified, waited))
    (read : Channel.read channel waited = (.done counter, after))
    (deliver :
      (after.note (.notified watcher.settings.cgroup counter)).deliver
        (some channel) (watcher.record counter) = (outcome, delivered)) :
    ∃ more,
      (delivered.record (.delivered counter outcome)).counters =
          env.counters ++ [counter] ∧
        delivered.sink.calls = env.sink.calls ++ more ∧
        Sink.IsHonest delivered.sink.writes ∧
        Sink.received more <+: watcher.record counter ∧
        (outcome = .ok () →
          Sink.Completes (watcher.record counter) more) := by
  obtain ⟨meaning, shown⟩ := outward_reporting wait read deliver
  have counted := Environment.counters_of_outward shown
  have kept : after.sink = env.sink :=
    (Channel.sink_of_read read).trans (Channel.sink_of_wait wait)
  have outcomeEq : (env.sink.deliver (watcher.record counter)).1 = outcome := by
    rw [← kept]
    exact congrArg Prod.fst deliver
  have sinkEq : delivered.sink =
      (env.sink.deliver (watcher.record counter)).2.2 := by
    rw [← kept]
    have handed := Environment.sink_deliver
      (after.note (.notified watcher.settings.cgroup counter)) channel
      (watcher.record counter)
    rwa [deliver] at handed
  refine ⟨Sink.deliveryCalls (watcher.record counter) env.sink, ?_, ?_, ?_,
    Sink.received_deliveryCalls_prefix honest, ?_⟩
  · have value := Channel.counter?_of_interpret meaning
    rw [counted, List.filterMap_cons_none rfl,
      List.filterMap_cons_some value, List.filterMap_cons_none rfl,
      List.filterMap_nil]
  · rw [sinkEq, Sink.calls_deliver]
  · rw [sinkEq]
    exact Sink.isHonest_deliver honest
  · intro through
    exact Sink.completes_of_deliver_ok honest (outcomeEq.trans through)

/-- What a watch has put out since its start when it ends with an answer. -/
inductive Output (watcher : Watcher) (start : Environment) :
    Answer WatchError Summary → Environment → Prop
  | returned {summary : Summary} {env : Environment} {counters : List UInt64}
      (progress : watcher.Progress start env counters)
      (counted : summary.notifications = counters.length) :
      Output watcher start (.done summary) env
  | unreadable {reason : ReadFailure} {descriptor : Descriptor}
      {env : Environment} {counters : List UInt64}
      (progress : watcher.Progress start env counters) :
      Output watcher start (.failed (.channelRead descriptor reason)) env
  | refused {cause : SystemError} {env : Environment}
      {earlier : List UInt64} {last : UInt64} {calls more : List SinkCall}
      (read : env.counters = start.counters ++ (earlier ++ [last]))
      (taken : env.sink.calls = start.sink.calls ++ (calls ++ more))
      (reports : watcher.Reports earlier calls)
      (beginning : Sink.received more <+: watcher.record last) :
      Output watcher start (.failed (.sink cause)) env
  | blocked {env : Environment} {counters : List UInt64}
      (progress : watcher.Progress start env counters) :
      Output watcher start .blocked env

namespace Progress

variable {start env : Environment} {counters : List UInt64}

/-- After a probe the watch goes on, or it ends with everything reported. -/
theorem afterProbe (progress : watcher.Progress start env counters) :
    (∃ after,
        watcher.afterProbe counters.length env =
          .continued counters.length after ∧
        watcher.Progress start after counters) ∨
      ∃ answer after,
        watcher.afterProbe counters.length env = .ended answer after ∧
        watcher.Output start answer after := by
  have probed := progress.probed watcher.settings.cgroup
  obtain ⟨_, result⟩ | ⟨_, result⟩ :=
    watcher.afterProbe_cases counters.length env
  · exact Or.inl ⟨_, result, probed⟩
  · exact Or.inr ⟨_, _, result, .returned (probed.still rfl rfl) rfl⟩

/-- After a round the watch goes on with everything reported, or it ends with
the output that belongs to its answer. -/
theorem round (progress : watcher.Progress start env counters)
    (channel : Descriptor) :
    (∃ after further,
        watcher.round channel counters.length env =
          .continued (counters ++ further).length after ∧
        watcher.Progress start after (counters ++ further)) ∨
      ∃ answer after,
        watcher.round channel counters.length env = .ended answer after ∧
        watcher.Output start answer after := by
  have turn := watcher.turn_round channel counters.length env
  generalize watcher.round channel counters.length env = result at turn
  cases turn with
  | waitBlocked wait =>
      exact Or.inr ⟨_, _, rfl, .blocked (progress.waited wait)⟩
  | waitFailed wait =>
      obtain ⟨reason, rfl⟩ := Channel.wait_failed wait
      exact Or.inr ⟨_, _, rfl, .unreadable (progress.waited wait)⟩
  | cancelled wait =>
      exact Or.inr ⟨_, _, rfl,
        .returned ((progress.waited wait).still rfl rfl) rfl⟩
  | timedOut wait =>
      obtain ⟨after, result, further⟩ | ended :=
        (progress.waited wait).afterProbe
      · exact Or.inl ⟨after, [], by simpa using result, by simpa using further⟩
      · exact Or.inr ended
  | readBlocked wait read =>
      exact Or.inr ⟨_, _, rfl,
        .blocked ((progress.waited wait).unread read (by simp))⟩
  | readFailed wait read =>
      obtain ⟨meaning, _⟩ := Channel.outward_of_read read
      obtain ⟨reason, rfl⟩ := Channel.interpret_eq_failed meaning
      exact Or.inr ⟨_, _, rfl,
        .unreadable ((progress.waited wait).unread read (by simp))⟩
  | @refused _ _ _ counter _ wait read deliver =>
      -- Only here a record may be cut, and the watch ends with it.
      obtain ⟨more, counted, called, _, beginning, _⟩ :=
        handover progress.honest wait read deliver
      obtain ⟨calls, before, reports⟩ := progress.calls
      rw [progress.read, List.append_assoc] at counted
      rw [before, List.append_assoc] at called
      exact Or.inr ⟨_, _, rfl, .refused counted called reports beginning⟩
  | @reported _ _ _ counter wait read deliver =>
      obtain ⟨more, counted, called, honest, _, completes⟩ :=
        handover progress.honest wait read deliver
      obtain ⟨calls, before, reports⟩ := progress.calls
      rw [progress.read, List.append_assoc] at counted
      rw [before, List.append_assoc] at called
      have reported : watcher.Progress start _ (counters ++ [counter]) :=
        ⟨counted, ⟨_, called, reports.next (completes rfl)⟩, honest⟩
      obtain ⟨after, result, further⟩ | ended := reported.afterProbe
      · exact Or.inl ⟨after, [counter], by simpa using result, further⟩
      · exact Or.inr (by simpa using ended)

end Progress

/-- Where a round of a watch begins, every counter read so far has been
reported. -/
theorem progress_of_arrives {start env : Environment} {notifications : Nat}
    (honest : Sink.IsHonest start.sink.writes)
    (arrived : watcher.Arrives channel start notifications env) :
    ∃ counters, notifications = counters.length ∧
      watcher.Progress start env counters := by
  induction arrived with
  | first => exact ⟨[], rfl, .none honest⟩
  | next arrived result ih =>
      obtain ⟨counters, rfl, progress⟩ := ih
      obtain ⟨after, further, continued, reported⟩ | ⟨_, _, ended, _⟩ :=
        progress.round channel
      · rw [result] at continued
        cases continued
        exact ⟨_, rfl, reported⟩
      · rw [result] at ended
        cases ended

/-- A watch past its guards has put out what belongs to its answer. -/
theorem output_of_watched? {start : Environment}
    (honest : Sink.IsHonest start.sink.writes)
    (watched : watcher.watched? = some channel) :
    watcher.Output start (watcher.watch start).1
      (watcher.watch start).2 := by
  obtain ⟨count, before, arrived, result⟩ | ⟨blocked, count, arrived⟩ :=
    watcher.watch_cases watched start
  · obtain ⟨counters, rfl, progress⟩ := progress_of_arrives honest arrived
    obtain ⟨_, _, continued, _⟩ | ⟨answer, after, ended, output⟩ :=
      progress.round channel
    · rw [result] at continued
      cases continued
    · rw [result] at ended
      cases ended
      exact output
  · obtain ⟨counters, _, progress⟩ := progress_of_arrives honest arrived
    rw [blocked]
    exact .blocked progress

/-- The calls that belong to an answer of a watch which has read the counters.
The records are complete, except that a sink that fails may cut the last one. -/
def Tells (watcher : Watcher) (counters : List UInt64)
    (calls : List SinkCall) : Answer WatchError Summary → Prop
  | .done summary =>
    watcher.Reports counters calls ∧
      Sink.received calls = counters.flatMap watcher.record ∧
      summary.notifications = counters.length
  | .failed (.channelRead _ _) =>
    watcher.Reports counters calls ∧
      Sink.received calls = counters.flatMap watcher.record
  | .failed (.sink _) =>
    ∃ earlier last cut, counters = earlier ++ [last] ∧
      cut <+: watcher.record last ∧
      Sink.received calls = earlier.flatMap watcher.record ++ cut
  | .failed _ => False
  | .blocked =>
    watcher.Reports counters calls ∧
      Sink.received calls = counters.flatMap watcher.record

theorem Output.tells {start env : Environment}
    {answer : Answer WatchError Summary}
    (output : watcher.Output start answer env) :
    ∃ counters calls, env.counters = start.counters ++ counters ∧
      env.sink.calls = start.sink.calls ++ calls ∧
      watcher.Tells counters calls answer := by
  cases output with
  | returned progress counted =>
      obtain ⟨calls, taken, reports⟩ := progress.calls
      exact ⟨_, calls, progress.read, taken, reports, reports.received_eq,
        counted⟩
  | unreadable progress =>
      obtain ⟨calls, taken, reports⟩ := progress.calls
      exact ⟨_, calls, progress.read, taken, reports, reports.received_eq⟩
  | refused read taken reports beginning =>
      refine ⟨_, _, read, taken, _, _, _, rfl, beginning, ?_⟩
      rw [Sink.received_append, reports.received_eq]
  | blocked progress =>
      obtain ⟨calls, taken, reports⟩ := progress.calls
      exact ⟨_, calls, progress.read, taken, reports, reports.received_eq⟩

/-- A watch that its guards reject leaves everything alone.  Past its guards,
every counter read before a wait begins has been taken whole and flushed
successfully once by then, and when the watch is over the sink has received what
belongs to its answer. -/
theorem output_watch {watcher : Watcher} {env : Environment}
    (honest : Sink.IsHonest env.sink.writes) :
    (watcher.watched? = none →
      ∃ fault, watcher.watch env = (.failed (.misuse fault), env)) ∧
    ∀ channel, watcher.watched? = some channel →
      (∀ notifications moment,
        watcher.Arrives channel env notifications moment →
          ∃ counters calls, notifications = counters.length ∧
            moment.counters = env.counters ++ counters ∧
            moment.sink.calls = env.sink.calls ++ calls ∧
            watcher.Reports counters calls) ∧
      ∃ counters calls,
        (watcher.watch env).2.counters = env.counters ++ counters ∧
        (watcher.watch env).2.sink.calls = env.sink.calls ++ calls ∧
        watcher.Tells counters calls (watcher.watch env).1 := by
  refine ⟨fun unwatched => watch_of_not_watched? unwatched env,
    fun channel watched => ⟨?_, ?_⟩⟩
  · intro notifications moment arrived
    obtain ⟨counters, counted, progress⟩ := progress_of_arrives honest arrived
    obtain ⟨calls, taken, reports⟩ := progress.calls
    exact ⟨counters, calls, counted, progress.read, taken, reports⟩
  · exact (output_of_watched? honest watched).tells

/-- A subscribed watcher that can be cancelled. -/
def subscribedSample : Watcher where
  settings := { cgroup := ⟨[0x2F, 0x67]⟩ }
  cancel := some 5
  handles :=
    { channel := some 3, oomControl := some 4, registration := some "3 4" }

/-- Five notifications are pending, two more come and then the watch is
cancelled.  The sink takes the first record in two pieces and is interrupted in
between. -/
def pendingSample : Environment where
  host :=
    { tree := ⟨.directory [([0x67], .directory [])], []⟩
      openFiles :=
        [{ content := .device .null .writing }, { content := .counter 5 },
          { content := .stored [] }, { content := .counter 0 }]
      table := [some 0, some 0, some 0, some 1, some 2, some 3] }
  sink := { writes := [.accept 2, .fail (.number 4)] }
  schedule := [[.notify 2], [.cancel]]
  canceller := some 5

theorem output_watch_pendingSample :
    Sink.IsHonest pendingSample.sink.writes ∧
      subscribedSample.watched? = some 3 ∧
      (subscribedSample.watch pendingSample).1 = .done ⟨.cancelled, 2⟩ ∧
      ∃ counters calls,
        (subscribedSample.watch pendingSample).2.counters =
          pendingSample.counters ++ counters ∧
        (subscribedSample.watch pendingSample).2.sink.calls =
          pendingSample.sink.calls ++ calls ∧
        subscribedSample.Tells counters calls
          (subscribedSample.watch pendingSample).1 := by
  have honest : Sink.IsHonest pendingSample.sink.writes := by
    simp [Sink.IsHonest, pendingSample]
  have watched : subscribedSample.watched? = some 3 := rfl
  refine ⟨honest, watched, by decide +kernel, ?_⟩
  exact ((output_watch honest).2 3 watched).2

end Watcher

end MemoryWatch
