import MemoryWatch.Proofs.Stream

/-!
# Enough rounds

The rounds that a watch is given are enough, whatever open file is behind its
channel.  A scheduled group or a flush may bring one notification; apart from
these a round after which the watch goes on only uses up what there is: an
answer that the sink has been given, or something that can be read.  When a
round uses up nothing, the watch goes on in the same way for ever.  Either it
waits in vain, or a device gives it one counter after the other.  So a watch
that arrives at a round which ends it has not run out of rounds before.
-/

namespace MemoryWatch

/-- What there is to take from an open file, apart from what a device makes
up. -/
def OpenContent.stock : OpenContent → Nat
  | .counter pending => if pending = 0 then 0 else 1
  | .stored unread | .pipe unread _ => unread.length + 1
  | .directory | .endpoint _ | .device _ _ => 1

namespace Host

variable {host : Host} {descriptor : Descriptor}

/-- What there is to take from the open file behind a descriptor. -/
def stock (host : Host) (descriptor : Descriptor) : Nat :=
  ((host.openFile? descriptor).map fun file => file.content.stock).getD 0

theorem stock_of_openFile? {file : OpenFile}
    (opened : host.openFile? descriptor = some file) :
    host.stock descriptor = file.content.stock := by
  rw [stock, opened]
  rfl

/-- A write may bring one notification, but not two. -/
theorem stock_write_le {bound : Nat} (host : Host)
    (written descriptor : Descriptor) (bytes : List UInt8)
    (within : host.stock descriptor ≤ bound + 1) :
    (host.write written bytes).2.stock descriptor ≤ bound + 1 := by
  obtain same | ⟨_, sum, _, _, after⟩ :=
    host.openFile?_write written descriptor bytes
  · rwa [stock, same, ← stock]
  · rw [stock_of_openFile? after, OpenContent.stock]
    split <;> omega

/-- A read that gives a whole counter takes it away, unless the host is as it
was before. -/
theorem stock_read {bytes : List UInt8}
    (given : (host.read descriptor).1 = .done bytes)
    (whole : bytes.length = Counter.size) :
    (host.read descriptor).2.stock descriptor < host.stock descriptor ∨
      (host.read descriptor).2 = host := by
  rw [read] at given ⊢
  rcases opened : host.openFile? descriptor with _ | ⟨content, impatient⟩
  · exact Or.inr rfl
  rw [opened] at given
  cases content with
  | counter pending =>
      dsimp only at given ⊢
      split
      · exact Or.inr rfl
      · next filled =>
          left
          rw [stock_of_openFile? opened,
            stock_of_openFile? (openFile?_update opened _)]
          simp [OpenContent.stock, filled]
  | stored unread =>
      cases given
      left
      rw [stock_of_openFile? opened,
        stock_of_openFile? (openFile?_update opened _)]
      simp [OpenContent.stock, Counter.size] at whole ⊢
      omega
  | pipe unread hasWriter =>
      dsimp only at given ⊢
      split
      · exact Or.inr rfl
      · next ready =>
          rw [if_neg ready] at given
          cases given
          left
          rw [stock_of_openFile? opened,
            stock_of_openFile? (openFile?_update opened _)]
          simp [OpenContent.stock, Counter.size] at whole ⊢
          omega
  | directory | endpoint location => exact Or.inr rfl
  | device device access => cases device <;> cases access <;> exact Or.inr rfl

end Host

theorem Environment.lasts_stock (channel : Descriptor) (bound : Nat) :
    Environment.Lasts channel fun env =>
      env.host.stock channel ≤ bound + 1 where
  act env action within := by
    obtain ⟨count, acted⟩ | ⟨handle, log, _, acted⟩ | ⟨tree, allowance, acted⟩ :=
      env.act_cases channel action
    · rw [acted, add_snd]
      exact env.host.stock_write_le channel channel _ within
    · rw [acted, fire_snd]
      exact env.host.stock_write_le handle channel _ within
    · rw [acted]
      exact within
  schedule _ _ within := within
  interrupted _ within := within

namespace Sink

/-- How much of the script of a sink is left.  A group during a flush counts
twice, since it may bring a notification. -/
def scripted (sink : Sink) : Nat :=
  2 * sink.duringFlush.length + sink.writes.length + sink.flushes.length

theorem wholeWrite_ne_nil (script : List WriteAnswer) {bytes : List UInt8}
    (some : bytes ≠ []) : (wholeWrite script bytes).2 ≠ [] := by
  fun_cases wholeWrite script bytes <;> simp_all

/-- A delivery that goes through lets the next flush happen. -/
theorem deliver_ok {sink after : Sink} {bytes : List UInt8}
    {actions : List Action}
    (delivered : sink.deliver bytes = (.ok (), actions, after)) :
    actions = sink.duringFlush.headD [] ∧
      after.duringFlush = sink.duringFlush.tail := by
  rw [deliver] at delivered
  rcases written : sink.writeAll bytes with ⟨cause | _, flushing⟩
  · rw [written] at delivered
    cases delivered
  · have kept : flushing.duringFlush = sink.duringFlush := by
      rw [writeAll] at written
      rw [← (Prod.mk.inj written).2]
    rw [written] at delivered
    obtain ⟨_, rest⟩ := Prod.mk.inj delivered
    obtain ⟨rfl, rfl⟩ := Prod.mk.inj rest
    rw [← kept]
    exact ⟨rfl, rfl⟩

/-- A delivery that goes through uses up something of the script, if anything is
left of it, and more than that if others act during the flush. -/
theorem scripted_of_deliver {sink after : Sink} {bytes : List UInt8}
    {actions : List Action} (filled : bytes ≠ [])
    (delivered : sink.deliver bytes = (.ok (), actions, after)) :
    actions = [] ∧ (after.scripted < sink.scripted ∨
        sink.scripted = 0 ∧ after.scripted = 0) ∨
      after.scripted + 1 < sink.scripted := by
  simp only [deliver, writeAll] at delivered
  rcases written : wholeWrite sink.writes bytes with ⟨cause | _, calls⟩
  · rw [written] at delivered
    cases delivered
  · rw [written] at delivered
    obtain ⟨_, rest⟩ := Prod.mk.inj delivered
    obtain ⟨rfl, rfl⟩ := Prod.mk.inj rest
    have called : 0 < calls.length := by
      simpa [written, List.length_pos_iff] using
        wholeWrite_ne_nil sink.writes filled
    simp only [scripted, List.length_tail, List.length_drop]
    cases script : sink.duringFlush with
    | nil =>
        left
        refine ⟨rfl, ?_⟩
        simp only [List.length_nil]
        omega
    | cons group later =>
        right
        simp only [List.length_cons]
        omega

/-- A sink without a script takes every record. -/
theorem deliver_of_unscripted {sink : Sink} (unscripted : sink.scripted = 0)
    (bytes : List UInt8) :
    ∃ after, sink.deliver bytes = (.ok (), [], after) ∧ after.scripted = 0 := by
  rcases sink with ⟨writes, flushes, duringFlush, calls⟩
  simp only [scripted, Nat.add_eq_zero_iff, Nat.mul_eq_zero,
    List.length_eq_zero_iff, OfNat.ofNat_ne_zero, false_or] at unscripted
  obtain ⟨⟨rfl, rfl⟩, rfl⟩ := unscripted
  cases bytes <;> exact ⟨_, rfl, rfl⟩

end Sink

namespace Channel

variable {channel : Descriptor} {cancel : Option Descriptor}
  {limit : Option Nat} {env : Environment}

/-- With nothing scheduled, a wait with a limit is in vain at once. -/
theorem listen_of_idle (able : ¬isBarred cancel env)
    (quiet : glance channel cancel env = none) (done : env.schedule = [])
    (limited : limit.isSome = true) :
    listen channel cancel limit env = (.done .timedOut, env) := by
  have same : { env with schedule := [] } = env := by rw [← done]
  rw [listen, if_neg able, quiet, done, await, if_pos limited, same]

theorem read_of_whole {bytes : List UInt8}
    (given : (env.host.read channel).1 = .done bytes)
    (whole : bytes.length = Counter.size) :
    ∃ after, read channel env = (.done (Counter.ofBytes bytes), after) ∧
      after.host = (env.host.read channel).2 ∧ after.sink = env.sink := by
  obtain ⟨trace, fetched⟩ := fetch_eq channel env
  refine ⟨{ env with
    host := (env.host.read channel).2
    interruptions := env.interruptions.tail
    trace }, ?_, rfl, rfl⟩
  rw [read_eq, fetched, given]
  simp only [interpret, decode, whole, if_true]

/-- A read that gives a whole counter has read eight bytes. -/
theorem read_done {after : Environment} {counter : UInt64}
    (taken : read channel env = (.done counter, after)) :
    ∃ bytes, (env.host.read channel).1 = .done bytes ∧
      bytes.length = Counter.size ∧ Counter.ofBytes bytes = counter := by
  obtain ⟨trace, fetched⟩ := fetch_eq channel env
  rw [read_eq, fetched] at taken
  have meaning := (Prod.mk.inj taken).1
  cases given : (env.host.read channel).1 with
  | failed cause =>
      rw [given] at meaning
      cases meaning
  | blocked =>
      rw [given] at meaning
      cases meaning
  | done bytes =>
      simp only [given, interpret, decode] at meaning
      by_cases whole : bytes.length = Counter.size
      · rw [if_pos whole] at meaning
        exact ⟨bytes, rfl, whole, Answer.done.inj meaning⟩
      · rw [if_neg whole] at meaning
        cases meaning

end Channel

theorem Environment.stock_deliver (env : Environment) (channel : Descriptor)
    (bytes : List UInt8) :
    (env.deliver (some channel) bytes).2.host.stock channel ≤
      env.host.stock channel + 1 := by
  have begun : { env with sink := (env.sink.deliver bytes).2.2 }.host.stock
      channel ≤ env.host.stock channel + 1 :=
    Nat.le_succ _
  exact (lasts_stock channel _).actAll begun _

theorem Environment.deliver_of_unscripted {channel : Descriptor}
    {env : Environment} (unscripted : env.sink.scripted = 0)
    (bytes : List UInt8) :
    ∃ after, env.deliver (some channel) bytes = (.ok (), after) ∧
      after.host = env.host ∧ after.sink.scripted = 0 := by
  obtain ⟨sink, delivered, stays⟩ := Sink.deliver_of_unscripted unscripted bytes
  refine ⟨{ env with sink }, ?_, rfl, stays⟩
  rw [deliver, delivered]
  rfl

namespace Watcher

variable {watcher : Watcher} {channel : Descriptor} {env after : Environment}
  {notifications following : Nat}

/-- What can still change the course of a watch: the groups to come, each of
which may bring a notification, the script of the sink, and what can be read. -/
def potential (channel : Descriptor) (env : Environment) : Nat :=
  2 * env.schedule.length + env.sink.scripted + env.host.stock channel

/-- A watch with nothing left that could change its course, and with nothing to
read. -/
structure Idle (watcher : Watcher) (channel : Descriptor)
    (env : Environment) : Prop where
  able : ¬Channel.isBarred watcher.cancel env
  quiet : Channel.glance channel watcher.cancel env = none
  done : env.schedule = []
  limited : watcher.limit.isSome = true
  present : (env.host.tree.resolve watcher.settings.cgroup).isOk = true

/-- A watch to which a device gives counters without end, and whose sink takes
every record. -/
structure Endless (watcher : Watcher) (channel : Descriptor)
    (env : Environment) : Prop where
  able : ¬Channel.isBarred watcher.cancel env
  shown : Channel.glance channel watcher.cancel env = some .notified
  source : ∃ bytes, env.host.read channel = (.done bytes, env.host) ∧
    bytes.length = Counter.size
  unscripted : env.sink.scripted = 0
  present : (env.host.tree.resolve watcher.settings.cgroup).isOk = true

theorem probe_fst (env : Environment) (cgroup : Path) :
    (env.probe cgroup).1 = (env.host.tree.resolve cgroup).isOk := by
  rw [Environment.probe]
  split
  · next resolved => rw [resolved]; rfl
  · next missing => rw [missing]; rfl

theorem probe_of_present {cgroup : Path}
    (present : (env.probe cgroup).1 = true) :
    (env.probe cgroup).2 = env.record (.probed true) := by
  rw [Environment.probe] at present ⊢
  split at present
  · rfl
  · cases present

theorem afterProbe_of_present
    (present : (env.host.tree.resolve watcher.settings.cgroup).isOk = true)
    (notifications : Nat) :
    watcher.afterProbe notifications env =
      .continued notifications (env.record (.probed true)) := by
  have found := (probe_fst env watcher.settings.cgroup).trans present
  obtain ⟨_, goesOn⟩ | ⟨absent, _⟩ := watcher.afterProbe_cases notifications env
  · rw [goesOn, probe_of_present found]
  · exact absurd (found.symm.trans absent) (by decide)

theorem continued_of_afterProbe
    (result : watcher.afterProbe notifications env =
      .continued following after) :
    (env.host.tree.resolve watcher.settings.cgroup).isOk = true ∧
      following = notifications ∧ after = env.record (.probed true) := by
  obtain ⟨present, probed⟩ | ⟨_, probed⟩ :=
    watcher.afterProbe_cases notifications env
  · rw [probed, probe_of_present present] at result
    rw [probe_fst] at present
    cases result
    exact ⟨present, rfl, rfl⟩
  · rw [probed] at result
    cases result

theorem round_of_timedOut {waited : Environment}
    (wait : Channel.wait channel watcher.cancel
      watcher.settings.probeInterval env = (.done .timedOut, waited))
    (notifications : Nat) :
    watcher.round channel notifications env =
      watcher.afterProbe notifications waited := by
  rw [Watcher.round, wait]

theorem round_of_reported {waited read delivered : Environment}
    {counter : UInt64}
    (wait : Channel.wait channel watcher.cancel
      watcher.settings.probeInterval env = (.done .notified, waited))
    (taken : Channel.read channel waited = (.done counter, read))
    (handed : (read.note (.notified watcher.settings.cgroup counter)).deliver
      (some channel) (Record.encode watcher.settings.format
        watcher.settings.cgroup counter) = (.ok (), delivered)) :
    watcher.round channel notifications env =
      watcher.afterProbe (notifications + 1)
        (delivered.record (.delivered counter (.ok ()))) := by
  rw [Watcher.round, wait]
  simp only [report, taken, handed]

/-- A watch with nothing left goes on for ever. -/
theorem Idle.round (idle : watcher.Idle channel env) (notifications : Nat) :
    ∃ after, watcher.round channel notifications env =
        .continued notifications after ∧
      watcher.Idle channel after := by
  have wait := Channel.wait_of_listen (Channel.listen_of_idle idle.able
    idle.quiet idle.done idle.limited)
  rw [round_of_timedOut wait]
  refine ⟨_, afterProbe_of_present ?_ notifications,
    idle.able, idle.quiet, idle.done, idle.limited, idle.present⟩
  exact idle.present

theorem Endless.still (endless : watcher.Endless channel env)
    (host : after.host = env.host) (unscripted : after.sink.scripted = 0) :
    watcher.Endless channel after := by
  have same : Channel.glance channel watcher.cancel after =
      Channel.glance channel watcher.cancel env := by
    simp only [Channel.glance, host]
  refine ⟨?_, same.trans endless.shown, ?_, unscripted, ?_⟩
  · rw [Channel.isBarred, host]
    exact endless.able
  · rw [host]
    exact endless.source
  · rw [host]
    exact endless.present

/-- So does a watch that always finds another counter. -/
theorem Endless.round (endless : watcher.Endless channel env)
    (notifications : Nat) :
    ∃ after, watcher.round channel notifications env =
        .continued (notifications + 1) after ∧
      watcher.Endless channel after := by
  have heard : Channel.listen channel watcher.cancel watcher.limit env =
      (.done .notified, env) := by
    rw [Channel.listen, if_neg endless.able, endless.shown]
  obtain ⟨waited, wait, begun⟩ : ∃ waited,
      Channel.wait channel watcher.cancel watcher.settings.probeInterval env =
        (.done .notified, waited) ∧ watcher.Endless channel waited :=
    ⟨_, Channel.wait_of_listen heard, endless.still rfl endless.unscripted⟩
  obtain ⟨bytes, source, whole⟩ := begun.source
  obtain ⟨read, taken, host, sink⟩ :=
    Channel.read_of_whole (congrArg Prod.fst source) whole
  have further : watcher.Endless channel read :=
    begun.still (host.trans (congrArg Prod.snd source))
      (sink ▸ begun.unscripted)
  obtain ⟨delivered, handed, kept, unscripted⟩ :=
    @Environment.deliver_of_unscripted channel
      (read.note (.notified watcher.settings.cgroup (Counter.ofBytes bytes)))
      further.unscripted (Record.encode watcher.settings.format
        watcher.settings.cgroup (Counter.ofBytes bytes))
  have stays : watcher.Endless channel delivered := further.still kept unscripted
  rw [round_of_reported wait taken handed]
  refine ⟨_, afterProbe_of_present ?_ _, stays.still rfl stays.unscripted⟩
  exact stays.present

/-- A watch that goes on for ever, whatever its bound. -/
inductive Perpetual (watcher : Watcher) (channel : Descriptor)
    (env : Environment) : Prop
  | idle (idle : watcher.Idle channel env)
  | endless (endless : watcher.Endless channel env)

theorem Perpetual.round (perpetual : watcher.Perpetual channel env)
    (notifications : Nat) :
    ∃ following after, watcher.round channel notifications env =
        .continued following after ∧
      watcher.Perpetual channel after := by
  cases perpetual with
  | idle idle =>
      obtain ⟨after, goesOn, stays⟩ := idle.round notifications
      exact ⟨_, after, goesOn, .idle stays⟩
  | endless endless =>
      obtain ⟨after, goesOn, stays⟩ := endless.round notifications
      exact ⟨_, after, goesOn, .endless stays⟩

theorem potential_elapse_lt {count : Nat} (positive : 0 < count)
    (within : count ≤ env.schedule.length) :
    potential channel (Channel.elapse channel count env) <
      potential channel env := by
  have stock := (Environment.lasts_stock channel
    (env.host.stock channel)).elapse (Nat.le_succ _) count
  rw [potential, potential, Channel.schedule_elapse, Channel.sink_elapse,
    List.length_drop]
  omega

/-- A round in vain uses up a scheduled group, or there is nothing left. -/
theorem potential_timedOut {waited : Environment}
    (wait : Channel.wait channel watcher.cancel
      watcher.settings.probeInterval env = (.done .timedOut, waited)) :
    potential channel waited < potential channel env ∨
      waited.host = env.host ∧ ¬Channel.isBarred watcher.cancel env ∧
        Channel.glance channel watcher.cancel env = none ∧
        env.schedule = [] := by
  obtain ⟨heard, able, hears, rfl⟩ := Channel.hears_of_wait wait
  cases hears with
  | seen count within quiet shown =>
      exact absurd shown (Channel.glance_ne_timedOut _ _ _)
  | timedOut count within quiet limited spent =>
      rcases Nat.eq_zero_or_pos count with rfl | positive
      · have done : env.schedule = [] := spent.resolve_left (by omega)
        exact Or.inr ⟨rfl, able, quiet 0 (by omega), done⟩
      · exact Or.inl (potential_elapse_lt positive within)

/-- What a wait has seen was there before, or came with a scheduled group. -/
theorem potential_notified {waited : Environment}
    (wait : Channel.wait channel watcher.cancel
      watcher.settings.probeInterval env = (.done .notified, waited)) :
    potential channel waited < potential channel env ∨
      waited = env.record (.waited watcher.limit (.done .notified)) ∧
        ¬Channel.isBarred watcher.cancel env ∧
        Channel.glance channel watcher.cancel env = some .notified := by
  obtain ⟨heard, able, hears, rfl⟩ := Channel.hears_of_wait wait
  cases hears with
  | seen count within quiet shown =>
      rcases Nat.eq_zero_or_pos count with rfl | positive
      · exact Or.inr ⟨rfl, able, shown⟩
      · exact Or.inl (potential_elapse_lt positive within)

/-- A read that gives a counter takes something away, or it has changed nothing
and gives the same again. -/
theorem potential_read {counter : UInt64}
    (taken : Channel.read channel env = (.done counter, after)) :
    potential channel after < potential channel env ∨
      potential channel after = potential channel env ∧
        ∃ bytes, env.host.read channel = (.done bytes, env.host) ∧
          bytes.length = Counter.size := by
  obtain ⟨bytes, given, whole, _⟩ := Channel.read_done taken
  obtain ⟨trace, rfl⟩ := Channel.after_read taken
  obtain fewer | same := Host.stock_read given whole
  · left
    simp only [potential]
    omega
  · right
    refine ⟨?_, bytes, Prod.ext given same, whole⟩
    simp only [potential, same]

/-- A delivery brings at most one notification, and only in a flush for which
something is scripted. -/
theorem potential_deliver {bytes : List UInt8} (filled : bytes ≠ [])
    (delivered : env.deliver (some channel) bytes = (.ok (), after)) :
    potential channel after < potential channel env ∨
      potential channel after = potential channel env ∧
        env.sink.scripted = 0 ∧ after.host = env.host := by
  have brought := env.stock_deliver channel bytes
  rw [Environment.deliver] at brought delivered
  rcases handed : env.sink.deliver bytes with ⟨outcome, actions, sink⟩
  rw [handed] at brought delivered
  obtain ⟨rfl, acted⟩ := Prod.mk.inj delivered
  dsimp only at brought acted
  rw [acted] at brought
  obtain ⟨host, log, trace, made⟩ :=
    Environment.actAll_eq { env with sink } channel actions
  rw [made] at acted
  subst acted
  simp only [potential] at brought ⊢
  obtain ⟨rfl, fewer⟩ | fewer := Sink.scripted_of_deliver filled handed
  · obtain rfl : env.host = host := congrArg Environment.host made
    obtain fewer | ⟨unscripted, still⟩ := fewer
    · left
      omega
    · right
      exact ⟨by rw [unscripted, still], unscripted, rfl⟩
  · left
    omega

/-- A round that has reported a counter uses something up, or there is another
counter of the same kind to report. -/
theorem potential_reported {waited read delivered : Environment}
    {counter : UInt64}
    (wait : Channel.wait channel watcher.cancel
      watcher.settings.probeInterval env = (.done .notified, waited))
    (taken : Channel.read channel waited = (.done counter, read))
    (handed : (read.note (.notified watcher.settings.cgroup counter)).deliver
      (some channel) (Record.encode watcher.settings.format
        watcher.settings.cgroup counter) = (.ok (), delivered))
    (present : (delivered.host.tree.resolve
      watcher.settings.cgroup).isOk = true) :
    potential channel delivered < potential channel env ∨
      watcher.Endless channel env := by
  have filled := (Record.isFrame_encode watcher.settings.format
    watcher.settings.cgroup counter).ne_nil
  have reading := potential_read taken
  have delivering := potential_deliver filled handed
  have told : potential channel (read.note (.notified watcher.settings.cgroup
      counter)) = potential channel read := rfl
  rw [told] at delivering
  have noMore : potential channel read ≤ potential channel waited :=
    reading.elim le_of_lt fun even => even.1.le
  have noneMore : potential channel delivered ≤ potential channel read :=
    delivering.elim le_of_lt fun even => even.1.le
  obtain fewer | ⟨rfl, able, shown⟩ := potential_notified wait
  · exact Or.inl (by omega)
  have begun : potential channel (env.record (.waited watcher.limit
      (.done .notified))) = potential channel env := rfl
  obtain fewer | ⟨_, source⟩ := reading
  · exact Or.inl (by omega)
  obtain fewer | ⟨_, unscripted, kept⟩ := delivering
  · exact Or.inl (by omega)
  -- Nothing was used up, so that the surroundings still look as they did.
  right
  obtain ⟨_, rfl⟩ := Channel.after_read taken
  obtain ⟨bytes, again, whole⟩ := source
  have host : delivered.host = env.host :=
    kept.trans (congrArg Prod.snd again)
  exact ⟨able, shown, ⟨bytes, again, whole⟩, unscripted, host ▸ present⟩

/-- A round after which a watch goes on uses something up, or the watch goes on
for ever. -/
theorem potential_continued
    (result : watcher.round channel notifications env =
      .continued following after) :
    potential channel after < potential channel env ∨
      watcher.Perpetual channel env := by
  have turn := watcher.turn_round channel notifications env
  generalize watcher.round channel notifications env = round at turn result
  cases turn with
  | waitBlocked | waitFailed | cancelled | readBlocked | readFailed
  | refused => cases result
  | @timedOut waited wait =>
      obtain ⟨present, _, rfl⟩ := continued_of_afterProbe result
      obtain fewer | ⟨host, able, quiet, done⟩ := potential_timedOut wait
      · exact Or.inl fewer
      · rw [host] at present
        exact Or.inr (.idle ⟨able, quiet, done, Channel.limited_of_wait wait,
          present⟩)
  | @reported waited read delivered counter wait taken handed =>
      obtain ⟨present, _, rfl⟩ := continued_of_afterProbe result
      obtain fewer | endless := potential_reported wait taken handed present
      · exact Or.inl fewer
      · exact Or.inr (.endless endless)

/-- A round that a loop arrives at comes before the bound is used up, unless
the loop goes on for ever. -/
theorem rounds_of_arrives {start : Environment}
    (arrived : watcher.Arrives channel start notifications env) :
    (∃ used, used + potential channel env ≤ potential channel start ∧
        ∀ bound, watcher.rounds channel (used + bound) 0 start =
          watcher.rounds channel bound notifications env) ∨
      watcher.Perpetual channel env := by
  -- Every round that the loop has used has lowered the potential.
  induction arrived with
  | first =>
      refine Or.inl ⟨0, by omega, fun bound => ?_⟩
      rw [Nat.zero_add]
  | @next notifications following env after arrived result ih =>
      have lasting (perpetual : watcher.Perpetual channel env) :
          watcher.Perpetual channel after := by
        obtain ⟨_, _, goesOn, stays⟩ := perpetual.round notifications
        rw [goesOn] at result
        cases result
        exact stays
      obtain ⟨used, within, same⟩ | perpetual := ih
      · obtain fewer | perpetual := potential_continued result
        · refine Or.inl ⟨used + 1, by omega, fun bound => ?_⟩
          rw [Nat.add_assoc, Nat.add_comm 1 bound, same, Watcher.rounds,
            result]
        · exact Or.inr (lasting perpetual)
      · exact Or.inr (lasting perpetual)

theorem potential_lt_patience (channel : Descriptor) (env : Environment) :
    potential channel env < patience channel env := by
  rw [potential, patience, Sink.scripted, Host.stock]
  rcases env.host.openFile? channel with _ | ⟨content, impatient⟩
  · simp only [Option.map_none, Option.getD_none]
    omega
  · cases content with
    | counter pending =>
        simp only [Option.map_some, Option.getD_some, OpenContent.stock, supply]
        split <;> omega
    | stored unread | pipe unread hasWriter | directory | endpoint location
    | device device access =>
        simp only [Option.map_some, Option.getD_some, OpenContent.stock, supply]
        omega

/-- A watch that arrives at a round which ends it has ended with that round. -/
theorem watch_eq_of_ended {answer : Answer WatchError Summary}
    {moment : Environment} (watched : watcher.watched? = some channel)
    (arrived : watcher.Arrives channel env notifications moment)
    (result : watcher.round channel notifications moment =
      .ended answer after) :
    watcher.watch env = (answer, after) := by
  obtain ⟨used, within, same⟩ | perpetual := rounds_of_arrives arrived
  · have enough := potential_lt_patience channel env
    obtain ⟨bound, split⟩ :
        ∃ bound, patience channel env = used + (bound + 1) :=
      ⟨patience channel env - used - 1, by omega⟩
    rw [watch_of_watched? watched, split, same, Watcher.rounds, result]
  · obtain ⟨_, _, goesOn, _⟩ := perpetual.round notifications
    rw [goesOn] at result
    cases result

end Watcher

end MemoryWatch
