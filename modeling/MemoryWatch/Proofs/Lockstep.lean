import MemoryWatch.Proofs.Concord
import MemoryWatch.Proofs.Patience

/-!
# Watches in lockstep

Two watches that begin in surroundings that look the same go through the same
rounds.  A wait looks at one more file when there is a handle that could cancel
it, but that one never shows anything; a record has another length in another
format, but it is written whole and flushed once in any case.  So the same is
read, delivered and found in every round, and both watches end in the same way,
or both go on for ever.
-/

namespace MemoryWatch

open Environment (Alike Calm)

/-- Two errors are the same, up to the numbers of descriptors.  Of registrations
that name other descriptors as much was left over. -/
inductive WatchError.Same : WatchError → WatchError → Prop
  | refl (error : WatchError) : WatchError.Same error error
  | channelRead (channel counterpart : Int) (reason : ReadFailure) :
      WatchError.Same (.channelRead channel reason)
        (.channelRead counterpart reason)
  | incomplete (path : Path) (missing expected other : Nat) :
      WatchError.Same
        (.registrationIncomplete path (expected - missing) expected)
        (.registrationIncomplete path (other - missing) other)

/-- Two answers are the same, up to how errors are the same. -/
inductive Answer.Same {α : Type} :
    Answer WatchError α → Answer WatchError α → Prop
  | done (value : α) : Answer.Same (.done value) (.done value)
  | failed {error other : WatchError} (same : error.Same other) :
      Answer.Same (.failed error) (.failed other)
  | blocked : Answer.Same .blocked .blocked

namespace Channel

variable {channel counterpart : Descriptor} {cancel guard : Option Descriptor}
  {env other : Environment}

/-- With a handle that nobody has fired, a look shows what the channel has to
tell. -/
theorem glance_of_calm {sum : UInt64} (calm : env.Calm ⟨some channel, cancel⟩)
    (counted : env.host.pending? channel = some sum) :
    glance channel cancel env = if sum = 0 then none else some .notified := by
  obtain ⟨handle, held, ⟨_, fired, filled⟩, _⟩ | ⟨_, shown⟩ :=
    glance_cases counted fun handle held => ⟨0, calm.unfired handle held⟩
  · cases fired.symm.trans (calm.unfired handle held)
    exact absurd rfl filled
  · obtain ⟨filled, shown⟩ | ⟨empty, shown⟩ := shown
    · rw [if_neg filled, shown]
    · rw [if_pos empty, shown]

theorem glance_alike
    (alike : Alike ⟨some channel, cancel⟩ ⟨some counterpart, guard⟩ env other) :
    glance counterpart guard other = glance channel cancel env := by
  obtain ⟨sum, counted⟩ := alike.calm.counts channel rfl
  rw [glance_of_calm alike.calm counted,
    glance_of_calm alike.twin (alike.pending?.trans counted)]

/-- A process with a handle waits for one descriptor more, and has one more. -/
theorem isBarred_alike {ears others : Ears}
    (alike : Alike ears others env other) :
    isBarred others.cancel other = isBarred ears.cancel env :=
  alike.allowance.bars_eq alike.even

theorem happen_alike {group : List Action} {later : Schedule}
    (alike : Alike ⟨some channel, cancel⟩ ⟨some counterpart, guard⟩ env other)
    (begun : env.schedule = group :: later) :
    Alike ⟨some channel, cancel⟩ ⟨some counterpart, guard⟩
      (happen channel group later env) (happen counterpart group later other)
    := by
  have spared := alike.calm.scheduled
  rw [begun] at spared
  have rescheduled : Alike ⟨some channel, cancel⟩ ⟨some counterpart, guard⟩
      { env with schedule := later } { other with schedule := later } :=
    alike.reschedule fun coming member => spared coming (by simp [member])
  have acted := rescheduled.actAll group (spared group (by simp))
  rw [happen, happen]
  split
  · exact acted.record _
  · exact acted

/-- Waits with the same schedule are ended by the same group in the same
way. -/
theorem await_alike {limit : Option Nat} {schedule : Schedule}
    (alike : Alike ⟨some channel, cancel⟩ ⟨some counterpart, guard⟩ env other)
    (begun : env.schedule = schedule) :
    (await counterpart guard limit schedule other).1 =
        (await channel cancel limit schedule env).1 ∧
      Alike ⟨some channel, cancel⟩ ⟨some counterpart, guard⟩
        (await channel cancel limit schedule env).2
        (await counterpart guard limit schedule other).2 := by
  induction schedule generalizing env other with
  | nil => exact ⟨rfl, alike.reschedule (by simp)⟩
  | cons group later ih =>
      have happened := happen_alike alike begun
      rw [await_cons, await_cons]
      dsimp only
      rw [glance_alike happened]
      cases glance channel cancel (happen channel group later env) with
      | some wake => exact ⟨rfl, happened⟩
      | none =>
          have barred := isBarred_alike happened
          dsimp only at barred ⊢
          rw [barred]
          split
          · exact ⟨rfl, happened⟩
          split
          · exact ⟨rfl, happened⟩
          · refine ih happened ?_
            obtain ⟨_, _, _, made⟩ := happen_eq channel group later env
            rw [made]

theorem listen_alike (limit : Option Nat)
    (alike : Alike ⟨some channel, cancel⟩ ⟨some counterpart, guard⟩ env other) :
    (listen counterpart guard limit other).1 =
        (listen channel cancel limit env).1 ∧
      Alike ⟨some channel, cancel⟩ ⟨some counterpart, guard⟩
        (listen channel cancel limit env).2
        (listen counterpart guard limit other).2 := by
  have barred := isBarred_alike alike
  dsimp only at barred
  rw [listen, listen, glance_alike alike, barred]
  split
  · exact ⟨rfl, alike⟩
  split
  · exact ⟨rfl, alike⟩
  · rw [alike.schedule]
    exact await_alike alike rfl

/-- What a wait of a watch leads to. -/
theorem wait_alike (timeout : Option Duration)
    (alike : Alike ⟨some channel, cancel⟩ ⟨some counterpart, guard⟩ env other) :
    Answer.Same (wait channel cancel timeout env).1
        (wait counterpart guard timeout other).1 ∧
      Alike ⟨some channel, cancel⟩ ⟨some counterpart, guard⟩
        (wait channel cancel timeout env).2
        (wait counterpart guard timeout other).2 := by
  rw [wait_eq, wait_eq]
  dsimp only
  generalize timeout.map Duration.waitMilliseconds = limit
  obtain ⟨answer, heard⟩ := listen_alike limit alike
  rw [answer]
  generalize listen channel cancel limit env = given at heard ⊢
  obtain ⟨given, after⟩ := given
  refine ⟨?_, heard.record (.waited limit given)⟩
  cases given with
  | done wake => exact .done wake
  | failed cause => exact .failed (.channelRead _ _ _)
  | blocked => exact .blocked

theorem interpret_alike (channel counterpart : Descriptor)
    (answer : Answer SystemError (List UInt8)) :
    Answer.Same (interpret channel answer) (interpret counterpart answer) := by
  rw [interpret.eq_def, interpret.eq_def]
  cases answer with
  | done bytes =>
      dsimp only
      split
      · exact .done _
      · exact .failed (.channelRead _ _ _)
  | failed cause => exact .failed (.channelRead _ _ _)
  | blocked => exact .blocked

/-- Both watches read the same. -/
theorem read_alike
    (alike : Alike ⟨some channel, cancel⟩ ⟨some counterpart, guard⟩ env other) :
    Answer.Same (read channel env).1 (read counterpart other).1 ∧
      Alike ⟨some channel, cancel⟩ ⟨some counterpart, guard⟩
        (read channel env).2 (read counterpart other).2 := by
  have counts := alike.calm.counts channel rfl
  obtain ⟨answer, file⟩ := Host.read_alike counts alike.file
  have still : ∃ sum, (env.host.read channel).2.pending? channel = some sum :=
    Host.counts_read counts
  have touches := env.host.touches_read channel
  have touched := other.host.touches_read counterpart
  have shown := outward_fetch channel env
  have shownTwin := outward_fetch counterpart other
  obtain ⟨openFiles, taken⟩ := env.host.read_snd channel
  obtain ⟨twins, takenTwin⟩ := other.host.read_snd counterpart
  obtain ⟨trace, fetched⟩ := fetch_eq channel env
  obtain ⟨steps, fetchedTwin⟩ := fetch_eq counterpart other
  have exchanges := Environment.exchanges_of_outward shown
  have exchangesTwin := Environment.exchanges_of_outward shownTwin
  rw [taken] at touches still file
  rw [takenTwin] at touched file
  rw [read_eq, read_eq]
  rw [fetched] at exchanges ⊢
  rw [fetchedTwin, answer] at exchangesTwin ⊢
  rw [taken] at exchanges ⊢
  rw [takenTwin] at exchangesTwin ⊢
  refine ⟨interpret_alike channel counterpart _, ?_⟩
  have read := alike.touch touches touched still file
  refine read.still alike.files alike.allowance
    (congrArg List.tail alike.interruptions) ?_
  exact exchangesTwin.trans
    ((congrArg (· ++ _) alike.exchanges).trans exchanges.symm)

end Channel

namespace Environment

variable {channel counterpart : Descriptor} {cancel guard : Option Descriptor}
  {ears others : Ears} {env other : Environment}

/-- A record is delivered in any format, and the same happens meanwhile. -/
theorem deliver_alike
    (alike : Alike ⟨some channel, cancel⟩ ⟨some counterpart, guard⟩ env other)
    (record twin : List UInt8) :
    (env.deliver (some channel) record).1 = .ok () ∧
      (other.deliver (some counterpart) twin).1 = .ok () ∧
      Alike ⟨some channel, cancel⟩ ⟨some counterpart, guard⟩
        (env.deliver (some channel) record).2
        (other.deliver (some counterpart) twin).2 := by
  obtain ⟨ok, willing⟩ := alike.calm.willing.deliver record
  obtain ⟨twinOk, twinWilling⟩ := alike.twin.willing.deliver twin
  rw [deliver, deliver]
  rcases handed : env.sink.deliver record with ⟨outcome, actions, sink⟩
  rcases handedTwin : other.sink.deliver twin with ⟨answer, more, drain⟩
  rw [handed] at ok willing
  rw [handedTwin] at twinOk twinWilling
  obtain rfl : outcome = .ok () := ok
  obtain rfl : answer = .ok () := twinOk
  obtain ⟨rfl, rest⟩ := Sink.deliver_ok handed
  obtain ⟨rfl, restTwin⟩ := Sink.deliver_ok handedTwin
  refine ⟨rfl, rfl, ?_⟩
  have spared := alike.calm.flushing
  have later : ∀ group ∈ sink.duringFlush, ∀ action ∈ group,
      action.fires = false := by
    intro group member
    rw [rest] at member
    exact spared group (List.mem_of_mem_tail member)
  have same : drain.duringFlush = sink.duringFlush := by
    rw [rest, restTwin, alike.flushes]
  have flushed : Alike ⟨some channel, cancel⟩ ⟨some counterpart, guard⟩
      { env with sink } { other with sink := drain } :=
    { alike with
      calm := { alike.calm with flushing := later, willing := willing }
      twin :=
        { alike.twin with
          flushing := by rwa [same]
          willing := twinWilling }
      flushes := same
      exchanges := alike.exchanges }
  rw [alike.flushes]
  refine flushed.actAll _ ?_
  intro action member
  cases script : env.sink.duringFlush with
  | nil =>
      rw [script] at member
      cases member
  | cons group later =>
      rw [script] at member
      exact spared group (by simp [script]) action member

theorem probe_alike (alike : Alike ears others env other) (cgroup : Path) :
    (other.probe cgroup).1 = (env.probe cgroup).1 ∧
      Alike ears others (env.probe cgroup).2 (other.probe cgroup).2 := by
  have resolved := FileTree.alike_resolve alike.files cgroup
  rw [probe, probe]
  generalize env.host.tree.resolve cgroup = first at resolved ⊢
  generalize other.host.tree.resolve cgroup = second at resolved ⊢
  cases resolved with
  | error cause => exact ⟨rfl, (alike.note _).record _⟩
  | ok visits => exact ⟨rfl, alike.record _⟩

end Environment

/-! ## Rounds -/

/-- Settings that differ at most in the format of the records. -/
def Settings.Same (settings other : Settings) : Prop :=
  other = { settings with format := other.format }

namespace Settings.Same

variable {settings other : Settings}

theorem cgroup (same : settings.Same other) :
    other.cgroup = settings.cgroup := by
  rw [same]

theorem probeInterval (same : settings.Same other) :
    other.probeInterval = settings.probeInterval := by
  rw [same]

theorem registration (same : settings.Same other) :
    other.registration = settings.registration := by
  rw [same]

end Settings.Same

/-- Two rounds come to the same. -/
inductive Round.Same (ears others : Ears) : Round → Round → Prop
  | continued (notifications : Nat) {env other : Environment}
      (alike : Alike ears others env other) :
      Round.Same ears others (.continued notifications env)
        (.continued notifications other)
  | ended {answer counterpart : Answer WatchError Summary}
      {env other : Environment} (same : answer.Same counterpart)
      (alike : Alike ears others env other) :
      Round.Same ears others (.ended answer env) (.ended counterpart other)

namespace Watcher

variable {watcher twin : Watcher} {channel counterpart : Descriptor}
  {cancel guard : Option Descriptor} {ears others : Ears}
  {env other : Environment}

theorem afterProbe_alike (same : watcher.settings.Same twin.settings)
    (notifications : Nat) (alike : Alike ears others env other) :
    Round.Same ears others (watcher.afterProbe notifications env)
      (twin.afterProbe notifications other) := by
  obtain ⟨found, probed⟩ :=
    Environment.probe_alike alike watcher.settings.cgroup
  rw [afterProbe, afterProbe, same.cgroup]
  generalize env.probe _ = first at found probed ⊢
  generalize other.probe _ = second at found probed ⊢
  obtain ⟨present, after⟩ := first
  obtain ⟨there, afterTwin⟩ := second
  obtain rfl : there = present := found
  cases there with
  | true => exact .continued notifications probed
  | false => exact .ended (.done _) (probed.note _)

theorem report_alike (same : watcher.settings.Same twin.settings)
    (notifications : Nat)
    (alike : Alike ⟨some channel, cancel⟩ ⟨some counterpart, guard⟩ env
      other) :
    Round.Same ⟨some channel, cancel⟩ ⟨some counterpart, guard⟩
      (watcher.report channel notifications env)
      (twin.report counterpart notifications other) := by
  obtain ⟨answer, taken⟩ := Channel.read_alike alike
  rw [report, report, same.cgroup]
  dsimp only
  generalize Channel.read channel env = first at answer taken ⊢
  generalize Channel.read counterpart other = second at answer taken ⊢
  obtain ⟨given, after⟩ := first
  obtain ⟨answered, afterTwin⟩ := second
  dsimp only at answer taken
  cases answer with
  | blocked => exact .ended .blocked taken
  | failed error => exact .ended (.failed error) taken
  | done counter =>
      have told := taken.note (.notified watcher.settings.cgroup counter)
      obtain ⟨ok, twinOk, delivered⟩ := Environment.deliver_alike told
        (Record.encode watcher.settings.format watcher.settings.cgroup counter)
        (Record.encode twin.settings.format watcher.settings.cgroup counter)
      dsimp only
      generalize Environment.deliver _ (some channel) _ = first
        at ok delivered ⊢
      generalize Environment.deliver _ (some counterpart) _ = second
        at twinOk delivered ⊢
      obtain ⟨outcome, handed⟩ := first
      obtain ⟨outcomeTwin, handedTwin⟩ := second
      obtain rfl : outcome = .ok () := ok
      obtain rfl : outcomeTwin = .ok () := twinOk
      exact afterProbe_alike same (notifications + 1) (delivered.record _)

/-- A round of one watch comes to the same as the round of the other. -/
theorem round_alike (same : watcher.settings.Same twin.settings)
    (notifications : Nat)
    (alike : Alike ⟨some channel, watcher.cancel⟩
      ⟨some counterpart, twin.cancel⟩ env other) :
    Round.Same ⟨some channel, watcher.cancel⟩ ⟨some counterpart, twin.cancel⟩
      (watcher.round channel notifications env)
      (twin.round counterpart notifications other) := by
  obtain ⟨answer, after⟩ :=
    Channel.wait_alike watcher.settings.probeInterval alike
  rw [round, round, same.cgroup, same.probeInterval]
  generalize Channel.wait channel _ _ env = first at answer after ⊢
  generalize Channel.wait counterpart _ _ other = second at answer after ⊢
  obtain ⟨given, waited⟩ := first
  obtain ⟨answered, waitedTwin⟩ := second
  dsimp only at answer after
  cases answer with
  | blocked => exact .ended .blocked after
  | failed error => exact .ended (.failed error) after
  | done wake =>
      cases wake with
      | cancelled => exact .ended (.done _) (after.note _)
      | timedOut => exact afterProbe_alike same notifications after
      | notified => exact report_alike same notifications after

/-- So many rounds of two watches come to the same. -/
theorem rounds_alike (same : watcher.settings.Same twin.settings) (bound : Nat)
    (notifications : Nat)
    (alike : Alike ⟨some channel, watcher.cancel⟩
      ⟨some counterpart, twin.cancel⟩ env other) :
    Answer.Same (watcher.rounds channel bound notifications env).1
        (twin.rounds counterpart bound notifications other).1 ∧
      Alike ⟨some channel, watcher.cancel⟩ ⟨some counterpart, twin.cancel⟩
        (watcher.rounds channel bound notifications env).2
        (twin.rounds counterpart bound notifications other).2 := by
  induction bound generalizing notifications env other with
  | zero => exact ⟨.blocked, alike⟩
  | succ bound ih =>
      have round := round_alike same notifications alike
      rw [rounds, rounds]
      generalize watcher.round channel notifications env = first at round ⊢
      generalize twin.round counterpart notifications other = second at round ⊢
      cases round with
      | continued following further => exact ih _ further
      | ended answers ended => exact ⟨answers, ended⟩

/-! ## Watches -/

/-- Surroundings after others between which one has only waited in vain. -/
def Lingers (before after : Environment) : Prop :=
  ∃ log trace, after = { before with log, trace } ∧
    after.exchanges = before.exchanges

namespace Lingers

variable {before between after : Environment}

theorem refl (env : Environment) : Lingers env env :=
  ⟨env.log, env.trace, rfl, rfl⟩

theorem symm (lingers : Lingers before after) : Lingers after before := by
  obtain ⟨log, trace, rfl, same⟩ := lingers
  exact ⟨before.log, before.trace, rfl, same.symm⟩

theorem trans (first : Lingers before between)
    (second : Lingers between after) : Lingers before after := by
  obtain ⟨_, _, rfl, same⟩ := first
  obtain ⟨log, trace, rfl, also⟩ := second
  exact ⟨log, trace, rfl, also.trans same⟩

theorem alike {twin between' : Environment}
    (alike : Alike ears others between between')
    (lingers : Lingers before between) (also : Lingers twin between') :
    Alike ears others before twin := by
  obtain ⟨_, _, rfl, same⟩ := lingers
  obtain ⟨_, _, rfl, twinSame⟩ := also
  have shown : twin.exchanges = before.exchanges := by
    rw [← same, ← twinSame, alike.exchanges]
  exact alike.still alike.files alike.allowance alike.interruptions shown

end Lingers

theorem Idle.lingers (idle : watcher.Idle channel env) (notifications : Nat) :
    ∃ after, watcher.round channel notifications env =
        .continued notifications after ∧
      watcher.Idle channel after ∧ Lingers env after := by
  obtain ⟨after, goesOn, stays⟩ := idle.round notifications
  have wait := Channel.wait_of_listen (Channel.listen_of_idle idle.able
    idle.quiet idle.done idle.limited)
  refine ⟨after, goesOn, stays, ?_⟩
  rw [round_of_timedOut wait] at goesOn
  obtain ⟨_, _, rfl⟩ := continued_of_afterProbe goesOn
  refine ⟨_, _, rfl, ?_⟩
  rw [Environment.exchanges_record, Environment.exchanges_record]
  simp [Environment.exchanges, Step.isExchange]

/-- A watch with nothing left is not over after any number of rounds. -/
theorem Idle.rounds (idle : watcher.Idle channel env)
    (bound notifications : Nat) :
    (watcher.rounds channel bound notifications env).1 = .blocked ∧
      Lingers env (watcher.rounds channel bound notifications env).2 := by
  induction bound generalizing env with
  | zero => exact ⟨rfl, .refl env⟩
  | succ bound ih =>
      obtain ⟨after, goesOn, stays, lingers⟩ := idle.lingers notifications
      obtain ⟨blocked, further⟩ := ih stays
      rw [Watcher.rounds, goesOn]
      exact ⟨blocked, lingers.trans further⟩

/-- A counter does not give the same again, so that a watch of one can only go on
for ever in vain. -/
theorem Genuine.idle_of_perpetual (genuine : watcher.Genuine channel env)
    (perpetual : watcher.Perpetual channel env) : watcher.Idle channel env := by
  cases perpetual with
  | idle idle => exact idle
  | endless endless =>
      obtain ⟨pending, counted⟩ := genuine.channelCounts
      obtain ⟨bytes, source, _⟩ := endless.source
      by_cases empty : pending = 0
      · rw [empty] at counted
        have fruitless := (Host.read_of_pending_zero counted).2 bytes
        exact absurd (congrArg Prod.fst source) fruitless
      · have cleared := (Host.read_of_pending_ne_zero counted empty).2
        rw [source, counted] at cleared
        exact absurd (Option.some.inj cleared) empty

/-- More rounds than are needed make no difference. -/
theorem rounds_add (genuine : watcher.Genuine channel env) {bound : Nat}
    (enough : potential channel env < bound) (more notifications : Nat) :
    (watcher.rounds channel (bound + more) notifications env).1 =
        (watcher.rounds channel bound notifications env).1 ∧
      Lingers (watcher.rounds channel bound notifications env).2
        (watcher.rounds channel (bound + more) notifications env).2 := by
  induction bound generalizing env notifications with
  | zero => cases enough
  | succ bound ih =>
      have next : bound + 1 + more = (bound + more) + 1 := by omega
      rw [next, rounds, rounds]
      rcases result : watcher.round channel notifications env with
        ⟨following, after⟩ | ⟨answer, after⟩
      · have moved := Motions.round watcher channel notifications env
        rw [result] at moved
        obtain fewer | perpetual := potential_continued result
        · have enough : potential channel after < bound := by omega
          exact ih (genuine.motions moved) enough following
        · have idle := genuine.idle_of_perpetual perpetual
          obtain ⟨_, goesOn, stays, _⟩ := idle.lingers notifications
          cases result.symm.trans goesOn
          obtain ⟨blocked, short⟩ := stays.rounds bound notifications
          obtain ⟨alsoBlocked, long⟩ := stays.rounds (bound + more) notifications
          exact ⟨alsoBlocked.trans blocked.symm, short.symm.trans long⟩
      · exact ⟨rfl, .refl after⟩

theorem lingers_watch (watched : watcher.watched? = some channel)
    (genuine : watcher.Genuine channel env) (more : Nat) :
    (watcher.rounds channel (patience channel env + more) 0 env).1 =
        (watcher.watch env).1 ∧
      Lingers (watcher.watch env).2
        (watcher.rounds channel (patience channel env + more) 0 env).2 := by
  rw [watch_of_watched? watched]
  exact rounds_add genuine (potential_lt_patience channel env) more 0

theorem Calm.genuine {watcher : Watcher}
    (calm : env.Calm watcher.ears) (owns : watcher.Owns env)
    (held : watcher.handles.channel = some channel) :
    watcher.Genuine channel env where
  owns := owns
  held := held
  channelCounts := calm.counts channel held
  cancelCounts handle through := ⟨0, calm.unfired handle through⟩

/-- Two watches that get past their guards may both be given the rounds of the
more patient one. -/
theorem watch_alike_of_watched (same : watcher.settings.Same twin.settings)
    (watched : watcher.watched? = some channel)
    (twinWatched : twin.watched? = some counterpart)
    (owns : watcher.Owns env) (twinOwns : twin.Owns other)
    (alike : Alike watcher.ears twin.ears env other) :
    Answer.Same (watcher.watch env).1 (twin.watch other).1 ∧
      Alike watcher.ears twin.ears (watcher.watch env).2
        (twin.watch other).2 := by
  have held := (watched?_eq_some_iff.mp watched).2
  have twinHeld := (watched?_eq_some_iff.mp twinWatched).2
  have genuine := Calm.genuine alike.calm owns held
  have twinGenuine := Calm.genuine alike.twin twinOwns twinHeld
  rw [ears_eq held, ears_eq twinHeld] at alike ⊢
  -- The patience depends on the scripts of the sinks, which may differ, so that
  -- each watch is given the rounds of both.
  obtain ⟨answer, lingers⟩ :=
    lingers_watch watched genuine (patience counterpart other)
  obtain ⟨twinAnswer, twinLingers⟩ :=
    lingers_watch twinWatched twinGenuine (patience channel env)
  rw [Nat.add_comm] at twinAnswer twinLingers
  obtain ⟨answers, ended⟩ := rounds_alike same
    (patience channel env + patience counterpart other) 0 alike
  rw [answer, twinAnswer] at answers
  exact ⟨answers, Lingers.alike ended lingers twinLingers⟩

/-- Watches in surroundings that look the same come to the same. -/
theorem watch_alike (same : watcher.settings.Same twin.settings)
    (mark : twin.handles.registration.isSome =
      watcher.handles.registration.isSome)
    (owns : watcher.Owns env) (twinOwns : twin.Owns other)
    (alike : Alike watcher.ears twin.ears env other) :
    Answer.Same (watcher.watch env).1 (twin.watch other).1 ∧
      Alike watcher.ears twin.ears (watcher.watch env).2
        (twin.watch other).2 := by
  obtain ⟨unmarked, twinUnmarked⟩ | ⟨text, copy, marked, twinMarked⟩ :=
    both_or_neither mark
  · rw [watch, watch, unmarked, twinUnmarked]
    exact ⟨.failed (.refl _), alike⟩
  have hear : Host.SameChannel env.host other.host watcher.handles.channel
    twin.handles.channel := alike.channel
  rcases held : watcher.handles.channel with _ | channel <;>
    rcases twinHeld : twin.handles.channel with _ | counterpart <;>
    rw [held, twinHeld] at hear
  · rw [watch, watch, marked, twinMarked, held, twinHeld]
    exact ⟨.failed (.refl _), alike⟩
  · cases hear
  · cases hear
  · have watched : watcher.watched? = some channel := by
      simp [watched?, marked, held]
    have twinWatched : twin.watched? = some counterpart := by
      simp [watched?, twinMarked, twinHeld]
    exact watch_alike_of_watched same watched twinWatched owns twinOwns alike

end Watcher

end MemoryWatch
