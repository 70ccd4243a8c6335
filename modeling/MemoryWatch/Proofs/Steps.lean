import MemoryWatch.Proofs.Rounds

/-!
# The outward steps of a watch

The trace of a watch also holds what others add and which calls are
interrupted.  Without these, the steps of a watch are a sequence of complete
rounds and then one final round.  A complete round waits in vain, or reports one
notification; both find the cgroup in its place.  The final round shows how the
watch ended.
-/

namespace MemoryWatch

namespace Step

/-- Steps that the watcher itself takes and completes. -/
def isOutward : Step → Bool
  | added _ | interrupted => false
  | opened _ | closed _ | registered _ _ | waited _ _ | read _
  | delivered _ _ | probed _ => true

/-- The counter that a read gives, if it gives a whole one. -/
def counter? : Step → Option UInt64
  | read (.done bytes) => (Channel.decode bytes).toOption
  | read (.failed _) | read .blocked | opened _ | closed _ | registered _ _
  | waited _ _ | delivered _ _ | probed _ | added _ | interrupted => none

end Step

namespace Environment

/-- The outward steps taken so far. -/
def outward (env : Environment) : List Step :=
  env.trace.filter Step.isOutward

theorem outward_record_of_not (env : Environment) {step : Step}
    (hidden : step.isOutward = false) :
    (env.record step).outward = env.outward := by
  simp [outward, record, List.filter_append, hidden]

theorem outward_record (env : Environment) {step : Step}
    (shown : step.isOutward = true) :
    (env.record step).outward = env.outward ++ [step] := by
  simp [outward, record, List.filter_append, shown]

@[simp]
theorem outward_note (env : Environment) (event : LogEvent) :
    (env.note event).outward = env.outward :=
  rfl

/-- A property that lasts whatever others do while a watcher waits for the
channel. -/
structure Lasts (channel : Descriptor) (property : Environment → Prop) :
    Prop where
  act : ∀ env action, property env → property (env.act (some channel) action).2
  schedule : ∀ env later, property env →
    property { env with schedule := later }
  interrupted : ∀ env, property env → property (env.record .interrupted)

namespace Lasts

variable {channel : Descriptor} {property : Environment → Prop}
  {env : Environment}

theorem actAll (lasts : Lasts channel property) (holds : property env)
    (actions : List Action) :
    property (env.actAll (some channel) actions) := by
  induction actions generalizing env with
  | nil => exact holds
  | cons action rest ih => exact ih (lasts.act env action holds)

theorem happen (lasts : Lasts channel property) (holds : property env)
    (group : List Action) (later : Schedule) :
    property (Channel.happen channel group later env) := by
  have acted := lasts.actAll (lasts.schedule env later holds) group
  rw [Channel.happen]
  split
  · exact lasts.interrupted _ acted
  · exact acted

theorem elapse (lasts : Lasts channel property) (holds : property env)
    (count : Nat) : property (Channel.elapse channel count env) := by
  induction count generalizing env with
  | zero => exact holds
  | succ count ih =>
      rw [Channel.elapse]
      split
      · exact holds
      · exact ih (lasts.happen holds _ _)

theorem listen (lasts : Lasts channel property) (holds : property env)
    (cancel : Option Descriptor) (limit : Option Nat) :
    property (Channel.listen channel cancel limit env).2 := by
  obtain ⟨count, heard⟩ := Channel.listen_snd channel cancel limit env
  rw [heard]
  exact lasts.elapse holds count

end Lasts

/-- An observation in which nothing shows of what others do while a watcher
waits for the channel. -/
structure IsSteady {α : Type} (channel : Descriptor)
    (observe : Environment → α) : Prop where
  act : ∀ env action, observe (env.act (some channel) action).2 = observe env
  schedule : ∀ env later,
    observe { env with schedule := later } = observe env
  interrupted : ∀ env, observe (env.record .interrupted) = observe env

namespace IsSteady

variable {α : Type} {channel : Descriptor} {observe : Environment → α}

theorem lasts (steady : IsSteady channel observe) (value : α) :
    Lasts channel fun env => observe env = value where
  act env action same := (steady.act env action).trans same
  schedule env later same := (steady.schedule env later).trans same
  interrupted env same := (steady.interrupted env).trans same

theorem actAll (steady : IsSteady channel observe) (env : Environment)
    (actions : List Action) :
    observe (env.actAll (some channel) actions) = observe env :=
  (steady.lasts _).actAll rfl actions

theorem listen (steady : IsSteady channel observe)
    (cancel : Option Descriptor) (limit : Option Nat) (env : Environment) :
    observe (Channel.listen channel cancel limit env).2 = observe env :=
  (steady.lasts _).listen rfl cancel limit

end IsSteady

theorem isSteady_outward (channel : Descriptor) :
    IsSteady channel outward where
  act env action := by
    obtain ⟨count, acted⟩ | ⟨handle, log, _, acted⟩ |
      ⟨tree, allowance, acted⟩ := env.act_cases channel action
    · rw [acted, add_snd]
      simp only [outward, List.filter_append]
      split <;> simp [Step.isOutward]
    · rw [acted, fire_snd]
      rfl
    · rw [acted]
      rfl
  schedule _ _ := rfl
  interrupted env := env.outward_record_of_not rfl

theorem isSteady_sink (channel : Descriptor) :
    IsSteady channel Environment.sink where
  act env action := by
    obtain ⟨count, acted⟩ | ⟨handle, log, _, acted⟩ |
      ⟨tree, allowance, acted⟩ := env.act_cases channel action
    · rw [acted, add_snd]
    · rw [acted, fire_snd]
    · rw [acted]
  schedule _ _ := rfl
  interrupted _ := rfl

@[simp]
theorem outward_deliver (env : Environment) (channel : Descriptor)
    (bytes : List UInt8) :
    (env.deliver (some channel) bytes).2.outward = env.outward := by
  rw [deliver]
  exact (isSteady_outward channel).actAll
    { env with sink := (env.sink.deliver bytes).2.2 } _

theorem outward_probe (env : Environment) (cgroup : Path) :
    (env.probe cgroup).2.outward =
      env.outward ++ [.probed (env.probe cgroup).1] := by
  rw [probe]
  split
  · exact outward_record env rfl
  · exact outward_record (env.note _) rfl

end Environment

namespace Channel

@[simp]
theorem outward_elapse (channel : Descriptor) (count : Nat)
    (env : Environment) : (elapse channel count env).outward = env.outward :=
  ((Environment.isSteady_outward channel).lasts _).elapse rfl count

theorem outward_wait (channel : Descriptor) (cancel : Option Descriptor)
    (timeout : Option Duration) (env : Environment) :
    let limit := timeout.map Duration.waitMilliseconds
    (wait channel cancel timeout env).2.outward =
      env.outward ++ [.waited limit (listen channel cancel limit env).1] := by
  rw [wait_eq]
  dsimp only
  rw [Environment.outward_record _ rfl]
  congr 1
  exact (Environment.isSteady_outward channel).listen cancel _ env

/-- Only a wait with a limit times out. -/
theorem limited_of_wait {channel : Descriptor} {cancel : Option Descriptor}
    {timeout : Option Duration} {env after : Environment}
    (ended : wait channel cancel timeout env = (.done .timedOut, after)) :
    (timeout.map Duration.waitMilliseconds).isSome = true := by
  obtain ⟨heard, _, hears, _⟩ := hears_of_wait ended
  cases hears with
  | seen count within quiet shown =>
      exact absurd shown (glance_ne_timedOut _ _ _)
  | timedOut count within quiet limited spent => exact limited

/-- What the answer to a read of the bytes comes to. -/
def interpret (channel : Descriptor) :
    Answer SystemError (List UInt8) → Answer WatchError UInt64
  | .done bytes =>
    match decode bytes with
    | .ok counter => .done counter
    | .error reason => .failed (.channelRead channel reason)
  | .failed cause => .failed (.channelRead channel (.failed cause))
  | .blocked => .blocked

/-- The read of the bytes of the channel, with its interruptions. -/
def fetch (channel : Descriptor) (env : Environment) :
    Answer SystemError (List UInt8) × Environment :=
  readBytes channel (env.interruptions.headD 0)
    { env with interruptions := env.interruptions.tail }

theorem readBytes_eq (channel : Descriptor) (interruptions : Nat)
    (env : Environment) :
    ∃ trace, readBytes channel interruptions env =
      ((env.host.read channel).1,
        { env with host := (env.host.read channel).2, trace }) := by
  induction interruptions generalizing env with
  | zero => exact ⟨_, rfl⟩
  | succ interruptions ih => exact ih (env.record .interrupted)

theorem fetch_eq (channel : Descriptor) (env : Environment) :
    ∃ trace, fetch channel env =
      ((env.host.read channel).1,
        { env with
          host := (env.host.read channel).2
          interruptions := env.interruptions.tail
          trace }) :=
  readBytes_eq channel _ _

theorem read_eq (channel : Descriptor) (env : Environment) :
    read channel env =
      (interpret channel (fetch channel env).1, (fetch channel env).2) := by
  rw [read, fetch]
  rcases readBytes channel (env.interruptions.headD 0)
    { env with interruptions := env.interruptions.tail } with ⟨answer, after⟩
  cases answer with
  | done bytes =>
      simp only [interpret]
      cases decode bytes <;> rfl
  | failed cause => rfl
  | blocked => rfl

/-- A read changes the host, the trace and the script of interruptions, and
nothing else of the surroundings. -/
theorem after_read {channel : Descriptor} {env after : Environment}
    {answer : Answer WatchError UInt64}
    (taken : read channel env = (answer, after)) :
    ∃ trace, after =
      { env with
        host := (env.host.read channel).2
        interruptions := env.interruptions.tail
        trace } := by
  obtain ⟨trace, fetched⟩ := fetch_eq channel env
  rw [read_eq, fetched] at taken
  exact ⟨trace, (Prod.mk.inj taken).2.symm⟩

theorem outward_readBytes (channel : Descriptor) (interruptions : Nat)
    (env : Environment) :
    (readBytes channel interruptions env).2.outward =
      env.outward ++ [.read (readBytes channel interruptions env).1] := by
  induction interruptions generalizing env with
  | zero =>
      exact Environment.outward_record
        { env with host := (env.host.read channel).2 } rfl
  | succ interruptions ih =>
      rw [readBytes, ih, Environment.outward_record_of_not env rfl]

theorem outward_fetch (channel : Descriptor) (env : Environment) :
    (fetch channel env).2.outward =
      env.outward ++ [.read (fetch channel env).1] :=
  outward_readBytes channel _ _

/-- A wait leaves one outward step, which tells how it ended. -/
theorem outward_of_wait {channel : Descriptor} {cancel : Option Descriptor}
    {timeout : Option Duration} {env after : Environment}
    {answer : Answer WatchError Wake}
    (waited : wait channel cancel timeout env = (answer, after)) :
    ∃ heard : Answer SystemError Wake,
      heard.mapCause (fun cause => .channelRead channel (.failed cause)) =
        answer ∧
      after.outward = env.outward ++
        [.waited (timeout.map Duration.waitMilliseconds) heard] := by
  have shown := outward_wait channel cancel timeout env
  have first := congrArg Prod.fst waited
  rw [wait_eq] at first
  rw [waited] at shown
  exact ⟨_, first, shown⟩

/-- A read leaves one outward step, which tells what it gave. -/
theorem outward_of_read {channel : Descriptor} {env after : Environment}
    {answer : Answer WatchError UInt64}
    (taken : read channel env = (answer, after)) :
    interpret channel (fetch channel env).1 = answer ∧
      after.outward = env.outward ++ [.read (fetch channel env).1] := by
  rw [read_eq] at taken
  obtain ⟨first, second⟩ := Prod.mk.inj taken
  refine ⟨first, ?_⟩
  rw [← second]
  exact outward_fetch channel env

theorem interpret_eq_done {channel : Descriptor}
    {given : Answer SystemError (List UInt8)} {counter : UInt64}
    (meaning : interpret channel given = .done counter) :
    ∃ bytes, given = .done bytes ∧ decode bytes = .ok counter := by
  cases given with
  | done bytes =>
      rw [interpret] at meaning
      split at meaning
      · cases meaning
        exact ⟨bytes, rfl, by assumption⟩
      · cases meaning
  | failed cause => cases meaning
  | blocked => cases meaning

theorem interpret_eq_failed {channel : Descriptor}
    {given : Answer SystemError (List UInt8)} {error : WatchError}
    (meaning : interpret channel given = .failed error) :
    ∃ reason, error = .channelRead channel reason := by
  cases given with
  | done bytes =>
      rw [interpret] at meaning
      split at meaning
      · cases meaning
      · cases meaning
        exact ⟨_, rfl⟩
  | failed cause =>
      cases meaning
      exact ⟨_, rfl⟩
  | blocked => cases meaning

end Channel

/-- The outward steps of a round after which a watch goes on, and the number of
records that it delivers. -/
inductive CompleteRound (channel : Descriptor) (limit : Option Nat) :
    Nat → List Step → Prop
  | idle (limited : limit.isSome = true) :
      CompleteRound channel limit 0
        [.waited limit (.done .timedOut), .probed true]
  | reported {given : Answer SystemError (List UInt8)} {counter : UInt64}
      (meaning : Channel.interpret channel given = .done counter) :
      CompleteRound channel limit 1
        [.waited limit (.done .notified), .read given,
          .delivered counter (.ok ()), .probed true]

/-- The outward steps of complete rounds, and the number of records that they
deliver. -/
inductive CompleteRounds (channel : Descriptor) (limit : Option Nat) :
    Nat → List Step → Prop
  | none : CompleteRounds channel limit 0 []
  | next {earlier further : Nat} {steps more : List Step}
      (rounds : CompleteRounds channel limit earlier steps)
      (round : CompleteRound channel limit further more) :
      CompleteRounds channel limit (earlier + further) (steps ++ more)

/-- The outward steps of the round that ends a watch, and how it ends when so
many records were delivered before. -/
inductive FinalRound (channel : Descriptor) (limit : Option Nat)
    (earlier : Nat) : List Step → Answer WatchError Summary → Prop
  | cancelled :
      FinalRound channel limit earlier [.waited limit (.done .cancelled)]
        (.done ⟨.cancelled, earlier⟩)
  | removed (limited : limit.isSome = true) :
      FinalRound channel limit earlier
        [.waited limit (.done .timedOut), .probed false]
        (.done ⟨.cgroupRemoved, earlier⟩)
  | reportedRemoved {given : Answer SystemError (List UInt8)}
      {counter : UInt64}
      (meaning : Channel.interpret channel given = .done counter) :
      FinalRound channel limit earlier
        [.waited limit (.done .notified), .read given,
          .delivered counter (.ok ()), .probed false]
        (.done ⟨.cgroupRemoved, earlier + 1⟩)
  | waitFailed (cause : SystemError) :
      FinalRound channel limit earlier [.waited limit (.failed cause)]
        (.failed (.channelRead channel (.failed cause)))
  | waitBlocked :
      FinalRound channel limit earlier [.waited limit .blocked] .blocked
  | readFailed {given : Answer SystemError (List UInt8)}
      {reason : ReadFailure}
      (meaning : Channel.interpret channel given =
        .failed (.channelRead channel reason)) :
      FinalRound channel limit earlier
        [.waited limit (.done .notified), .read given]
        (.failed (.channelRead channel reason))
  | readBlocked {given : Answer SystemError (List UInt8)}
      (meaning : Channel.interpret channel given = .blocked) :
      FinalRound channel limit earlier
        [.waited limit (.done .notified), .read given] .blocked
  | refused {given : Answer SystemError (List UInt8)} {counter : UInt64}
      {cause : SystemError}
      (meaning : Channel.interpret channel given = .done counter) :
      FinalRound channel limit earlier
        [.waited limit (.done .notified), .read given,
          .delivered counter (.error cause)]
        (.failed (.sink cause))

namespace Round

/-- The outward steps of a round that begins with so many records delivered. -/
def Leaves (channel : Descriptor) (limit : Option Nat) (earlier : Nat)
    (steps : List Step) : Round → Prop
  | continued following _ =>
    ∃ further, following = earlier + further ∧
      CompleteRound channel limit further steps
  | ended answer _ => FinalRound channel limit earlier steps answer

end Round

namespace Watcher

variable {watcher : Watcher} {channel : Descriptor}

/-- The limit of every wait of a watch, in milliseconds. -/
def limit (watcher : Watcher) : Option Nat :=
  watcher.settings.probeInterval.map Duration.waitMilliseconds

/-- A probe completes a round or makes it the final one. -/
theorem leaves_afterProbe {start steps : List Step} {earlier : Nat}
    (further : Nat) {env : Environment}
    (shown : env.outward = start ++ steps)
    (present : CompleteRound channel watcher.limit further
      (steps ++ [.probed true]))
    (absent : FinalRound channel watcher.limit earlier
      (steps ++ [.probed false])
      (.done ⟨.cgroupRemoved, earlier + further⟩)) :
    ∃ round,
      (watcher.afterProbe (earlier + further) env).surroundings.outward =
        start ++ round ∧
      (watcher.afterProbe (earlier + further) env).Leaves channel
        watcher.limit earlier round := by
  have probed := env.outward_probe watcher.settings.cgroup
  rw [shown, List.append_assoc] at probed
  obtain ⟨found, result⟩ | ⟨found, result⟩ :=
    watcher.afterProbe_cases (earlier + further) env
  · rw [found] at probed
    rw [result]
    exact ⟨_, probed, further, rfl, present⟩
  · rw [found] at probed
    rw [result]
    exact ⟨_, probed, absent⟩

theorem outward_of_wait {env waited : Environment} {wake : Wake}
    (wait : Channel.wait channel watcher.cancel
      watcher.settings.probeInterval env = (.done wake, waited)) :
    waited.outward = env.outward ++ [.waited watcher.limit (.done wake)] := by
  obtain ⟨heard, meaning, shown⟩ := Channel.outward_of_wait wait
  cases heard with
  | done other =>
      cases meaning
      exact shown
  | failed cause => cases meaning
  | blocked => cases meaning

/-- A round that reads a counter leaves the wait, the read and the outcome of
the delivery. -/
theorem outward_reporting {env waited after delivered : Environment}
    {counter : UInt64} {outcome : Except SystemError Unit}
    (wait : Channel.wait channel watcher.cancel
      watcher.settings.probeInterval env = (.done .notified, waited))
    (read : Channel.read channel waited = (.done counter, after))
    (deliver :
      (after.note (.notified watcher.settings.cgroup counter)).deliver
        (some channel) (Record.encode watcher.settings.format
          watcher.settings.cgroup counter) = (outcome, delivered)) :
    Channel.interpret channel (Channel.fetch channel waited).1 =
        .done counter ∧
      (delivered.record (.delivered counter outcome)).outward =
        env.outward ++ [.waited watcher.limit (.done .notified),
          .read (Channel.fetch channel waited).1,
          .delivered counter outcome] := by
  obtain ⟨meaning, taken⟩ := Channel.outward_of_read read
  have handed := Environment.outward_deliver
    (after.note (.notified watcher.settings.cgroup counter)) channel
    (Record.encode watcher.settings.format watcher.settings.cgroup counter)
  rw [deliver, Environment.outward_note, taken, outward_of_wait wait] at handed
  refine ⟨meaning, ?_⟩
  rw [Environment.outward_record _ rfl, handed]
  simp

/-- A round leaves the outward steps of a complete round if the watch goes on,
and of a final round if it ends. -/
theorem leaves_round (watcher : Watcher) (channel : Descriptor)
    (earlier : Nat) (env : Environment) :
    ∃ steps,
      (watcher.round channel earlier env).surroundings.outward =
        env.outward ++ steps ∧
      (watcher.round channel earlier env).Leaves channel watcher.limit earlier
        steps := by
  -- What the wait, the read and the delivery answered decides the steps.
  have turn := watcher.turn_round channel earlier env
  generalize watcher.round channel earlier env = result at turn
  cases turn with
  | waitBlocked wait =>
      obtain ⟨heard, meaning, shown⟩ := Channel.outward_of_wait wait
      cases heard with
      | blocked => exact ⟨_, shown, .waitBlocked⟩
      | done wake => cases meaning
      | failed cause => cases meaning
  | waitFailed wait =>
      obtain ⟨heard, meaning, shown⟩ := Channel.outward_of_wait wait
      cases heard with
      | failed cause =>
          cases meaning
          exact ⟨_, shown, .waitFailed cause⟩
      | done wake => cases meaning
      | blocked => cases meaning
  | cancelled wait =>
      have shown := outward_of_wait wait
      exact ⟨_, shown, .cancelled⟩
  | timedOut wait =>
      have limited := Channel.limited_of_wait wait
      exact leaves_afterProbe 0 (outward_of_wait wait) (.idle limited)
        (.removed limited)
  | readBlocked wait read =>
      obtain ⟨meaning, shown⟩ := Channel.outward_of_read read
      rw [outward_of_wait wait, List.append_assoc] at shown
      exact ⟨_, shown, .readBlocked meaning⟩
  | readFailed wait read =>
      obtain ⟨meaning, shown⟩ := Channel.outward_of_read read
      rw [outward_of_wait wait, List.append_assoc] at shown
      obtain ⟨reason, rfl⟩ := Channel.interpret_eq_failed meaning
      exact ⟨_, shown, .readFailed meaning⟩
  | refused wait read deliver =>
      obtain ⟨meaning, shown⟩ := outward_reporting wait read deliver
      exact ⟨_, shown, .refused meaning⟩
  | reported wait read deliver =>
      obtain ⟨meaning, shown⟩ := outward_reporting wait read deliver
      exact leaves_afterProbe 1 shown (.reported meaning)
        (.reportedRemoved meaning)

/-- Where a round of a watch begins, the outward steps so far are complete
rounds, which have delivered as many records as the watch has counted. -/
theorem completeRounds_of_arrives {start env : Environment}
    {notifications : Nat}
    (arrived : watcher.Arrives channel start notifications env) :
    ∃ steps, env.outward = start.outward ++ steps ∧
      CompleteRounds channel watcher.limit notifications steps := by
  induction arrived with
  | first => exact ⟨[], by simp, .none⟩
  | @next notifications _ env _ _ result ih =>
      obtain ⟨steps, shown, rounds⟩ := ih
      obtain ⟨more, further, left⟩ :=
        watcher.leaves_round channel notifications env
      rw [result] at further left
      obtain ⟨reported, rfl, complete⟩ := left
      refine ⟨steps ++ more, ?_, rounds.next complete⟩
      rw [← List.append_assoc, ← shown]
      exact further

/-- The outward steps of a watch are complete rounds and one final round, or
only complete rounds if it goes on for ever. -/
theorem outward_watch (watched : watcher.watched? = some channel)
    (env : Environment) :
    (∃ notifications earlier final,
        (watcher.watch env).2.outward = env.outward ++ earlier ++ final ∧
        CompleteRounds channel watcher.limit notifications earlier ∧
        FinalRound channel watcher.limit notifications final
          (watcher.watch env).1) ∨
      ((watcher.watch env).1 = .blocked ∧
        ∃ notifications earlier,
          (watcher.watch env).2.outward = env.outward ++ earlier ∧
          CompleteRounds channel watcher.limit notifications earlier) := by
  obtain ⟨count, before, arrived, result⟩ | ⟨blocked, count, arrived⟩ :=
    watcher.watch_cases watched env
  · obtain ⟨earlier, shown, rounds⟩ := completeRounds_of_arrives arrived
    obtain ⟨final, further, left⟩ := watcher.leaves_round channel count before
    rw [result] at further left
    refine Or.inl ⟨count, earlier, final, ?_, rounds, left⟩
    rw [show (watcher.watch env).2.outward = before.outward ++ final from
      further, shown]
  · obtain ⟨earlier, shown, rounds⟩ := completeRounds_of_arrives arrived
    exact Or.inr ⟨blocked, count, earlier, shown, rounds⟩

end Watcher

end MemoryWatch
