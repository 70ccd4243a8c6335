import MemoryWatch.Proofs.Motion

/-!
# What a wait comes to

While a watcher waits, the scheduled groups of actions happen one after the
other.  The wait looks at its files at the beginning and after each group, and
it ends at the first look that shows something.  So a wait is told by the number
of groups that have happened when it ends, and by what its looks have shown.
-/

namespace MemoryWatch

namespace Environment

/-- What others do changes the host, the log and the trace, and nothing else of
the surroundings. -/
theorem act_eq (env : Environment) (channel : Descriptor) (action : Action) :
    ∃ host log trace,
      (env.act (some channel) action).2 = { env with host, log, trace } := by
  obtain ⟨count, acted⟩ | ⟨handle, log, _, acted⟩ | ⟨tree, allowance, acted⟩ :=
    env.act_cases channel action
  · rw [acted, add_snd]
    exact ⟨_, env.log, _, rfl⟩
  · rw [acted, fire_snd]
    exact ⟨_, log, env.trace, rfl⟩
  · rw [acted]
    exact ⟨_, env.log, env.trace, rfl⟩

theorem actAll_eq (env : Environment) (channel : Descriptor)
    (actions : List Action) :
    ∃ host log trace,
      env.actAll (some channel) actions = { env with host, log, trace } := by
  induction actions generalizing env with
  | nil => exact ⟨env.host, env.log, env.trace, rfl⟩
  | cons action rest ih =>
      obtain ⟨host, log, trace, acted⟩ := env.act_eq channel action
      obtain ⟨finalHost, finalLog, finalTrace, after⟩ :=
        ih (env.act (some channel) action).2
      refine ⟨finalHost, finalLog, finalTrace, ?_⟩
      rw [actAll, List.foldl_cons, ← actAll, after, acted]

end Environment

namespace Channel

/-- The surroundings after so many scheduled groups. -/
def elapse (channel : Descriptor) : Nat → Environment → Environment
  | 0, env => env
  | count + 1, env =>
    match env.schedule with
    | [] => env
    | group :: later => elapse channel count (happen channel group later env)

theorem happen_eq (channel : Descriptor) (group : List Action)
    (later : Schedule) (env : Environment) :
    ∃ host log trace, happen channel group later env =
      { env with host, log, trace, schedule := later } := by
  obtain ⟨host, log, trace, acted⟩ :=
    Environment.actAll_eq { env with schedule := later } channel group
  rw [happen, acted]
  split
  · exact ⟨host, log, _, rfl⟩
  · exact ⟨host, log, trace, rfl⟩

theorem elapse_eq (channel : Descriptor) (count : Nat) (env : Environment) :
    ∃ host log trace, elapse channel count env =
      { env with
        host, log, trace, schedule := env.schedule.drop count } := by
  induction count generalizing env with
  | zero => exact ⟨env.host, env.log, env.trace, rfl⟩
  | succ count ih =>
      rcases env with
        ⟨host, sink, schedule, interruptions, canceller, log, trace⟩
      cases schedule with
      | nil => exact ⟨host, log, trace, rfl⟩
      | cons group later =>
          obtain ⟨_, _, _, happened⟩ := happen_eq channel group later
            ⟨host, sink, group :: later, interruptions, canceller, log, trace⟩
          obtain ⟨finalHost, finalLog, finalTrace, after⟩ := ih
            (happen channel group later
              ⟨host, sink, group :: later, interruptions, canceller, log,
                trace⟩)
          refine ⟨finalHost, finalLog, finalTrace, ?_⟩
          rw [elapse]
          dsimp only
          rw [after, happened]
          rfl

@[simp]
theorem schedule_elapse (channel : Descriptor) (count : Nat)
    (env : Environment) :
    (elapse channel count env).schedule = env.schedule.drop count := by
  obtain ⟨_, _, _, elapsed⟩ := elapse_eq channel count env
  rw [elapsed]

@[simp]
theorem sink_elapse (channel : Descriptor) (count : Nat) (env : Environment) :
    (elapse channel count env).sink = env.sink := by
  obtain ⟨_, _, _, elapsed⟩ := elapse_eq channel count env
  rw [elapsed]

theorem elapse_succ {channel : Descriptor} {env : Environment}
    {group : List Action} {later : Schedule}
    (begun : env.schedule = group :: later) (count : Nat) :
    elapse channel (count + 1) env =
      elapse channel count (happen channel group later env) := by
  rw [elapse, begun]

/-- The first so many looks show nothing. -/
def Quiet (channel : Descriptor) (cancel : Option Descriptor) (looks : Nat)
    (env : Environment) : Prop :=
  ∀ count < looks, glance channel cancel (elapse channel count env) = none

/-- What a wait can come to once it has begun, and the surroundings in which it
ends. -/
inductive Hears (channel : Descriptor) (cancel : Option Descriptor)
    (limit : Option Nat) (env : Environment) :
    Answer SystemError Wake → Environment → Prop
  /-- The first look that shows something ends the wait. -/
  | seen (count : Nat) {wake : Wake} (within : count ≤ env.schedule.length)
      (quiet : Quiet channel cancel count env)
      (shown : glance channel cancel (elapse channel count env) = some wake) :
      Hears channel cancel limit env (.done wake) (elapse channel count env)
  | timedOut (count : Nat) (within : count ≤ env.schedule.length)
      (quiet : Quiet channel cancel (count + 1) env)
      (limited : limit.isSome = true)
      (spent : 0 < count ∨ env.schedule = []) :
      Hears channel cancel limit env (.done .timedOut)
        (elapse channel count env)
  /-- After an interruption the wait could not begin anew. -/
  | barred (count : Nat) (quiet : Quiet channel cancel (count + 1) env)
      (barred : isBarred cancel (elapse channel count env) = true) :
      Hears channel cancel limit env (.failed .invalidArgument)
        (elapse channel count env)
  /-- Everything has happened, and nothing ends the wait. -/
  | endless (quiet : Quiet channel cancel (env.schedule.length + 1) env) :
      Hears channel cancel limit env .blocked
        (elapse channel env.schedule.length env)

variable {channel : Descriptor} {cancel : Option Descriptor}
  {limit : Option Nat} {env after : Environment}
  {answer : Answer SystemError Wake} {group : List Action} {later : Schedule}

theorem quiet_one (first : glance channel cancel env = none) :
    Quiet channel cancel 1 env := by
  intro count within
  obtain rfl : count = 0 := by omega
  exact first

theorem Quiet.succ (begun : env.schedule = group :: later)
    (first : glance channel cancel env = none) {looks : Nat}
    (quiet : Quiet channel cancel looks (happen channel group later env)) :
    Quiet channel cancel (looks + 1) env := by
  intro count within
  cases count with
  | zero => exact first
  | succ count =>
      rw [elapse_succ begun]
      exact quiet count (by omega)

/-- A wait in which nothing shows at first goes on after the first group. -/
theorem Hears.succ (begun : env.schedule = group :: later)
    (first : glance channel cancel env = none)
    (hears : Hears channel cancel limit (happen channel group later env) answer
      after) :
    Hears channel cancel limit env answer after := by
  obtain ⟨_, _, _, happened⟩ := happen_eq channel group later env
  have rest : (happen channel group later env).schedule = later := by
    rw [happened]
  have longer : env.schedule.length = later.length + 1 := by
    rw [begun, List.length_cons]
  cases hears with
  | seen count within quiet shown =>
      rw [rest] at within
      rw [← elapse_succ begun] at shown ⊢
      exact .seen (count + 1) (by omega) (quiet.succ begun first) shown
  | timedOut count within quiet limited spent =>
      rw [rest] at within
      rw [← elapse_succ begun]
      exact .timedOut (count + 1) (by omega) (quiet.succ begun first) limited
        (Or.inl (by omega))
  | barred count quiet barred =>
      rw [← elapse_succ begun] at barred ⊢
      exact .barred (count + 1) (quiet.succ begun first) barred
  | endless quiet =>
      rw [rest] at quiet ⊢
      rw [← elapse_succ begun, ← longer]
      refine .endless ?_
      rw [longer]
      exact quiet.succ begun first

theorem hears_await {schedule : Schedule} (begun : env.schedule = schedule)
    (first : glance channel cancel env = none) :
    Hears channel cancel limit env
      (await channel cancel limit schedule env).1
      (await channel cancel limit schedule env).2 := by
  induction schedule generalizing env with
  | nil =>
      have same : { env with schedule := [] } = env := by rw [← begun]
      rw [await, same]
      split
      · next limited =>
          exact .timedOut 0 (Nat.zero_le _) (quiet_one first) limited
            (Or.inr begun)
      · have silent : Quiet channel cancel (env.schedule.length + 1) env := by
          rw [begun]
          exact quiet_one first
        have ended : Hears channel cancel limit env .blocked _ :=
          .endless silent
        rwa [begun] at ended
  | cons group later ih =>
      obtain ⟨_, _, _, happened⟩ := happen_eq channel group later env
      have rest : (happen channel group later env).schedule = later := by
        rw [happened]
      have once : elapse channel 1 env = happen channel group later env :=
        elapse_succ begun 0
      rw [await_cons]
      dsimp only
      -- Where the wait ends with this group, one group has happened.
      split
      · next wake shown =>
          exact .succ begun first
            (.seen 0 (Nat.zero_le _) (fun _ none => absurd none (by omega))
              shown)
      · next silent =>
          have quiet := (quiet_one silent).succ begun first
          split
          · next stopped =>
              rw [Bool.and_eq_true, ← once] at stopped
              rw [← once]
              exact .barred 1 quiet stopped.2
          · split
            · next expired =>
                rw [Bool.and_eq_true] at expired
                rw [← once]
                exact .timedOut 1 (by rw [begun]; simp) quiet expired.1
                  (Or.inl Nat.one_pos)
            · exact .succ begun first (ih rest silent)

/-- A wait that can begin is told by the looks at its files. -/
theorem hears_listen (able : ¬isBarred cancel env) :
    Hears channel cancel limit env (listen channel cancel limit env).1
      (listen channel cancel limit env).2 := by
  rw [listen, if_neg able]
  split
  · next wake shown =>
      exact .seen 0 (Nat.zero_le _) (fun _ none => absurd none (by omega)) shown
  · next silent => exact hears_await rfl silent

/-- A wait that does not fail could begin, and has written down what it came
to. -/
theorem hears_of_unfailed {timeout : Option Duration}
    {answer : Answer WatchError Wake}
    (waited : wait channel cancel timeout env = (answer, after))
    (unfailed : ∀ error, answer ≠ .failed error) :
    ∃ given heard, ¬isBarred cancel env ∧
      Hears channel cancel (timeout.map Duration.waitMilliseconds) env given
        heard ∧
      given.mapCause (fun cause => .channelRead channel (.failed cause)) =
        answer ∧
      after = heard.record
        (.waited (timeout.map Duration.waitMilliseconds) given) := by
  rw [wait_eq] at waited
  dsimp only at waited
  have able : ¬isBarred cancel env := by
    intro barred
    rw [listen, if_pos barred] at waited
    exact unfailed _ (Prod.mk.inj waited).1.symm
  obtain ⟨answered, told⟩ := Prod.mk.inj waited
  exact ⟨_, _, able, hears_listen able, answered, told.symm⟩

theorem hears_of_wait {timeout : Option Duration} {wake : Wake}
    (waited : wait channel cancel timeout env = (.done wake, after)) :
    ∃ heard, ¬isBarred cancel env ∧
      Hears channel cancel (timeout.map Duration.waitMilliseconds) env
        (.done wake) heard ∧
      after = heard.record
        (.waited (timeout.map Duration.waitMilliseconds) (.done wake)) := by
  obtain ⟨given, heard, able, hears, answered, told⟩ :=
    hears_of_unfailed waited (by simp)
  cases given with
  | done other =>
      cases answered
      exact ⟨heard, able, hears, told⟩
  | failed cause => cases answered
  | blocked => cases answered

/-- Only scheduled groups happen while a watcher waits. -/
theorem listen_snd (channel : Descriptor) (cancel : Option Descriptor)
    (limit : Option Nat) (env : Environment) :
    ∃ count, (listen channel cancel limit env).2 =
      elapse channel count env := by
  by_cases barred : isBarred cancel env
  · rw [listen, if_pos barred]
    exact ⟨0, rfl⟩
  · have hears : Hears channel cancel limit env _ _ := hears_listen barred
    generalize listen channel cancel limit env = heard at hears ⊢
    obtain ⟨answer, after⟩ := heard
    cases hears with
    | seen count | timedOut count | barred count => exact ⟨count, rfl⟩
    | endless => exact ⟨_, rfl⟩

end Channel

namespace Motions

theorem elapse (channel : Descriptor) (count : Nat) (env : Environment) :
    Motions channel env (Channel.elapse channel count env) := by
  induction count generalizing env with
  | zero => exact Relation.ReflTransGen.refl
  | succ count ih =>
      rw [Channel.elapse]
      split
      · exact Relation.ReflTransGen.refl
      · exact (happen channel _ _ env).trans (ih _)

theorem wait (channel : Descriptor) (cancel : Option Descriptor)
    (timeout : Option Duration) (env : Environment) :
    Motions channel env (Channel.wait channel cancel timeout env).2 := by
  obtain ⟨count, heard⟩ := Channel.listen_snd channel cancel
    (timeout.map Duration.waitMilliseconds) env
  rw [Channel.wait_eq]
  dsimp only
  rw [heard]
  exact (elapse channel count env).record rfl

end Motions

end MemoryWatch
