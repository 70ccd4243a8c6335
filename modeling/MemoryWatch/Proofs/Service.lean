import MemoryWatch.Proofs.Tally

/-!
# How a channel serves those who use it

A channel and its cancel handle are asked to take notifications, to be cancelled,
to wait and to be read.  Meanwhile descriptors are made and given up, and other
channels are used.  Whatever the order of the requests, the channel answers each
of them as the machine of `Tally` does.
-/

namespace MemoryWatch

namespace Channel

/-- The reply to a request that makes a descriptor. -/
def making {ε : Type} : Except ε Descriptor → Reply
  | .ok descriptor => .made descriptor
  | .error _ => .unmade

/-- How a channel and its cancel handle answer a request. -/
def serve (channel handle : Descriptor) (env : Environment) :
    Request → Reply × Environment
  | .notify through count =>
    let (answer, env) := env.add through count
    (.added answer, env)
  | .notifyOnce count =>
    match notifyOnce channel count env with
    | (.ok answer, env) => (.added answer, env)
    | (.error _, env) => (.unmade, env)
  | .cancel clone =>
    let (answer, env) := env.fire clone
    (.added answer, env)
  | .wait listens timeout meanwhile =>
    let (answer, env) :=
      wait channel (if listens then some handle else none) timeout
        { env with schedule := meanwhile }
    (.woken answer, env)
  | .read interruptions =>
    let (answer, env) :=
      read channel { env with interruptions := [interruptions] }
    (.counted answer, env)
  | .makeNotifier =>
    let (outcome, env) := notifier channel env
    (making outcome, env)
  | .makeChannel =>
    let (outcome, env) := create env
    (making outcome, env)
  | .makeHandle =>
    let (outcome, env) := createCancel env
    (making outcome, env)
  | .drop other => (.nothing, env.close other)
  | .makeImpatient descriptor =>
    (.nothing, { env with host := env.host.makeImpatient descriptor })
  | .addElsewhere other count =>
    let (answer, env) := env.add other count
    (.added answer, env)
  | .readElsewhere other =>
    let (answer, env) := read other env
    (.counted answer, env)

/-- Actions that leave the process able to wait. -/
def isBearable : Action → Bool
  | .allowNone => false
  | _ => true

/-- The descriptors of a request are what its name says.  No descriptor of the
channel or the handle is taken for another one, and neither of the two is given
up. -/
def Sensible (channel handle : Descriptor) (host : Host) : Request → Prop
  | .notify through _ => host.position? through = host.position? channel
  | .cancel clone => host.position? clone = host.position? handle
  | .wait _ _ meanwhile =>
    ∀ group ∈ meanwhile, ∀ action ∈ group, isBearable action = true
  | .drop other => channel ≠ other ∧ handle ≠ other
  | .addElsewhere other _ | .readElsewhere other =>
    host.position? other ≠ host.position? channel ∧
      host.position? other ≠ host.position? handle
  | .notifyOnce _ | .read _ | .makeNotifier | .makeChannel | .makeHandle
  | .makeImpatient _ => True

instance (channel handle : Descriptor) (host : Host) :
    (request : Request) → Decidable (Sensible channel handle host request)
  | .notify _ _ | .cancel _ => inferInstanceAs (Decidable (_ = _))
  | .wait _ _ meanwhile =>
    inferInstanceAs (Decidable (∀ group ∈ meanwhile, ∀ action ∈ group,
      isBearable action = true))
  | .drop _ | .addElsewhere _ _ | .readElsewhere _ =>
    inferInstanceAs (Decidable (_ ∧ _))
  | .notifyOnce _ | .read _ | .makeNotifier | .makeChannel | .makeHandle
  | .makeImpatient _ => .isTrue trivial

/-- How a channel and its cancel handle answer some requests, one after the
other. -/
def serveAll (channel handle : Descriptor) :
    List Request → Environment → List (Request × Reply) × Environment
  | [], env => ([], env)
  | request :: rest, env =>
    let (reply, after) := serve channel handle env request
    let (history, final) := serveAll channel handle rest after
    ((request, reply) :: history, final)

/-- Each of some requests is sensible when its turn comes. -/
def SensibleAll (channel handle : Descriptor) :
    List Request → Environment → Prop
  | [], _ => True
  | request :: rest, env =>
    Sensible channel handle env.host request ∧
      SensibleAll channel handle rest (serve channel handle env request).2

instance decidableSensibleAll (channel handle : Descriptor) :
    (requests : List Request) → (env : Environment) →
      Decidable (SensibleAll channel handle requests env)
  | [], _ => .isTrue trivial
  | request :: rest, env =>
    have := decidableSensibleAll channel handle rest
      (serve channel handle env request).2
    inferInstanceAs (Decidable (_ ∧ _))

end Channel

namespace Environment

/-- A channel and its cancel handle stand for the machine, and others cancel
through this handle. -/
structure Tallies (channel handle : Descriptor) (env : Environment)
    (tally : Tally) : Prop where
  host : env.host.Tallies channel handle tally
  canceller : env.canceller = some handle

variable {channel handle : Descriptor} {env after : Environment}
  {tally : Tally}

theorem fst_add (env : Environment) (through : Descriptor) (count : UInt64) :
    (env.add through count).1 =
      match (env.host.write through (Counter.toBytes count)).1 with
      | .done _ => .done ()
      | .failed cause => .failed cause
      | .blocked => .blocked := by
  rw [add]
  rcases env.host.write through (Counter.toBytes count) with ⟨answer, host⟩
  cases answer <;> rfl

theorem fst_fire (env : Environment) (clone : Descriptor) :
    (env.fire clone).1 =
      match (env.host.write clone (Counter.toBytes 1)).1 with
      | .done _ => .done ()
      | .failed cause => .failed cause
      | .blocked => .blocked := by
  rw [fire]
  rcases env.host.write clone (Counter.toBytes 1) with ⟨answer, host⟩
  cases answer <;> rfl

namespace Tallies

theorem add (tallies : env.Tallies channel handle tally)
    {through : Descriptor}
    (same : env.host.position? through = env.host.position? channel)
    (count : UInt64) :
    (env.add through count).2.Tallies channel handle (tally.plus count) ∧
      ((env.add through count).1 = .done () ↔ tally.Fits count) := by
  obtain ⟨next, goes, refused⟩ := tallies.host.add same count
  refine ⟨⟨?_, ?_⟩, ?_⟩
  · rw [add_snd]
    exact next
  · rw [add_snd]
    exact tallies.canceller
  · rw [fst_add]
    by_cases fits : tally.Fits count
    · rw [goes fits]
      exact iff_of_true rfl fits
    · refine iff_of_false ?_ fits
      have failed := refused fits
      generalize (env.host.write through (Counter.toBytes count)).1 = answer
        at failed ⊢
      cases answer with
      | done written => exact absurd rfl (failed written)
      | failed cause => simp
      | blocked => simp

theorem fire (tallies : env.Tallies channel handle tally)
    {clone : Descriptor}
    (same : env.host.position? clone = env.host.position? handle) :
    (env.fire clone).2.Tallies channel handle { tally with cancelled := true } ∧
      (tally.cancelled = false → (env.fire clone).1 = .done ()) := by
  obtain ⟨next, first⟩ := tallies.host.fire same
  refine ⟨⟨?_, ?_⟩, fun unset => ?_⟩
  · rw [fire_snd]
    exact next
  · rw [fire_snd]
    exact tallies.canceller
  · rw [fst_fire, first unset]

/-- Files, limits and interruptions have nothing to do with the machine. -/
theorem still (tallies : env.Tallies channel handle tally) (tree : FileTree)
    {allowance : Allowance} (able : ¬allowance.bars 2) :
    { env with host := { env.host with tree, allowance } }.Tallies channel
      handle tally :=
  ⟨tallies.host.keeps tallies.host.coherent able ⟨rfl, rfl⟩ ⟨rfl, rfl⟩,
    tallies.canceller⟩

/-- What others do to a channel they do to the machine. -/
theorem act (tallies : env.Tallies channel handle tally) (action : Action)
    (bearable : Channel.isBearable action = true) :
    (env.act (some channel) action).2.Tallies channel handle
      (tally.act action) := by
  have able := tallies.host.able
  cases action with
  | makeDirectories path | remove path => exact tallies.still _ able
  | writeFile path content | makeLink path target | rename path target =>
      simp only [Environment.act, edit]
      split
      · exact tallies
      · exact tallies.still _ able
  | notify count => exact (tallies.add rfl count).1
  | cancel =>
      simp only [Environment.act, tallies.canceller]
      exact (tallies.fire rfl).1
  | interrupt | expire => exact tallies
  | shutdown =>
      simp only [Environment.act, tallies.canceller]
      obtain ⟨sum, counted, flag⟩ := tallies.host.cancelled
      have told := Channel.readiness_of_pending counted
      split
      · next fired =>
          -- A handle that was fired is not fired again.
          have filled : sum ≠ 0 := by simpa [told] using fired
          rw [Tally.act, ← flag.mpr filled]
          exact tallies
      · have noted : (env.note .shutdownRequested).Tallies channel handle
            tally :=
          ⟨tallies.host, tallies.canceller⟩
        exact (noted.fire rfl).1
  | allowMore descriptors =>
      have open_ := tallies.host.two_le_openCount
      exact tallies.still _ (by simp [Allowance.bars]; omega)
  | allowAll => exact tallies.still _ (by simp [Allowance.bars])
  | allowNone => cases bearable

theorem actAll (tallies : env.Tallies channel handle tally)
    {actions : List Action}
    (bearable : ∀ action ∈ actions, Channel.isBearable action = true) :
    (env.actAll (some channel) actions).Tallies channel handle
      (actions.foldl Tally.act tally) := by
  induction actions generalizing env tally with
  | nil => exact tallies
  | cons action rest ih =>
      exact ih (tallies.act action (bearable action (by simp)))
        fun later member => bearable later (by simp [member])

theorem happen (tallies : env.Tallies channel handle tally)
    {group : List Action} (later : Schedule)
    (bearable : ∀ action ∈ group, Channel.isBearable action = true) :
    (Channel.happen channel group later env).Tallies channel handle
      (group.foldl Tally.act tally) := by
  have begun : { env with schedule := later }.Tallies channel handle tally :=
    ⟨tallies.host, tallies.canceller⟩
  have acted := begun.actAll bearable
  rw [Channel.happen]
  split
  · exact ⟨acted.host, acted.canceller⟩
  · exact acted

theorem elapse (tallies : env.Tallies channel handle tally) (count : Nat)
    (bearable : ∀ group ∈ env.schedule, ∀ action ∈ group,
      Channel.isBearable action = true) :
    (Channel.elapse channel count env).Tallies channel handle
      (tally.elapse count env.schedule) := by
  induction count generalizing env tally with
  | zero => exact tallies
  | succ count ih =>
      rw [Channel.elapse]
      cases scheduled : env.schedule with
      | nil => exact tallies
      | cons group later =>
          rw [scheduled] at bearable
          obtain ⟨_, _, _, happened⟩ :=
            Channel.happen_eq channel group later env
          have rest : (Channel.happen channel group later env).schedule =
              later := by
            rw [happened]
          have next := ih
            (tallies.happen later (bearable group (by simp)))
            (by rw [rest]; exact fun other member =>
              bearable other (by simp [member]))
          rw [rest] at next
          rw [Tally.elapse, List.take_succ_cons, List.flatten_cons,
            List.foldl_append]
          exact next

/-- A look at the files shows what the machine shows. -/
theorem glance (tallies : env.Tallies channel handle tally)
    (listens : Bool) :
    Channel.glance channel (if listens then some handle else none) env =
      tally.look listens := by
  obtain ⟨sum, counted, value⟩ := tallies.host.pending
  obtain ⟨other, cancelCounted, flag⟩ := tallies.host.cancelled
  have told := Channel.readiness_of_pending counted
  have cancelTold := Channel.readiness_of_pending cancelCounted
  have filled : 0 < tally.pending ↔ sum ≠ 0 := by
    rw [← value, Nat.pos_iff_ne_zero, ← UInt64.toNat_zero]
    exact not_congr UInt64.toNat_inj
  cases listens with
  | false => simp [Channel.glance, Tally.look, told, Readiness.any, filled]
  | true =>
      by_cases unfired : other = 0
      · simp [Channel.glance, Tally.look, told, cancelTold, Readiness.any,
          filled, flag, unfired]
      · simp [Channel.glance, Tally.look, cancelTold, flag, unfired]

end Tallies

end Environment

namespace Channel

variable {channel handle : Descriptor} {env : Environment} {tally : Tally}

/-- A wait is about the channel, and about the handle if it listens to it. -/
theorem not_isBarred (tallies : env.Tallies channel handle tally)
    (listens : Bool) :
    ¬isBarred (if listens then some handle else none) env := by
  intro barred
  refine tallies.host.able (Allowance.bars_mono ?_ barred)
  cases listens <;> simp

/-- A process that may have two descriptors can begin a wait anew, and only a
wait without a limit has no end. -/
theorem await_ends {listens : Bool} {limit : Option Nat} {schedule : Schedule}
    (tallies : env.Tallies channel handle tally)
    (bearable : ∀ group ∈ schedule, ∀ action ∈ group,
      isBearable action = true) :
    let answer := (await channel (if listens then some handle else none) limit
      schedule env).1
    (∀ cause, answer ≠ .failed cause) ∧
      (limit.isSome = true → answer ≠ .blocked) := by
  induction schedule generalizing env tally with
  | nil =>
      dsimp only
      rw [await]
      split
      · simp
      · next unlimited => exact ⟨by simp, fun limited => absurd limited unlimited⟩
  | cons group later ih =>
      have happened := tallies.happen later (bearable group (by simp))
      have able := not_isBarred happened listens
      have further := ih happened fun other member =>
        bearable other (by simp [member])
      generalize (if listens then some handle else none) = cancel
        at able further ⊢
      dsimp only at further ⊢
      rw [await_cons]
      dsimp only
      split
      · simp
      · split
        · next barred =>
            rw [Bool.and_eq_true] at barred
            exact absurd barred.2 able
        · split
          · simp
          · exact further

theorem listen_ends {listens : Bool} {limit : Option Nat}
    (tallies : env.Tallies channel handle tally)
    (bearable : ∀ group ∈ env.schedule, ∀ action ∈ group,
      isBearable action = true) :
    let answer := (listen channel (if listens then some handle else none) limit
      env).1
    (∀ cause, answer ≠ .failed cause) ∧
      (limit.isSome = true → answer ≠ .blocked) := by
  dsimp only
  rw [listen, if_neg (not_isBarred tallies listens)]
  split
  · simp
  · exact await_ends tallies bearable

/-- A wait answers what the machine shows, as soon as it shows something. -/
theorem waits_wait {listens : Bool} {timeout : Option Duration}
    (tallies : env.Tallies channel handle tally)
    (bearable : ∀ group ∈ env.schedule, ∀ action ∈ group,
      isBearable action = true) :
    ∃ after, tally.Waits listens timeout.isSome env.schedule
        (wait channel (if listens then some handle else none) timeout env).1
        after ∧
      (wait channel (if listens then some handle else none) timeout
        env).2.Tallies channel handle after := by
  have shows : ∀ count, glance channel (if listens then some handle else none)
      (elapse channel count env) =
        (tally.elapse count env.schedule).look listens :=
    fun count => (tallies.elapse count bearable).glance listens
  have passed : ∀ count answer,
      ((elapse channel count env).record
        (.waited (timeout.map Duration.waitMilliseconds) answer)).Tallies
          channel handle (tally.elapse count env.schedule) := by
    intro count answer
    have elapsed := tallies.elapse count bearable
    exact ⟨elapsed.host, elapsed.canceller⟩
  obtain ⟨unfailed, unblocked⟩ : (∀ cause,
        (listen channel (if listens then some handle else none)
          (timeout.map Duration.waitMilliseconds) env).1 ≠ .failed cause) ∧
      ((timeout.map Duration.waitMilliseconds).isSome = true →
        (listen channel (if listens then some handle else none)
          (timeout.map Duration.waitMilliseconds) env).1 ≠ .blocked) :=
    listen_ends tallies bearable
  have hears : Hears channel (if listens then some handle else none)
      (timeout.map Duration.waitMilliseconds) env _ _ :=
    hears_listen (not_isBarred tallies listens)
  rw [wait_eq]
  dsimp only
  generalize listen channel (if listens then some handle else none)
    (timeout.map Duration.waitMilliseconds) env = heard
    at unfailed unblocked hears ⊢
  obtain ⟨answer, after⟩ := heard
  dsimp only at unfailed unblocked hears ⊢
  cases hears with
  | seen count within quiet shown =>
      refine ⟨_, ⟨count, within, ?_, rfl, ?_⟩, passed count _⟩
      · exact fun earlier before => (shows earlier).symm.trans
          (quiet earlier before)
      · rw [← shows, shown]
        rfl
  | timedOut count within quiet limited spent =>
      refine ⟨_, ⟨count, within, ?_, rfl, ?_⟩, passed count _⟩
      · exact fun earlier before => (shows earlier).symm.trans
          (quiet earlier (by omega))
      · have isLimited : timeout.isSome = true := by
          simpa using limited
        rw [← shows, quiet count (by omega), isLimited]
        rfl
  | barred count quiet => exact absurd rfl (unfailed _)
  | endless quiet =>
      refine ⟨_, ⟨_, le_rfl, ?_, rfl, ?_⟩, passed _ _⟩
      · exact fun earlier before => (shows earlier).symm.trans
          (quiet earlier (by omega))
      · have unlimited : timeout.isSome = false := by
          by_contra limited
          rw [Bool.not_eq_false, ← Option.isSome_map] at limited
          exact unblocked limited rfl
        rw [← shows, quiet _ (by omega), unlimited]
        exact ⟨rfl, rfl⟩

theorem fetched_of_read (channel : Descriptor) (env : Environment) :
    (read channel env).1 = interpret channel (env.host.read channel).1 ∧
      (read channel env).2.host = (env.host.read channel).2 ∧
      (read channel env).2.canceller = env.canceller := by
  obtain ⟨trace, fetched⟩ := fetch_eq channel env
  rw [read_eq, fetched]
  exact ⟨rfl, rfl, rfl⟩

/-- A read answers what the machine has, and clears it. -/
theorem serves_read (tallies : env.Tallies channel handle tally)
    (interruptions : Nat) :
    ∃ after, tally.Serves (.read interruptions)
        (.counted (read channel env).1) after ∧
      (read channel env).2.Tallies channel handle after := by
  obtain ⟨answered, host, canceller⟩ := fetched_of_read channel env
  rw [answered]
  obtain ⟨filled, counter, same, given, next⟩ | ⟨empty, failed, unchanged⟩ :=
    tallies.host.read
  · rw [given, interpret_toBytes]
    refine ⟨_, .read filled same, ?_, canceller.trans tallies.canceller⟩
    rw [host]
    exact next
  · refine ⟨_, .unread empty fun counter meaning => ?_, ?_,
      canceller.trans tallies.canceller⟩
    · obtain ⟨bytes, given, _⟩ := interpret_eq_done meaning
      exact failed bytes given
    · rw [host, unchanged]
      exact tallies.host

theorem allowance_create (env : Environment) (content : OpenContent) :
    (env.create content).2.host.allowance = env.host.allowance := by
  rw [Environment.create, Host.create]
  by_cases room : env.host.hasRoom = true <;> simp only [room] <;> rfl

/-- A process that makes a descriptor besides another one may have two. -/
theorem able_of_create {after : Environment} {content : OpenContent}
    {descriptor : Descriptor} (used : 0 < env.host.openCount)
    (made : env.create content = (.ok descriptor, after)) :
    ¬after.host.allowance.bars 2 := by
  have kept := allowance_create env content
  rw [made] at kept
  dsimp only at kept
  rw [kept]
  rw [Environment.create, Host.create] at made
  cases allowance : env.host.allowance with
  | unlimited => simp [Allowance.bars]
  | nothing => simp [Host.hasRoom, allowance] at made
  | upTo total =>
      by_cases room : env.host.openCount < total
      · simp only [Allowance.bars, decide_eq_true_eq]
        omega
      · simp [Host.hasRoom, allowance, room] at made

/-- A file that is made has nothing to do with the machine. -/
theorem tallies_create (tallies : env.Tallies channel handle tally)
    (content : OpenContent) :
    (env.create content).2.Tallies channel handle tally := by
  rcases made : env.create content with ⟨cause | descriptor, after⟩
  · rw [Environment.create_error made]
    exact tallies
  · obtain ⟨opens, _⟩ := Environment.opens_create tallies.host.coherent made
    have able : ¬after.host.allowance.bars 2 := by
      have kept := allowance_create env content
      rw [made] at kept
      dsimp only at kept
      rw [kept]
      exact tallies.host.able
    exact ⟨tallies.host.makes opens.makes able,
      opens.canceller.trans tallies.canceller⟩

/-- A notifier made for one notification adds what any notifier adds. -/
theorem serves_notifyOnce (tallies : env.Tallies channel handle tally)
    (count : UInt64) :
    ∃ after, tally.Serves (.notifyOnce count)
        (serve channel handle env (.notifyOnce count)).1 after ∧
      (serve channel handle env (.notifyOnce count)).2.Tallies channel handle
        after := by
  have duplicated := tallies.host.duplicate channel
  obtain ⟨sum, counted, _⟩ := tallies.host.pending
  obtain ⟨position, located⟩ := Host.placed_of_pending? ⟨sum, counted⟩
  obtain ⟨other, cancelCounted, _⟩ := tallies.host.cancelled
  obtain ⟨place, placed⟩ := Host.placed_of_pending? ⟨other, cancelCounted⟩
  have kept := (env.host.keeps_duplicate channel located).position
  simp only [serve, notifyOnce, notifier]
  rcases made : env.host.duplicate channel with ⟨cause | second, host⟩
  · rw [made] at duplicated
    exact ⟨tally, .unmade, duplicated, tallies.canceller⟩
  · rw [made] at duplicated kept
    obtain ⟨free, same⟩ := Host.duplicate_ok made
    have ready : { env with host }.Tallies channel handle tally :=
      ⟨duplicated, tallies.canceller⟩
    have apart : channel ≠ second ∧ handle ≠ second := by
      constructor
      · rintro rfl
        rw [located] at free
        cases free
      · rintro rfl
        rw [placed] at free
        cases free
    obtain ⟨next, through⟩ := ready.add (same.trans kept.symm) count
    dsimp only
    refine ⟨tally.plus count, ?_, next.host.close apart, next.canceller⟩
    rw [Tally.plus]
    split
    · next fits =>
        rw [through.mpr fits]
        exact .notifiedOnce fits
    · next high => exact .unnotifiedOnce high fun done => high (through.mp done)

/-- Every request is answered as the machine answers it. -/
theorem serves_serve (tallies : env.Tallies channel handle tally)
    (request : Request) (sensible : Sensible channel handle env.host request) :
    ∃ after, tally.Serves request (serve channel handle env request).1 after ∧
      (serve channel handle env request).2.Tallies channel handle after := by
  cases request with
  | notify through count =>
      obtain ⟨next, goes⟩ := tallies.add sensible count
      refine ⟨tally.plus count, ?_, next⟩
      rw [Tally.plus]
      dsimp only [serve]
      split
      · next fits =>
          rw [goes.mpr fits]
          exact .notified fits
      · next high => exact .unnotified high fun done => high (goes.mp done)
  | notifyOnce count => exact serves_notifyOnce tallies count
  | cancel clone =>
      obtain ⟨next, first⟩ := tallies.fire sensible
      exact ⟨_, .cancelled first, next⟩
  | wait listens timeout meanwhile =>
      have planned : { env with schedule := meanwhile }.Tallies channel handle
          tally :=
        ⟨tallies.host, tallies.canceller⟩
      obtain ⟨after, waits, next⟩ := waits_wait planned sensible
      exact ⟨after, .woken waits, next⟩
  | read interruptions =>
      have disturbed : { env with interruptions := [interruptions] }.Tallies
          channel handle tally :=
        ⟨tallies.host, tallies.canceller⟩
      exact serves_read disturbed interruptions
  | makeNotifier =>
      exact ⟨tally, .making (.inl rfl), tallies.host.duplicate channel,
        tallies.canceller⟩
  | makeChannel =>
      refine ⟨tally, .making (.inr (.inl rfl)), ?_⟩
      have made := tallies_create tallies (.counter 0)
      simp only [serve, create]
      rcases result : env.create (.counter 0) with ⟨cause | descriptor, after⟩
      · rw [result] at made
        exact made
      · rw [result] at made
        exact ⟨made.host, made.canceller⟩
  | makeHandle =>
      refine ⟨tally, .making (.inr (.inr rfl)), ?_⟩
      have made := tallies_create tallies (.counter 0)
      simp only [serve, createCancel]
      rcases result : env.create (.counter 0) with ⟨cause | descriptor, after⟩
      · rw [result] at made
        exact made
      · rw [result] at made
        exact made
  | drop other =>
      exact ⟨tally, .drop, tallies.host.close sensible, tallies.canceller⟩
  | makeImpatient descriptor =>
      exact ⟨tally, .makeImpatient, tallies.host.makeImpatient descriptor,
        tallies.canceller⟩
  | addElsewhere other count =>
      refine ⟨tally, .addElsewhere, ?_, ?_⟩
      · have touched := env.host.touches_write other (Counter.toBytes count)
        simp only [serve, Environment.add_snd]
        refine tallies.host.touches touched ?_ sensible
        rw [Host.allowance_write]
        exact tallies.host.able
      · simp only [serve, Environment.add_snd]
        exact tallies.canceller
  | readElsewhere other =>
      obtain ⟨_, host, canceller⟩ := fetched_of_read other env
      refine ⟨tally, .readElsewhere, ?_, canceller.trans tallies.canceller⟩
      have touched := env.host.touches_read other
      simp only [serve, host]
      refine tallies.host.touches touched ?_ sensible
      rw [Host.allowance_read]
      exact tallies.host.able

theorem follows_serveAll {requests : List Request}
    (tallies : env.Tallies channel handle tally)
    (sensible : SensibleAll channel handle requests env) :
    ∃ after, tally.Follows (serveAll channel handle requests env).1 after ∧
      (serveAll channel handle requests env).2.Tallies channel handle
        after := by
  induction requests generalizing env tally with
  | nil => exact ⟨tally, .none tally, tallies⟩
  | cons request rest ih =>
      obtain ⟨between, serves, next⟩ :=
        serves_serve tallies request sensible.1
      obtain ⟨after, follows, final⟩ := ih next sensible.2
      exact ⟨after, .next serves follows, final⟩

/-- A channel and a handle that were just made stand for the empty machine. -/
theorem tallies_made {made ready : Environment}
    (coherent : env.host.IsCoherent)
    (channelMade : create env = (.ok channel, made))
    (handleMade : createCancel made = (.ok handle, ready)) :
    { ready with canceller := some handle }.Tallies channel handle {} := by
  rw [create] at channelMade
  rw [createCancel] at handleMade
  rcases first : env.create (.counter 0) with ⟨cause | descriptor, opened⟩
  · rw [first] at channelMade
    cases channelMade
  rw [first] at channelMade
  cases channelMade
  rcases second : (opened.note (.channelCreated channel)).create
    (.counter 0) with ⟨cause | descriptor, after⟩
  · rw [second] at handleMade
    cases handleMade
  rw [second] at handleMade
  cases handleMade
  obtain ⟨opens, file⟩ := Environment.opens_create coherent first
  have still : (opened.note (.channelCreated channel)).host.IsCoherent :=
    opens.makes.coherent
  obtain ⟨further, other⟩ := Environment.opens_create still second
  have located : opened.host.position? channel =
      some env.host.openFiles.length := opens.makes.position
  have kept : Host.Keeps channel opened.host ready.host :=
    further.makes.keeps channel _ located
  refine ⟨⟨further.makes.coherent, ?_, ?_, ⟨0, ?_, rfl⟩, ⟨0, ?_, by simp⟩⟩, rfl⟩
  · -- The file of the handle was not open when the channel was made.
    intro same
    have below := opens.makes.coherent channel _ located
    rw [kept.position, located, further.makes.position] at same
    exact absurd (Option.some.inj same) (Nat.ne_of_lt below)
  · have counted := Host.openCount_close located
    have used : 0 < (opened.note (.channelCreated channel)).host.openCount :=
      counted ▸ Nat.succ_pos _
    have able : ¬ready.host.allowance.bars 2 := able_of_create used second
    exact able
  · exact kept.pending?.trans
      (Host.pending?_eq_some_iff.mpr ⟨false, file⟩)
  · exact Host.pending?_eq_some_iff.mpr ⟨false, other⟩

/-- A channel with a cancel handle answers like a sum and a flag from the moment
in which both are made, whatever is asked of them and whatever else is done. -/
theorem tally_of_serveAll (coherent : env.host.IsCoherent)
    {made ready : Environment}
    (channelMade : create env = (.ok channel, made))
    (handleMade : createCancel made = (.ok handle, ready)) :
    { ready with canceller := some handle }.Tallies channel handle {} ∧
      ∀ {start : Environment} {before : Tally} {requests : List Request},
        start.Tallies channel handle before →
          SensibleAll channel handle requests start →
            ∃ after,
              before.Follows (serveAll channel handle requests start).1 after ∧
                (serveAll channel handle requests start).2.Tallies channel
                  handle after ∧
                (before.cancelled = true → after.cancelled = true) := by
  refine ⟨tallies_made coherent channelMade handleMade, ?_⟩
  intro start before requests tallies sensible
  obtain ⟨after, follows, final⟩ := follows_serveAll tallies sensible
  exact ⟨after, follows, final, follows.stays_cancelled⟩

/-- Two notifications come together, and a third one that is too large.  Then
the channel is cancelled, and read twice. -/
def sampleRequests : List Request :=
  [.makeNotifier, .notify 5 3, .notifyOnce 4, .makeImpatient 3,
    .notify 5 18446744073709551614, .wait true none [], .cancel 4,
    .wait false none [], .wait true none [], .read 2, .drop 5,
    .wait false (some (.ofMilliseconds 20)) [[.expire], [.notify 1]], .read 0]

theorem tally_of_serveAll_sampleRequests :
    Host.fresh.IsCoherent ∧
      ∃ ready : Environment,
        (createCancel (create (.fresh {})).2).2 = ready ∧
        { ready with canceller := some 4 }.Tallies 3 4 {} ∧
        SensibleAll 3 4 sampleRequests { ready with canceller := some 4 } ∧
        (serveAll 3 4 sampleRequests
            { ready with canceller := some 4 }).1.map Prod.snd =
          [.made 5, .added (.done ()), .added (.done ()), .nothing,
            .added (.failed .wouldWait), .woken (.done .notified),
            .added (.done ()), .woken (.done .notified),
            .woken (.done .cancelled), .counted (.done 7), .nothing,
            .woken (.done .timedOut),
            .counted (.failed (.channelRead 3 (.failed .wouldWait)))] ∧
        ∃ after, Tally.Follows {} (serveAll 3 4 sampleRequests
            { ready with canceller := some 4 }).1 after := by
  have coherent : Host.fresh.IsCoherent := by decide +kernel
  have sensible : SensibleAll 3 4 sampleRequests
      { (createCancel (create (.fresh {})).2).2 with canceller := some 4 } := by
    decide +kernel
  have channelMade : create (.fresh {}) = (.ok 3, (create (.fresh {})).2) := rfl
  have handleMade : createCancel (create (.fresh {})).2 =
      (.ok 4, (createCancel (create (.fresh {})).2).2) := rfl
  obtain ⟨fresh, follows⟩ := tally_of_serveAll coherent channelMade handleMade
  obtain ⟨after, followed, _, _⟩ := follows fresh sensible
  refine ⟨coherent, _, rfl, fresh, sensible, ?_, after, followed⟩
  decide +kernel

end Channel

end MemoryWatch
