import MemoryWatch.Proofs.Ownership

/-!
# The account of a channel

What was added to a channel is either still in its counter or was read from it,
and each read gives what was added since the read before it.  Every motion of a
watch keeps this account, as long as nobody but the watcher reads the channel.
-/

namespace MemoryWatch

namespace Step

/-- What a step adds to the channel. -/
def addition : Step → Nat
  | added count => count.toNat
  | opened _ | closed _ | registered _ _ | waited _ _ | read _ | delivered _ _
  | probed _ | interrupted => 0

/-- What a step takes from the channel. -/
def removal : Step → Nat
  | read (.done bytes) => (Counter.ofBytes bytes).toNat
  | read (.failed _) | read .blocked | added _ | opened _ | closed _
  | registered _ _ | waited _ _ | delivered _ _ | probed _ | interrupted => 0

/-- Whether a step adds to the channel or takes something from it. -/
def isMovement : Step → Bool
  | read (.done _) | added _ => true
  | read (.failed _) | read .blocked | opened _ | closed _ | registered _ _
  | waited _ _ | delivered _ _ | probed _ | interrupted => false

/-- All that some steps add. -/
def additions (steps : List Step) : Nat :=
  (steps.map addition).sum

/-- All that some steps take. -/
def removals (steps : List Step) : Nat :=
  (steps.map removal).sum

/-- What was added after the last successful read, when so much was there
before. -/
def unread : Nat → List Step → Nat
  | sum, [] => sum
  | _, read (.done _) :: rest => unread 0 rest
  | sum, step :: rest => unread (sum + step.addition) rest

theorem addition_of_unmoved {step : Step} (unmoved : step.isMovement = false) :
    step.addition = 0 := by
  cases step <;> simp_all [isMovement, addition]

theorem removal_of_unmoved {step : Step} (unmoved : step.isMovement = false) :
    step.removal = 0 := by
  cases step with
  | read answer => cases answer <;> simp_all [isMovement, removal]
  | opened | closed | registered | waited | delivered | probed | added
  | interrupted => rfl

theorem sums_of_unmoved {steps : List Step}
    (unmoved : ∀ step ∈ steps, step.isMovement = false) :
    additions steps = 0 ∧ removals steps = 0 := by
  induction steps with
  | nil => exact ⟨rfl, rfl⟩
  | cons first rest ih =>
      obtain ⟨added, removed⟩ := ih fun step member =>
        unmoved step (by simp [member])
      have still := unmoved first (by simp)
      rw [additions] at added ⊢
      rw [removals] at removed ⊢
      simp [added, removed, addition_of_unmoved still, removal_of_unmoved still]

@[simp]
theorem additions_append (steps more : List Step) :
    additions (steps ++ more) = additions steps + additions more := by
  simp [additions]

@[simp]
theorem removals_append (steps more : List Step) :
    removals (steps ++ more) = removals steps + removals more := by
  simp [removals]

/-- A list that ends in a step has another step in its last place, or before. -/
theorem cut_append_singleton {steps earlier later : List Step}
    {last step : Step} (cut : steps ++ [last] = earlier ++ step :: later) :
    (steps = earlier ∧ last = step ∧ later = []) ∨
      ∃ before, steps = earlier ++ step :: before ∧
        later = before ++ [last] := by
  rcases List.eq_nil_or_concat later with rfl | ⟨before, final, rfl⟩
  · obtain ⟨same, equal⟩ := List.append_inj' cut rfl
    exact Or.inl ⟨same, by simpa using equal, rfl⟩
  · rw [List.concat_eq_append, ← List.cons_append, ← List.append_assoc] at cut
    obtain ⟨same, equal⟩ := List.append_inj' cut rfl
    exact Or.inr ⟨before, same, by simpa using equal.symm⟩

end Step

/-- A sum that a counter can hold does not wrap around. -/
theorem Counter.toNat_add {pending count : UInt64}
    (fits : pending.toNat + count.toNat ≤ Counter.largest) :
    (pending + count).toNat = pending.toNat + count.toNat := by
  simp only [Counter.largest, UInt64.size] at fits
  rw [UInt64.toNat_add]
  exact Nat.mod_eq_of_lt (by omega)

/-- What one change does to a counter, and the steps that tell of it. -/
inductive Movement (pending : UInt64) : List Step → UInt64 → Prop
  | still {steps : List Step}
      (unmoved : ∀ step ∈ steps, step.isMovement = false) :
      Movement pending steps pending
  | added {count : UInt64}
      (fits : pending.toNat + count.toNat ≤ Counter.largest) :
      Movement pending [.added count] (pending + count)
  | taken (filled : pending ≠ 0) :
      Movement pending [.read (.done (Counter.toBytes pending))] 0

/-- What was there and what was added is what was taken and what is left. -/
theorem Movement.balance {pending rest : UInt64} {steps : List Step}
    (movement : Movement pending steps rest) :
    pending.toNat + Step.additions steps =
      Step.removals steps + rest.toNat := by
  cases movement with
  | still unmoved =>
      obtain ⟨added, removed⟩ := Step.sums_of_unmoved unmoved
      omega
  | added fits =>
      have total := Counter.toNat_add fits
      simp [Step.additions, Step.removals, Step.addition, Step.removal, total]
  | taken filled =>
      simp [Step.additions, Step.removals, Step.addition, Step.removal]

/-- The account of a channel: the steps that others and the watcher have taken,
and what is in the counter after them. -/
structure Balanced (steps : List Step) (pending : UInt64) : Prop where
  /-- Everything added was read or is still there. -/
  sum : Step.additions steps = Step.removals steps + pending.toNat
  /-- Everything added since the last read is still there. -/
  rest : Step.unread 0 steps = pending.toNat
  bounded : pending.toNat ≤ Counter.largest
  /-- Each read gives everything that was added since the read before it. -/
  reads : ∀ earlier bytes later,
    steps = earlier ++ .read (.done bytes) :: later →
      ∃ counter : UInt64, bytes = Counter.toBytes counter ∧
        counter.toNat = Step.unread 0 earlier ∧
        1 ≤ counter.toNat ∧ counter.toNat ≤ Counter.largest

namespace Balanced

theorem unread_append (sum : Nat) (steps more : List Step) :
    Step.unread sum (steps ++ more) =
      Step.unread (Step.unread sum steps) more := by
  induction steps generalizing sum with
  | nil => rfl
  | cons step rest ih =>
      cases step with
      | read answer => cases answer <;> exact ih _
      | opened | closed | registered | waited | delivered | probed | added
      | interrupted => exact ih _

variable {steps : List Step} {pending : UInt64}

theorem nil : Balanced [] 0 where
  sum := rfl
  rest := rfl
  bounded := by simp
  reads earlier bytes later cut := by simp at cut

theorem sum_append (balanced : Balanced steps pending) {more : List Step}
    {rest : UInt64} (movement : Movement pending more rest) :
    Step.additions (steps ++ more) =
      Step.removals (steps ++ more) + rest.toNat := by
  have sum := balanced.sum
  have moved := movement.balance
  rw [Step.additions_append, Step.removals_append]
  omega

/-- A step that moves nothing leaves the account as it is. -/
theorem still (balanced : Balanced steps pending) {step : Step}
    (unmoved : step.isMovement = false) :
    Balanced (steps ++ [step]) pending := by
  have kept : ∀ sum, Step.unread sum [step] = sum := by
    intro sum
    cases step with
    | read answer => cases answer <;> simp_all [Step.isMovement, Step.unread,
        Step.addition]
    | opened | closed | registered | waited | delivered | probed | added
    | interrupted => simp_all [Step.isMovement, Step.unread, Step.addition]
  refine ⟨balanced.sum_append (.still (by simpa using unmoved)), ?_,
    balanced.bounded, ?_⟩
  · rw [unread_append, kept, balanced.rest]
  · intro earlier bytes later cut
    obtain ⟨_, last, _⟩ | ⟨before, cut, _⟩ := Step.cut_append_singleton cut
    · rw [last] at unmoved
      cases unmoved
    · exact balanced.reads earlier bytes before cut

theorem stills (balanced : Balanced steps pending) {more : List Step}
    (unmoved : ∀ step ∈ more, step.isMovement = false) :
    Balanced (steps ++ more) pending := by
  induction more generalizing steps with
  | nil => simpa using balanced
  | cons step rest ih =>
      have first := balanced.still (unmoved step (by simp))
      rw [List.append_cons]
      exact ih first fun later member => unmoved later (by simp [member])

theorem add (balanced : Balanced steps pending) {count : UInt64}
    (fits : pending.toNat + count.toNat ≤ Counter.largest) :
    Balanced (steps ++ [.added count]) (pending + count) := by
  have total := Counter.toNat_add fits
  refine ⟨balanced.sum_append (.added fits), ?_, by rwa [total], ?_⟩
  · rw [unread_append, balanced.rest, total]
    rfl
  · intro earlier bytes later cut
    obtain ⟨_, last, _⟩ | ⟨before, cut, _⟩ := Step.cut_append_singleton cut
    · cases last
    · exact balanced.reads earlier bytes before cut

theorem take (balanced : Balanced steps pending) (filled : pending ≠ 0) :
    Balanced (steps ++ [.read (.done (Counter.toBytes pending))]) 0 := by
  have positive : 1 ≤ pending.toNat := by
    rw [Nat.one_le_iff_ne_zero]
    intro zero
    exact filled (UInt64.toNat_inj.mp zero)
  refine ⟨balanced.sum_append (.taken filled), ?_, by simp, ?_⟩
  · rw [unread_append]
    rfl
  · intro earlier bytes later cut
    obtain ⟨same, last, _⟩ | ⟨before, cut, _⟩ := Step.cut_append_singleton cut
    · cases last
      subst same
      exact ⟨pending, rfl, balanced.rest.symm, positive, balanced.bounded⟩
    · exact balanced.reads earlier bytes before cut

end Balanced

namespace Host

/-- One host after another between which a counter was not lowered. -/
def Raises (descriptor : Descriptor) (before after : Host) : Prop :=
  ∀ sum, before.pending? descriptor = some sum →
    ∃ more, after.pending? descriptor = some more ∧ sum ≤ more

variable {descriptor : Descriptor} {before between after : Host}

theorem Keeps.raises (keeps : Keeps descriptor before after) :
    Raises descriptor before after := by
  intro sum counted
  exact ⟨sum, keeps.pending?.trans counted, UInt64.le_refl sum⟩

theorem Raises.trans (first : Raises descriptor before between)
    (second : Raises descriptor between after) :
    Raises descriptor before after := by
  intro sum counted
  obtain ⟨more, between, atLeast⟩ := first sum counted
  obtain ⟨most, after, above⟩ := second more between
  exact ⟨most, after, UInt64.le_trans atLeast above⟩

/-- Adding to a counter lowers none. -/
theorem raises_write (host : Host) (descriptor other : Descriptor)
    (count : UInt64) :
    Raises descriptor host (host.write other (Counter.toBytes count)).2 := by
  intro sum counted
  have touches := host.touches_write other (Counter.toBytes count)
  by_cases same : host.position? other = host.position? descriptor
  · have stays : (host.write other (Counter.toBytes count)).2.position? other =
        (host.write other (Counter.toBytes count)).2.position? descriptor := by
      rw [touches.position?, touches.position?, same]
    rw [← pending?_congr stays]
    rw [← pending?_congr same] at counted
    obtain ⟨fits, _, added⟩ | ⟨_, _, unchanged⟩ :=
      write_toBytes_cases counted count
    · have total := Counter.toNat_add fits
      refine ⟨_, added, UInt64.le_iff_toNat_le.mpr ?_⟩
      omega
    · rw [unchanged]
      exact ⟨sum, counted, UInt64.le_refl sum⟩
  · exact ⟨sum, (touches.pending?_of_ne same).trans counted,
      UInt64.le_refl sum⟩

end Host

namespace Environment

/-- The counter of a channel has changed by at most one movement, of which the
trace tells. -/
def Moves (channel : Descriptor) (before after : Environment) : Prop :=
  ∀ pending, before.host.pending? channel = some pending →
    ∃ steps rest, after.trace = before.trace ++ steps ∧
      after.host.pending? channel = some rest ∧ Movement pending steps rest

/-- The handle that cancels is not the channel. -/
def CancelsApart (channel : Descriptor) (env : Environment) : Prop :=
  ∀ handle, env.canceller = some handle →
    env.host.position? handle ≠ env.host.position? channel

variable {channel : Descriptor} {before after : Environment}

/-- What keeps the counter moves nothing. -/
theorem Moves.still
    (continues : Continues (fun step => step.isMovement = false) before after)
    (kept : after.host.pending? channel = before.host.pending? channel) :
    Moves channel before after := by
  intro pending counted
  obtain ⟨steps, shown, unmoved⟩ := continues
  exact ⟨steps, pending, shown, kept.trans counted, .still unmoved⟩

/-- An addition may go through any descriptor of the channel. -/
theorem moves_add {other : Descriptor} (count : UInt64)
    (same : before.host.position? other = before.host.position? channel) :
    Moves channel before (before.add other count).2 := by
  intro pending counted
  have touches := before.host.touches_write other (Counter.toBytes count)
  have stays : (before.host.write other
        (Counter.toBytes count)).2.position? other =
      (before.host.write other (Counter.toBytes count)).2.position? channel := by
    rw [touches.position?, touches.position?, same]
  rw [← Host.pending?_congr same] at counted
  rw [add_snd]
  obtain ⟨fits, answered, added⟩ | ⟨_, failed, unchanged⟩ :=
    Host.write_toBytes_cases counted count
  · refine ⟨[.added count], pending + count, ?_, ?_, .added fits⟩
    · rw [answered]
    · rw [← Host.pending?_congr stays]
      exact added
  · refine ⟨[], pending, ?_, ?_, .still (by simp)⟩
    · dsimp only
      split
      · next written answered => exact absurd answered (failed written)
      · rfl
      · rfl
    · rw [← Host.pending?_congr stays, unchanged]
      exact counted

theorem moves_read (channel : Descriptor) (before : Environment) :
    Moves channel before
      ({ before with host := (before.host.read channel).2 }.record
        (.read (before.host.read channel).1)) := by
  intro pending counted
  refine ⟨[.read (before.host.read channel).1], ?_⟩
  by_cases empty : pending = 0
  · rw [empty] at counted ⊢
    obtain ⟨unchanged, fruitless⟩ := Host.read_of_pending_zero counted
    refine ⟨0, rfl, ?_, .still ?_⟩
    · exact (congrArg (fun host => host.pending? channel) unchanged).trans
        counted
    · intro step member
      cases List.mem_singleton.mp member
      cases answered : (before.host.read channel).1 with
      | done bytes => exact absurd answered (fruitless bytes)
      | failed cause => rfl
      | blocked => rfl
  · obtain ⟨answered, cleared⟩ := Host.read_of_pending_ne_zero counted empty
    refine ⟨0, rfl, cleared, ?_⟩
    rw [answered]
    exact .taken empty

end Environment

open Environment (Moves)

/-- Every motion of a watch is at most one movement of the channel. -/
theorem Motion.moves {channel : Descriptor} {before after : Environment}
    (motion : Motion channel before after)
    (apart : before.CancelsApart channel) : Moves channel before after := by
  cases motion with
  | act action =>
      obtain ⟨count, acted⟩ | ⟨handle, log, canceller, acted⟩ |
        ⟨tree, allowance, acted⟩ := before.act_cases channel action
      · rw [acted]
        exact Environment.moves_add count rfl
      · rw [acted, Environment.fire_snd]
        have touches := before.host.touches_write handle (Counter.toBytes 1)
        exact .still (.of_eq rfl)
          (touches.pending?_of_ne (apart handle canceller))
      · rw [acted]
        exact .still (.of_eq rfl) rfl
  | read => exact before.moves_read channel
  | tell step idle =>
      refine .still (.single rfl ?_) rfl
      cases step <;> simp_all [Step.isIdle, Step.isMovement]
  | turn _ host canceller trace => exact .still (.of_eq trace) (by rw [host])

/-- A watch moves its channel by one movement after the other. -/
theorem Motions.moves {channel : Descriptor} {before after : Environment}
    (moved : Motions channel before after)
    (apart : before.CancelsApart channel) :
    Relation.ReflTransGen (Moves channel) before after := by
  induction moved with
  | refl => exact .refl
  | tail earlier motion ih =>
      have stays := Environment.Stays.motions earlier
      refine ih.tail (motion.moves fun handle canceller => ?_)
      rw [stays.position, stays.position]
      exact apart handle (stays.canceller ▸ canceller)

/-- A watch takes from its channel what was there and what was added, and leaves
the rest. -/
theorem Motions.balance {channel : Descriptor} {before after : Environment}
    (moved : Motions channel before after)
    (apart : before.CancelsApart channel) {pending : UInt64}
    (counted : before.host.pending? channel = some pending) :
    ∃ steps rest, after.trace = before.trace ++ steps ∧
      after.host.pending? channel = some rest ∧
      pending.toNat + Step.additions steps =
        Step.removals steps + rest.toNat := by
  have movements := moved.moves apart
  clear moved
  induction movements with
  | refl => exact ⟨[], pending, by simp, counted, Nat.add_comm _ _⟩
  | tail _ moves ih =>
      obtain ⟨steps, sum, shown, now, balance⟩ := ih
      obtain ⟨more, rest, further, later, movement⟩ := moves sum now
      refine ⟨steps ++ more, rest, ?_, later, ?_⟩
      · rw [further, shown, List.append_assoc]
      · have last := movement.balance
        rw [Step.additions_append, Step.removals_append]
        omega

/-- Since the start the account of a channel is balanced. -/
def Accounts (channel : Descriptor) (start env : Environment) : Prop :=
  ∃ steps pending, env.trace = start.trace ++ steps ∧
    env.host.pending? channel = some pending ∧ Balanced steps pending

namespace Accounts

variable {channel : Descriptor} {start before after : Environment}

/-- A movement of the channel keeps the account. -/
theorem moves (accounts : Accounts channel start before)
    (moves : Moves channel before after) : Accounts channel start after := by
  obtain ⟨steps, pending, shown, counted, balanced⟩ := accounts
  obtain ⟨more, rest, further, now, movement⟩ := moves pending counted
  refine ⟨steps ++ more, rest, ?_, now, ?_⟩
  · rw [further, shown, List.append_assoc]
  · cases movement with
    | still unmoved => exact balanced.stills unmoved
    | added fits => exact balanced.add fits
    | taken filled => exact balanced.take filled

/-- What moves nothing and keeps the counter keeps the account. -/
theorem still (accounts : Accounts channel start before)
    (continues : Environment.Continues (fun step => step.isMovement = false)
      before after)
    (kept : after.host.pending? channel = before.host.pending? channel) :
    Accounts channel start after :=
  accounts.moves (.still continues kept)

theorem motions {watcher : Watcher} (accounts : Accounts channel start before)
    (owns : watcher.Owns before)
    (held : watcher.handles.channel = some channel)
    (moved : Motions channel before after) : Accounts channel start after := by
  have movements := moved.moves fun handle canceller =>
    (owns.cancelApart handle (Or.inr canceller) .channel channel held).symm
  clear moved
  induction movements with
  | refl => exact accounts
  | tail _ moves ih => exact ih.moves moves

end Accounts

namespace Environment

/-- A handle was fired: its counter is not empty. -/
def Fired (handle : Descriptor) (env : Environment) : Prop :=
  ∃ sum, env.host.pending? handle = some sum ∧ sum ≠ 0

/-- A handle that was fired stays fired as long as its counter is not
lowered. -/
theorem Fired.raises {handle : Descriptor} {before after : Environment}
    (fired : before.Fired handle)
    (raised : Host.Raises handle before.host after.host) :
    after.Fired handle := by
  obtain ⟨sum, counted, filled⟩ := fired
  obtain ⟨more, now, atLeast⟩ := raised sum counted
  refine ⟨more, now, ?_⟩
  rintro rfl
  exact filled (UInt64.le_antisymm atLeast (UInt64.le_iff_toNat_le.mpr
    (Nat.zero_le _)))

/-- Nothing that others do lowers a counter. -/
theorem raises_act (env : Environment) (channel : Descriptor) (action : Action)
    (descriptor : Descriptor) :
    Host.Raises descriptor env.host
      (env.act (some channel) action).2.host := by
  obtain ⟨count, acted⟩ | ⟨handle, log, _, acted⟩ | ⟨tree, allowance, acted⟩ :=
    env.act_cases channel action
  · rw [acted, add_snd]
    exact env.host.raises_write descriptor channel count
  · rw [acted, fire_snd]
    exact env.host.raises_write descriptor handle 1
  · rw [acted]
    exact Host.Keeps.raises ⟨rfl, rfl⟩

end Environment

section Motions

variable {channel descriptor : Descriptor} {before after : Environment}

/-- Only a read lowers a counter, and a watch reads its channel alone. -/
theorem Motion.raises (motion : Motion channel before after)
    (apart : before.host.position? channel ≠
      before.host.position? descriptor) :
    Host.Raises descriptor before.host after.host := by
  cases motion with
  | act action => exact before.raises_act channel action descriptor
  | read => exact ((before.host.touches_read channel).keeps apart).raises
  | tell step idle => exact (Host.Keeps.refl _ _).raises
  | turn _ host canceller trace =>
      rw [host]
      exact (Host.Keeps.refl _ _).raises

theorem Motions.raises (moved : Motions channel before after)
    (apart : before.host.position? channel ≠
      before.host.position? descriptor) :
    Host.Raises descriptor before.host after.host := by
  induction moved with
  | refl => exact (Host.Keeps.refl _ _).raises
  | tail earlier motion ih =>
      have stays := Environment.Stays.motions earlier
      refine ih.trans (motion.raises ?_)
      rwa [stays.position, stays.position]

/-- The channel of a watch stays a counter although it is read. -/
theorem Motion.counts (motion : Motion channel before after)
    (counted : ∃ sum, before.host.pending? channel = some sum) :
    ∃ sum, after.host.pending? channel = some sum := by
  obtain ⟨sum, counted⟩ := counted
  cases motion with
  | act action =>
      obtain ⟨more, now, _⟩ :=
        before.raises_act channel action channel sum counted
      exact ⟨more, now⟩
  | read =>
      by_cases empty : sum = 0
      · rw [empty] at counted
        obtain ⟨unchanged, _⟩ := Host.read_of_pending_zero counted
        exact ⟨0, (congrArg (Host.pending? · channel) unchanged).trans counted⟩
      · exact ⟨0, (Host.read_of_pending_ne_zero counted empty).2⟩
  | tell step idle => exact ⟨sum, counted⟩
  | turn _ host canceller trace => exact ⟨sum, by rwa [host]⟩

theorem Motions.counts (moved : Motions channel before after)
    (counted : ∃ sum, before.host.pending? channel = some sum) :
    ∃ sum, after.host.pending? channel = some sum := by
  induction moved with
  | refl => exact counted
  | tail _ motion ih => exact motion.counts ih

end Motions

/-- The handle that cancels a watch is an event counter. -/
def Watcher.CancelCounts (watcher : Watcher) (env : Environment) : Prop :=
  ∀ handle, watcher.cancel = some handle →
    ∃ sum, env.host.pending? handle = some sum

namespace Watcher.CancelCounts

variable {watcher : Watcher} {before after : Environment}

theorem raises (counts : watcher.CancelCounts before)
    (raised : ∀ handle, watcher.cancel = some handle →
      Host.Raises handle before.host after.host) :
    watcher.CancelCounts after := by
  intro handle cancels
  obtain ⟨sum, counted⟩ := counts handle cancels
  obtain ⟨more, now, _⟩ := raised handle cancels sum counted
  exact ⟨more, now⟩

theorem motions (counts : watcher.CancelCounts before) {channel : Descriptor}
    (owns : watcher.Owns before)
    (held : watcher.handles.channel = some channel)
    (moved : Motions channel before after) : watcher.CancelCounts after :=
  counts.raises fun handle cancels =>
    moved.raises (owns.cancelApart handle (Or.inl cancels) .channel channel
      held)

end Watcher.CancelCounts

/-- A watcher with a channel, whatever open file that may be by now, and with a
genuine counter to cancel it. -/
structure Watcher.Guarded (watcher : Watcher) (channel : Descriptor)
    (env : Environment) : Prop where
  owns : watcher.Owns env
  held : watcher.handles.channel = some channel
  cancelCounts : watcher.CancelCounts env

theorem Watcher.Guarded.motions {watcher : Watcher} {channel : Descriptor}
    {before after : Environment} (guarded : watcher.Guarded channel before)
    (moved : Motions channel before after) :
    watcher.Guarded channel after where
  owns := guarded.owns.stays (.motions moved)
  held := guarded.held
  cancelCounts := guarded.cancelCounts.motions guarded.owns guarded.held moved

/-- The channel of a watcher is an event counter, and so is the handle that
cancels it. -/
structure Watcher.Genuine (watcher : Watcher) (channel : Descriptor)
    (env : Environment) : Prop extends watcher.Guarded channel env where
  channelCounts : ∃ pending, env.host.pending? channel = some pending

theorem Watcher.Genuine.motions {watcher : Watcher} {channel : Descriptor}
    {before after : Environment} (genuine : watcher.Genuine channel before)
    (moved : Motions channel before after) :
    watcher.Genuine channel after where
  toGuarded := genuine.toGuarded.motions moved
  channelCounts := moved.counts genuine.channelCounts

/-- A watcher with a channel that has a balanced account, and with a genuine
counter to cancel it. -/
structure Watcher.Reckons (watcher : Watcher) (channel : Descriptor)
    (start env : Environment) : Prop where
  accounts : Accounts channel start env
  cancelCounts : watcher.CancelCounts env
  owns : watcher.Owns env
  held : watcher.handles.channel = some channel

/-- The account is balanced at every moment of a watch. -/
theorem Watcher.Reckons.motions {watcher : Watcher} {channel : Descriptor}
    {start before after : Environment}
    (reckons : watcher.Reckons channel start before)
    (moved : Motions channel before after) :
    watcher.Reckons channel start after where
  accounts := reckons.accounts.motions reckons.owns reckons.held moved
  cancelCounts := reckons.cancelCounts.motions reckons.owns reckons.held moved
  owns := reckons.owns.stays (.motions moved)
  held := reckons.held

theorem Watcher.Reckons.genuine {watcher : Watcher} {channel : Descriptor}
    {start env : Environment} (reckons : watcher.Reckons channel start env) :
    watcher.Genuine channel env where
  owns := reckons.owns
  held := reckons.held
  channelCounts := by
    obtain ⟨_, pending, _, counted, _⟩ := reckons.accounts
    exact ⟨pending, counted⟩
  cancelCounts := reckons.cancelCounts

end MemoryWatch
