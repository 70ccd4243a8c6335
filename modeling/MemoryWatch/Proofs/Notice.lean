import MemoryWatch.Proofs.Parallel

/-!
# Notifying through a descriptor of one's own

Whoever notifies a channel makes a descriptor for it, adds to the counter
through this descriptor and gives it up.  Apart from the table, in which a place
is free again, this is the same as adding to the counter through the descriptor
of the channel.
-/

namespace MemoryWatch

namespace Watcher

/-- A notifier is made for the channel, or nothing happens. -/
theorem notifier_made (watcher : Watcher) (env : Environment) :
    (∃ error, watcher.notifier env = (.error error, env)) ∨
      ∃ channel second table, watcher.handles.channel = some channel ∧
        watcher.notifier env =
          (.ok second, { env with host := { env.host with table } }) ∧
        env.host.position? second = none ∧
        ({ env.host with table } : Host).openCount =
          env.host.openCount + 1 ∧
        ∀ descriptor, ({ env.host with table } : Host).position? descriptor =
          if descriptor = second then env.host.position? channel
          else env.host.position? descriptor := by
  rw [notifier]
  cases held : watcher.handles.channel with
  | none => exact Or.inl ⟨_, rfl⟩
  | some channel =>
      dsimp only
      rw [Channel.notifier]
      obtain ⟨cause, failed⟩ | ⟨second, table, made, free, count, position⟩ :=
        env.host.duplicate_cases channel
      · rw [failed]
        exact Or.inl ⟨_, rfl⟩
      · rw [made]
        exact Or.inr ⟨channel, second, table, rfl, rfl, free, count, position⟩

/-- Whoever notifies the channel through a notifier of his own adds to it, and
all descriptors stay where they were. -/
theorem notify_cases (watcher : Watcher) (count : UInt64)
    (env : Environment) :
    (∃ error, watcher.notifier env = (.error error, env) ∧
        watcher.notify count env = (.error error, env)) ∨
      ∃ channel second after table, watcher.handles.channel = some channel ∧
        watcher.notifier env = (.ok second, after) ∧
        watcher.notify count env =
          (.ok (env.add channel count).1,
           { (env.add channel count).2 with
             host := { (env.add channel count).2.host with table } }) ∧
        ∀ descriptor,
          ({ (env.add channel count).2.host with table } : Host).position?
              descriptor =
            (env.add channel count).2.host.position? descriptor := by
  rw [notify]
  obtain ⟨error, failed⟩ |
    ⟨channel, second, table, held, made, free, _, position⟩ :=
    watcher.notifier_made env
  · rw [failed]
    exact Or.inl ⟨error, rfl, rfl⟩
  rw [made]
  refine Or.inr ⟨channel, second, _, table.set second none, held, rfl, ?_, ?_⟩
  · have through := Host.write_renumbered (by rw [position, if_pos rfl])
      (Counter.toBytes count)
    dsimp only
    rw [Environment.add, Environment.add]
    dsimp only
    rw [through]
    rcases env.host.write channel (Counter.toBytes count) with ⟨answer, host⟩
    cases answer <;> rfl
  · intro descriptor
    rw [(Environment.Stays.add env channel count).position]
    have closed := Host.position?_close { env.host with table } second descriptor
    rw [position] at closed
    refine closed.trans ?_
    split
    · next same => rw [same, free]
    · rfl

end Watcher

namespace Environment

theorem Stays.renumber {env : Environment} {table : List (Option Nat)}
    (same : ∀ descriptor, ({ env.host with table } : Host).position? descriptor =
      env.host.position? descriptor) :
    Stays env { env with host := { env.host with table } } where
  position := same
  coherent coherent descriptor position located :=
    coherent descriptor position ((same descriptor).symm.trans located)
  canceller := rfl

/-- What a watcher listens to does not depend on how the table is written
down. -/
theorem Calm.renumber {ears : Ears} {env : Environment}
    {table : List (Option Nat)} (calm : env.Calm ears)
    (same : ∀ descriptor, ({ env.host with table } : Host).position? descriptor =
      env.host.position? descriptor) :
    Calm ears { env with host := { env.host with table } } where
  counts channel held := by
    obtain ⟨sum, counted⟩ := calm.counts channel held
    exact ⟨sum, by rwa [Host.pending?, Host.openFile?, same]⟩
  unfired handle held := by
    have counted := calm.unfired handle held
    rwa [Host.pending?, Host.openFile?, same]
  apart channel handle held through := by
    dsimp only
    rw [same, same]
    exact calm.apart channel handle held through
  scheduled := calm.scheduled
  flushing := calm.flushing
  willing := calm.willing

theorem Alike.renumber {ears others : Ears} {env other : Environment}
    {table twinTable : List (Option Nat)} (alike : Alike ears others env other)
    (same : ∀ descriptor, ({ env.host with table } : Host).position? descriptor =
      env.host.position? descriptor)
    (twinSame : ∀ descriptor,
      ({ other.host with table := twinTable } : Host).position? descriptor =
        other.host.position? descriptor) :
    Alike ears others { env with host := { env.host with table } }
      { other with host := { other.host with table := twinTable } } := by
  have count := (Stays.renumber same).openCount
  have twinCount := (Stays.renumber twinSame).openCount
  dsimp only at count twinCount
  exact
    { files := alike.files
      storage := alike.storage
      allowance := by
        dsimp only
        rw [count, twinCount]
        exact alike.allowance
      calm := alike.calm.renumber same
      twin := alike.twin.renumber twinSame
      channel := by
        have hear := alike.channel
        generalize ears.channel = channel at hear ⊢
        generalize others.channel = counterpart at hear ⊢
        cases hear with
        | none => exact .none
        | some file =>
            refine .some ?_
            rw [Host.openFile?, Host.openFile?, same, twinSame]
            exact file
      even := by
        dsimp only
        rw [count, twinCount]
        exact alike.even
      schedule := alike.schedule
      interruptions := alike.interruptions
      flushes := alike.flushes
      exchanges := alike.exchanges }

/-- The same comes of adding to both channels. -/
theorem Alike.add_fst {channel counterpart : Descriptor}
    {cancel guard : Option Descriptor} {env other : Environment}
    (alike : Alike ⟨some channel, cancel⟩ ⟨some counterpart, guard⟩ env other)
    (count : UInt64) :
    (other.add counterpart count).1 = (env.add channel count).1 := by
  obtain ⟨answer, _⟩ := Host.write_alike (alike.calm.counts channel rfl)
    alike.file (Counter.toBytes count)
  rw [Environment.add, Environment.add]
  generalize other.host.write counterpart (Counter.toBytes count) = second
    at answer ⊢
  generalize env.host.write channel (Counter.toBytes count) = first
    at answer ⊢
  obtain ⟨answered, host⟩ := first
  obtain ⟨twinAnswered, twin⟩ := second
  obtain rfl : twinAnswered = answered := answer
  cases twinAnswered <;> rfl

end Environment

end MemoryWatch
