import MemoryWatch.Proofs.Machine

/-!
# The limit of a wait

A watcher that probes waits no longer than its interval.  The system waits for
whole milliseconds, which it takes as a signed word; a negative word means to
wait for ever.  So the interval is rounded down, and one that is too long for a
word becomes the longest wait.  The limit is never negative then, and a longer
interval never has a shorter limit.

Settings are refused for an interval of zero, but not for one that is rounded
down to zero.  With such an interval every wait is over at once.
-/

namespace MemoryWatch

namespace Duration

/-- The whole milliseconds of the seconds and of what is beyond them. -/
def milliseconds (duration : Duration) : Nat :=
  duration.seconds * 1000 + duration.subsecond / 1000000

/-- The word for a wait that may be limited. -/
def word : Option Duration → Int32
  | none => -1
  | some duration => Int32.ofNat (min duration.milliseconds longestWait)

theorem milliseconds_eq (duration : Duration) :
    duration.milliseconds = duration.nanoseconds / 1000000 := by
  rw [milliseconds, seconds, subsecond]
  omega

theorem waitMilliseconds_le (duration : Duration) :
    duration.waitMilliseconds ≤ longestWait :=
  Nat.min_le_right _ _

/-- Cutting off a duration leaves a number that fits into a word. -/
theorem toInt_word (duration : Duration) :
    (word (some duration)).toInt = duration.waitMilliseconds := by
  have within : duration.waitMilliseconds < 2 ^ 31 :=
    Nat.lt_of_le_of_lt duration.waitMilliseconds_le (by decide)
  rw [word, milliseconds_eq]
  exact Int32.toInt_ofNat_of_lt within

theorem waitMilliseconds_mono {shorter longer : Duration}
    (order : shorter.nanoseconds ≤ longer.nanoseconds) :
    shorter.waitMilliseconds ≤ longer.waitMilliseconds :=
  min_le_min (Nat.div_le_div_right order) le_rfl

theorem one_le_waitMilliseconds_iff (duration : Duration) :
    1 ≤ duration.waitMilliseconds ↔ 1000000 ≤ duration.nanoseconds := by
  rw [waitMilliseconds, longestWait]
  omega

end Duration

/-- The settings that are usable. -/
theorem Settings.validate_eq_ok_iff (settings : Settings) :
    settings.validate = .ok () ↔
      settings.cgroup.isEmpty = false ∧
        ∀ interval, settings.probeInterval = some interval →
          0 < interval.nanoseconds := by
  have positive : settings.probeInterval ≠ some ⟨0⟩ ↔
      ∀ interval, settings.probeInterval = some interval →
        0 < interval.nanoseconds := by
    constructor
    · rintro different ⟨nanoseconds⟩ told
      refine Nat.pos_of_ne_zero fun zero => different ?_
      rw [told]
      exact congrArg (some ∘ Duration.mk) zero
    · intro positive told
      exact absurd (positive ⟨0⟩ told) (Nat.lt_irrefl 0)
  rw [← positive, validate]
  split
  · next empty => simp [empty]
  · next filled =>
      split
      · next zero => simp [zero]
      · next other => simp [filled, other]

section Rounds

variable {channel : Descriptor} {limit other : Option Nat} {number : Nat}
  {steps : List Step} {heard : Answer SystemError Wake}
  {answer : Answer WatchError Summary}

theorem CompleteRound.limit_eq
    (round : CompleteRound channel limit number steps)
    (member : .waited other heard ∈ steps) : other = limit := by
  cases round <;> simp_all

theorem CompleteRounds.limit_eq
    (rounds : CompleteRounds channel limit number steps)
    (member : .waited other heard ∈ steps) : other = limit := by
  induction rounds with
  | none => cases member
  | next rounds round ih =>
      rcases List.mem_append.mp member with early | late
      · exact ih early
      · exact round.limit_eq late

theorem FinalRound.limit_eq
    (final : FinalRound channel limit number steps answer)
    (member : .waited other heard ∈ steps) : other = limit := by
  cases final <;> simp_all

/-- Every wait of a watch has the same limit. -/
theorem MachineRun.limit_eq (run : MachineRun channel limit steps answer)
    (member : .waited other heard ∈ steps) : other = limit := by
  cases run with
  | waiting rounds => exact rounds.limit_eq member
  | terminated rounds final =>
      rcases List.mem_append.mp member with early | late
      · exact rounds.limit_eq early
      · exact final.limit_eq late

end Rounds

namespace Watcher

variable {watcher : Watcher} {channel : Descriptor}

/-- Every wait of a watch with usable settings has the limit that belongs to the
interval, and has one only if there is an interval.  The system takes the limit
for what it is.  It is never more than the longest wait and does not fall when
the interval grows; but it is at least a millisecond only if the interval is. -/
theorem limits_watch (usable : watcher.settings.validate = .ok ())
    (watched : watcher.watched? = some channel) (env : Environment) :
    (∃ steps, (watcher.watch env).2.outward = env.outward ++ steps ∧
        ∀ limit heard, .waited limit heard ∈ steps → limit = watcher.limit) ∧
      (0 ≤ (Duration.word watcher.settings.probeInterval).toInt ↔
        watcher.limit.isSome = true) ∧
      ∀ interval, watcher.settings.probeInterval = some interval →
        ∃ limit, watcher.limit = some limit ∧
          (Duration.word watcher.settings.probeInterval).toInt = limit ∧
          limit ≤ 2 ^ 31 - 1 ∧
          (1 ≤ limit ↔ 1000000 ≤ interval.nanoseconds) ∧
          (limit = 0 ↔
            0 < interval.nanoseconds ∧ interval.nanoseconds < 1000000) ∧
          ∀ longer : Duration, interval.nanoseconds ≤ longer.nanoseconds →
            limit ≤ longer.waitMilliseconds := by
  refine ⟨?_, ?_, ?_⟩
  · obtain ⟨steps, shown, run, _⟩ := machineRun_watch watched
    exact ⟨steps, shown, fun _ _ member => run.limit_eq member⟩
  · rw [limit]
    cases watcher.settings.probeInterval with
    | none => decide
    | some interval => simp [Duration.toInt_word]
  · intro interval told
    have positive : 0 < interval.nanoseconds :=
      ((Settings.validate_eq_ok_iff _).mp usable).2 interval told
    have least := interval.one_le_waitMilliseconds_iff
    refine ⟨interval.waitMilliseconds, by rw [limit, told]; rfl, ?_,
      interval.waitMilliseconds_le, least, ?_,
      fun _ => Duration.waitMilliseconds_mono⟩
    · rw [told, Duration.toInt_word]
    · omega

/-- A watcher that looks for its cgroup again and again. -/
def hurriedSample (interval : Duration) : Watcher :=
  { subscribedSample with
    settings :=
      { subscribedSample.settings with probeInterval := some interval } }

/-- Nothing is pending, and when a limit has expired the watch is cancelled. -/
def idleSample : Environment :=
  { pendingSample with
    host := (pendingSample.host.read 3).2
    schedule := [[.expire], [.cancel]] }

/-- With an interval of one and a half milliseconds a wait is given one. -/
theorem limits_watch_hurriedSample :
    (hurriedSample ⟨1500000⟩).settings.validate = .ok () ∧
      (hurriedSample ⟨1500000⟩).watched? = some 3 ∧
      (hurriedSample ⟨1500000⟩).limit = some 1 ∧
      (Duration.word (some ⟨1500000⟩)).toInt = 1 ∧
      ∃ steps, ((hurriedSample ⟨1500000⟩).watch idleSample).2.outward =
          idleSample.outward ++ steps ∧
        ∀ limit heard, .waited limit heard ∈ steps → limit = some 1 := by
  have usable : (hurriedSample ⟨1500000⟩).settings.validate = .ok () := by
    decide
  have watched : (hurriedSample ⟨1500000⟩).watched? = some 3 := rfl
  obtain ⟨⟨steps, shown, same⟩, _, told⟩ :=
    limits_watch usable watched idleSample
  obtain ⟨limit, limited, word, _⟩ := told ⟨1500000⟩ rfl
  cases limited
  exact ⟨usable, watched, rfl, word, steps, shown, same⟩

/-- With an interval just below one millisecond the settings are usable, and a
wait that times out is given no time. -/
theorem limit_eq_zero_hurriedSample :
    (hurriedSample ⟨999999⟩).settings.validate = .ok () ∧
      (hurriedSample ⟨999999⟩).watched? = some 3 ∧
      (Duration.word (some ⟨999999⟩)).toInt = 0 ∧
      ((hurriedSample ⟨999999⟩).watch idleSample).2.outward =
        idleSample.outward ++
          [.waited (some 0) (.done .timedOut), .probed true,
            .waited (some 0) (.done .cancelled)] :=
  ⟨by decide, rfl, by decide, rfl⟩

end Watcher

end MemoryWatch
