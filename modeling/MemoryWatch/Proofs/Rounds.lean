import MemoryWatch.Proofs.Listening

/-!
# Rounds of the notification loop

`Turn` lists everything that a round of the loop can come to, and `Arrives`
the surroundings in which a round of a watch begins.  A watch past its guards
ends in a round that it arrives at, or arrives at rounds for ever, so a property
of watches follows from what one round preserves and from how one round ends.
-/

namespace MemoryWatch

open Relation

namespace Round

/-- The surroundings after a round. -/
def surroundings : Round → Environment
  | continued _ env => env
  | ended _ env => env

end Round

namespace Watcher

/-- A round in which nothing was notified, or which has delivered a record,
looks for the cgroup at its end. -/
theorem afterProbe_cases (watcher : Watcher) (notifications : Nat)
    (env : Environment) :
    ((env.probe watcher.settings.cgroup).1 = true ∧
        watcher.afterProbe notifications env =
          .continued notifications (env.probe watcher.settings.cgroup).2) ∨
      ((env.probe watcher.settings.cgroup).1 = false ∧
        watcher.afterProbe notifications env =
          .ended (.done ⟨.cgroupRemoved, notifications⟩)
            ((env.probe watcher.settings.cgroup).2.note
              (.cgroupRemoved watcher.settings.cgroup))) := by
  simp only [afterProbe]
  rcases env.probe watcher.settings.cgroup with ⟨present, after⟩
  cases present
  · exact Or.inr ⟨rfl, rfl⟩
  · exact Or.inl ⟨rfl, rfl⟩

/-- What a round can come to. -/
inductive Turn (watcher : Watcher) (channel : Descriptor)
    (notifications : Nat) (env : Environment) : Round → Prop
  | waitBlocked {waited : Environment}
      (wait : Channel.wait channel watcher.cancel
        watcher.settings.probeInterval env = (.blocked, waited)) :
      Turn watcher channel notifications env (.ended .blocked waited)
  | waitFailed {waited : Environment} {error : WatchError}
      (wait : Channel.wait channel watcher.cancel
        watcher.settings.probeInterval env = (.failed error, waited)) :
      Turn watcher channel notifications env (.ended (.failed error) waited)
  | cancelled {waited : Environment}
      (wait : Channel.wait channel watcher.cancel
        watcher.settings.probeInterval env = (.done .cancelled, waited)) :
      Turn watcher channel notifications env
        (.ended (.done ⟨.cancelled, notifications⟩)
          (waited.note (.cancelled watcher.settings.cgroup)))
  | timedOut {waited : Environment}
      (wait : Channel.wait channel watcher.cancel
        watcher.settings.probeInterval env = (.done .timedOut, waited)) :
      Turn watcher channel notifications env
        (watcher.afterProbe notifications waited)
  | readBlocked {waited after : Environment}
      (wait : Channel.wait channel watcher.cancel
        watcher.settings.probeInterval env = (.done .notified, waited))
      (read : Channel.read channel waited = (.blocked, after)) :
      Turn watcher channel notifications env (.ended .blocked after)
  | readFailed {waited after : Environment} {error : WatchError}
      (wait : Channel.wait channel watcher.cancel
        watcher.settings.probeInterval env = (.done .notified, waited))
      (read : Channel.read channel waited = (.failed error, after)) :
      Turn watcher channel notifications env (.ended (.failed error) after)
  | refused {waited after delivered : Environment} {counter : UInt64}
      {cause : SystemError}
      (wait : Channel.wait channel watcher.cancel
        watcher.settings.probeInterval env = (.done .notified, waited))
      (read : Channel.read channel waited = (.done counter, after))
      (deliver :
        (after.note (.notified watcher.settings.cgroup counter)).deliver
          (some channel) (Record.encode watcher.settings.format
            watcher.settings.cgroup counter) = (.error cause, delivered)) :
      Turn watcher channel notifications env
        (.ended (.failed (.sink cause))
          (delivered.record (.delivered counter (.error cause))))
  | reported {waited after delivered : Environment} {counter : UInt64}
      (wait : Channel.wait channel watcher.cancel
        watcher.settings.probeInterval env = (.done .notified, waited))
      (read : Channel.read channel waited = (.done counter, after))
      (deliver :
        (after.note (.notified watcher.settings.cgroup counter)).deliver
          (some channel) (Record.encode watcher.settings.format
            watcher.settings.cgroup counter) = (.ok (), delivered)) :
      Turn watcher channel notifications env
        (watcher.afterProbe (notifications + 1)
          (delivered.record (.delivered counter (.ok ()))))

theorem turn_round (watcher : Watcher) (channel : Descriptor)
    (notifications : Nat) (env : Environment) :
    Turn watcher channel notifications env
      (watcher.round channel notifications env) := by
  rw [round]
  rcases wait : Channel.wait channel watcher.cancel
    watcher.settings.probeInterval env with ⟨answer, waited⟩
  cases answer with
  | blocked => exact .waitBlocked wait
  | failed error => exact .waitFailed wait
  | done wake =>
      cases wake with
      | cancelled => exact .cancelled wait
      | timedOut => exact .timedOut wait
      | notified =>
          simp only [report]
          rcases read : Channel.read channel waited with ⟨answer, after⟩
          cases answer with
          | blocked => exact .readBlocked wait read
          | failed error => exact .readFailed wait read
          | done counter =>
              rcases deliver :
                (after.note (.notified watcher.settings.cgroup counter)).deliver
                  (some channel) (Record.encode watcher.settings.format
                    watcher.settings.cgroup counter)
                with ⟨cause | _, delivered⟩
              · simpa only [deliver] using Turn.refused wait read deliver
              · simpa only [deliver] using Turn.reported wait read deliver

/-- The surroundings in which a round of a loop begins, and the number of
records delivered until then. -/
inductive Arrives (watcher : Watcher) (channel : Descriptor)
    (start : Environment) : Nat → Environment → Prop
  | first : Arrives watcher channel start 0 start
  | next {notifications following : Nat} {env after : Environment}
      (arrived : Arrives watcher channel start notifications env)
      (round : watcher.round channel notifications env =
        .continued following after) :
      Arrives watcher channel start following after

/-- The loop ends in a round that it arrives at, or has not ended when its
bound is used up. -/
theorem rounds_cases {watcher : Watcher} {channel : Descriptor}
    {start env : Environment} {notifications : Nat} (bound : Nat)
    (arrived : Arrives watcher channel start notifications env) :
    (∃ count before, Arrives watcher channel start count before ∧
        watcher.round channel count before =
          .ended (watcher.rounds channel bound notifications env).1
            (watcher.rounds channel bound notifications env).2) ∨
      ((watcher.rounds channel bound notifications env).1 = .blocked ∧
        ∃ count, Arrives watcher channel start count
          (watcher.rounds channel bound notifications env).2) := by
  induction bound generalizing notifications env with
  | zero => exact Or.inr ⟨rfl, notifications, arrived⟩
  | succ bound ih =>
      simp only [rounds]
      rcases result : watcher.round channel notifications env with
        ⟨following, after⟩ | ⟨answer, after⟩
      · exact ih (.next arrived result)
      · exact Or.inl ⟨notifications, env, arrived, result⟩

/-- The channel that a watch waits on, once it is past its guards. -/
def watched? (watcher : Watcher) : Option Descriptor :=
  watcher.handles.registration.bind fun _ => watcher.handles.channel

theorem watched?_eq_some_iff {watcher : Watcher} {channel : Descriptor} :
    watcher.watched? = some channel ↔
      watcher.handles.isSubscribed = true ∧
        watcher.handles.channel = some channel := by
  rw [watched?, Handles.isSubscribed]
  cases watcher.handles.registration <;> simp

theorem watch_of_watched? {watcher : Watcher} {channel : Descriptor}
    (watched : watcher.watched? = some channel) (env : Environment) :
    watcher.watch env =
      watcher.rounds channel (patience channel env) 0 env := by
  rw [watched?] at watched
  rw [watch]
  cases marked : watcher.handles.registration with
  | none => simp [marked] at watched
  | some text =>
      have held : watcher.handles.channel = some channel := by
        simpa [marked] using watched
      rw [held]

/-- A watch that does not get past its guards leaves its surroundings
alone. -/
theorem exists_fault_of_not_watched? {watcher : Watcher}
    (unwatched : watcher.watched? = none) :
    ∃ fault, ∀ env, watcher.watch env = (.failed (.misuse fault), env) := by
  rw [watched?] at unwatched
  cases marked : watcher.handles.registration with
  | none => exact ⟨_, fun env => by rw [watch, marked]⟩
  | some text =>
      have free : watcher.handles.channel = none := by
        simpa [marked] using unwatched
      exact ⟨_, fun env => by rw [watch, marked, free]⟩

theorem watch_of_not_watched? {watcher : Watcher}
    (unwatched : watcher.watched? = none) (env : Environment) :
    ∃ fault, watcher.watch env = (.failed (.misuse fault), env) := by
  obtain ⟨fault, refused⟩ := exists_fault_of_not_watched? unwatched
  exact ⟨fault, refused env⟩

/-- How a watch ends: in a round that it arrives at, or not at all. -/
theorem watch_cases {watcher : Watcher} {channel : Descriptor}
    (watched : watcher.watched? = some channel) (env : Environment) :
    (∃ count before,
        Arrives watcher channel env count before ∧
          watcher.round channel count before =
            .ended (watcher.watch env).1 (watcher.watch env).2) ∨
      ((watcher.watch env).1 = .blocked ∧
        ∃ count, Arrives watcher channel env count
          (watcher.watch env).2) := by
  rw [watch_of_watched? watched]
  exact rounds_cases _ .first

end Watcher

namespace Motions

variable {watcher : Watcher} {channel : Descriptor}

theorem afterProbe (watcher : Watcher) (notifications : Nat)
    (env : Environment) :
    Motions channel env
      (watcher.afterProbe notifications env).surroundings := by
  have looked := probe channel env watcher.settings.cgroup
  obtain ⟨_, result⟩ | ⟨_, result⟩ :=
    watcher.afterProbe_cases notifications env
  · rw [result]
    exact looked
  · rw [result]
    exact looked.note _

/-- The part of a round in which a record is delivered. -/
theorem reporting {env waited after delivered : Environment} {counter : UInt64}
    {outcome : Except SystemError Unit}
    (wait : Channel.wait channel watcher.cancel
      watcher.settings.probeInterval env = (.done .notified, waited))
    (read : Channel.read channel waited = (.done counter, after))
    (deliver :
      (after.note (.notified watcher.settings.cgroup counter)).deliver
        (some channel) (Record.encode watcher.settings.format
          watcher.settings.cgroup counter) = (outcome, delivered)) :
    Motions channel env (delivered.record (.delivered counter outcome)) := by
  have waiting := Motions.wait channel watcher.cancel
    watcher.settings.probeInterval env
  have reading := Motions.read channel waited
  have delivering := Motions.deliver channel
    (after.note (.notified watcher.settings.cgroup counter))
    (Record.encode watcher.settings.format watcher.settings.cgroup counter)
  rw [wait] at waiting
  rw [read] at reading
  rw [deliver] at delivering
  have told : Motions channel env
      (after.note (.notified watcher.settings.cgroup counter)) :=
    note (waiting.trans reading) _
  exact record (told.trans delivering) rfl

theorem round (watcher : Watcher) (channel : Descriptor)
    (notifications : Nat) (env : Environment) :
    Motions channel env
      (watcher.round channel notifications env).surroundings := by
  have waiting := wait channel watcher.cancel watcher.settings.probeInterval env
  have turn := watcher.turn_round channel notifications env
  generalize watcher.round channel notifications env = result at turn
  cases turn with
  | waitBlocked wait | waitFailed wait =>
      rw [wait] at waiting
      exact waiting
  | cancelled wait =>
      rw [wait] at waiting
      exact waiting.note _
  | timedOut wait =>
      rw [wait] at waiting
      exact waiting.trans (afterProbe watcher notifications _)
  | @readBlocked waited _ wait read | @readFailed waited _ _ wait read =>
      have reading := Motions.read channel waited
      rw [wait] at waiting
      rw [read] at reading
      exact waiting.trans reading
  | refused wait read deliver => exact reporting wait read deliver
  | reported wait read deliver =>
      exact (reporting wait read deliver).trans (afterProbe watcher _ _)

theorem arrives {start env : Environment} {notifications : Nat}
    (arrived : watcher.Arrives channel start notifications env) :
    Motions channel start env := by
  induction arrived with
  | first => exact ReflTransGen.refl
  | @next notifications _ env _ _ result ih =>
      have further := round watcher channel notifications env
      rw [result] at further
      exact ih.trans further

theorem watch {watcher : Watcher} {channel : Descriptor}
    (watched : watcher.watched? = some channel) (env : Environment) :
    Motions channel env (watcher.watch env).2 := by
  obtain ⟨count, before, arrived, result⟩ | ⟨_, count, arrived⟩ :=
    watcher.watch_cases watched env
  · have last := round watcher channel count before
    rw [result] at last
    exact (arrives arrived).trans last
  · exact arrives arrived

end Motions

end MemoryWatch
