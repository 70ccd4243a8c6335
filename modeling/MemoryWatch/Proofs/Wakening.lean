import MemoryWatch.Proofs.Ledger
import MemoryWatch.Proofs.Output

/-!
# What wakes a watcher

A wait looks at the channel and at the cancel handle together.  It counts as
cancelled when the handle can be read.  Whatever else there is to tell, of
either of them, counts as a notification; and of a handle that cannot be read
there is something to tell exactly when it is an empty pipe without a writer.
Such a handle wakes a watcher in place of the channel, and then the read of the
channel may wait for ever.

Nothing else does.  Unless such a pipe is behind the handle when a wait begins,
a notification means that the channel has something to tell, however often the
wait is interrupted and whatever files are behind the two descriptors, and the
read after it has an answer.  Nobody outside turns another file into such a
pipe, so what holds for the first wait of a watch holds for all of them.
-/

namespace MemoryWatch

theorem Readiness.any_mk (readable hungUp : Bool) :
    any ⟨readable, hungUp⟩ = (readable || hungUp) :=
  rfl

namespace Host

variable {host : Host} {descriptor : Descriptor}

/-- There is nothing to read behind a descriptor, but the other end is gone. -/
def Disconnected (host : Host) (descriptor : Descriptor) : Prop :=
  host.readiness descriptor = ⟨false, true⟩

instance (host : Host) (descriptor : Descriptor) :
    Decidable (host.Disconnected descriptor) :=
  inferInstanceAs (Decidable (host.readiness descriptor = ⟨false, true⟩))

theorem readiness_of_openFile? {file : OpenFile}
    (opened : host.openFile? descriptor = some file) :
    host.readiness descriptor = .ofContent file.content := by
  rw [readiness, opened]

theorem readiness_congr {other : Descriptor}
    (same : host.position? descriptor = host.position? other) :
    host.readiness descriptor = host.readiness other := by
  rw [readiness, openFile?_congr same, readiness]

theorem Touches.readiness_of_ne {other : Descriptor} {before after : Host}
    (touches : Touches descriptor before after)
    (apart : before.position? descriptor ≠ before.position? other) :
    after.readiness other = before.readiness other := by
  rw [readiness, touches.openFile?_of_ne apart, readiness]

/-- Only an empty pipe without a writer is disconnected. -/
theorem disconnected_iff :
    host.Disconnected descriptor ↔
      ∃ impatient, host.openFile? descriptor =
        some ⟨.pipe [] false, impatient⟩ := by
  rw [Disconnected, readiness]
  rcases host.openFile? descriptor with _ | ⟨content, impatient⟩
  · simp
  cases content with
  | pipe unread hasWriter => cases hasWriter <;> simp [Readiness.ofContent]
  | counter pending | stored unread | directory | endpoint location
  | device device access => simp [Readiness.ofContent]

theorem not_disconnected_of_pending {pending : UInt64}
    (counted : host.pending? descriptor = some pending) :
    ¬ host.Disconnected descriptor := by
  rw [Disconnected, Channel.readiness_of_pending counted]
  simp

/-- A read waits for ever exactly when the file is not ready and never fails
instead of waiting. -/
theorem read_eq_blocked_iff :
    (host.read descriptor).1 = .blocked ↔
      (host.readiness descriptor).any = false ∧
        ∃ content, host.openFile? descriptor = some ⟨content, false⟩ := by
  rw [read, readiness]
  rcases host.openFile? descriptor with _ | ⟨content, impatient⟩
  · simp
  cases content with
  | counter pending =>
      by_cases empty : pending = 0 <;> cases impatient <;>
        simp [empty, Readiness.ofContent, Readiness.any]
  | pipe unread hasWriter =>
      by_cases empty : unread = [] <;> cases hasWriter <;>
        cases impatient <;>
        simp [empty, Readiness.ofContent, Readiness.any]
  | stored unread | directory | endpoint location =>
      simp [Readiness.ofContent, Readiness.any]
  | device device access =>
      cases device <;> cases access <;>
        simp [Readiness.ofContent, Readiness.any]

/-- A write neither makes a disconnected file nor changes one. -/
theorem disconnected_write (host : Host) (descriptor other : Descriptor)
    (bytes : List UInt8) :
    (host.write descriptor bytes).2.Disconnected other ↔
      host.Disconnected other := by
  rw [disconnected_iff, disconnected_iff]
  obtain same | ⟨_, _, _, before, after⟩ :=
    host.openFile?_write descriptor other bytes
  · rw [same]
  · rw [before, after]
    simp

end Host

namespace Environment

theorem disconnected_act (env : Environment)
    (channel handle : Descriptor) (action : Action) :
    (env.act (some channel) action).2.host.Disconnected handle ↔
      env.host.Disconnected handle := by
  obtain ⟨count, acted⟩ | ⟨other, log, _, acted⟩ | ⟨tree, allowance, acted⟩ :=
    env.act_cases channel action
  · rw [acted, add_snd]
    exact Host.disconnected_write env.host channel handle _
  · rw [acted, fire_snd]
    exact Host.disconnected_write env.host other handle _
  · rw [acted]
    exact Iff.rfl

theorem isSteady_disconnected (channel handle : Descriptor) :
    IsSteady channel fun env => env.host.Disconnected handle where
  act env action := propext (env.disconnected_act channel handle action)
  schedule _ _ := rfl
  interrupted _ := rfl

end Environment

namespace Channel

variable {channel : Descriptor} {cancel : Option Descriptor}
  {timeout : Option Duration} {env after : Environment}

theorem glance_eq_notified_iff :
    glance channel cancel env = some .notified ↔
      (∀ handle, cancel = some handle →
        (env.host.readiness handle).readable = false) ∧
      ((env.host.readiness channel).any = true ∨
        ∃ handle, cancel = some handle ∧ env.host.Disconnected handle) := by
  cases cancel with
  | none => simp [glance, Readiness.any_mk]
  | some handle =>
      rcases told : env.host.readiness handle with ⟨_ | _, _ | _⟩ <;>
        simp [glance, Host.Disconnected, told, Readiness.any_mk]

theorem glance_of_disconnected {handle : Descriptor}
    (through : cancel = some handle)
    (disconnected : env.host.Disconnected handle) :
    glance channel cancel env = some .notified := by
  refine glance_eq_notified_iff.mpr ⟨?_, Or.inr ⟨handle, through,
    disconnected⟩⟩
  rintro other told
  cases through.symm.trans told
  rw [disconnected]

/-- The cancel handle wakes a wait that begins now, though the channel has
nothing to tell. -/
structure Misled (channel : Descriptor) (cancel : Option Descriptor)
    (env : Environment) : Prop where
  able : ¬isBarred cancel env
  unready : (env.host.readiness channel).any = false
  disconnected : ∃ handle, cancel = some handle ∧
    env.host.Disconnected handle

theorem wait_of_misled (misled : Misled channel cancel env)
    (timeout : Option Duration) :
    wait channel cancel timeout env =
      (.done .notified, env.record
        (.waited (timeout.map Duration.waitMilliseconds)
          (.done .notified))) := by
  obtain ⟨handle, through, disconnected⟩ := misled.disconnected
  apply wait_of_listen
  rw [listen, if_neg misled.able, glance_of_disconnected through disconnected]

/-- A wait that is not misled at its beginning is notified by the channel. -/
theorem ready_of_wait (sound : ¬ Misled channel cancel env)
    (ended : wait channel cancel timeout env = (.done .notified, after)) :
    (after.host.readiness channel).any = true := by
  obtain ⟨heard, able, hears, rfl⟩ := hears_of_wait ended
  show (heard.host.readiness channel).any = true
  cases hears with
  | seen count within quiet shown =>
      obtain ⟨_, ready | ⟨handle, through, disconnected⟩⟩ :=
        glance_eq_notified_iff.mp shown
      · exact ready
      -- The handle was disconnected all the time, so it was the first look that
      -- has ended the wait.
      have begun : env.host.Disconnected handle := by
        have steady := Environment.isSteady_disconnected channel handle
        rwa [← (steady.lasts _).elapse rfl count]
      have atOnce : count = 0 := by
        by_contra later
        have silent := quiet 0 (Nat.pos_of_ne_zero later)
        rw [elapse, glance_of_disconnected through begun] at silent
        cases silent
      subst atOnce
      by_contra unready
      exact sound ⟨able, Bool.not_eq_true _ ▸ unready, handle, through, begun⟩

theorem ready_iff_not_misled :
    (∀ after, wait channel cancel timeout env = (.done .notified, after) →
        (after.host.readiness channel).any = true) ↔
      ¬ Misled channel cancel env := by
  constructor
  · intro ready misled
    have told := ready _ (wait_of_misled misled timeout)
    exact Bool.false_ne_true (misled.unready.symm.trans told)
  · intro sound after ended
    exact ready_of_wait sound ended

theorem fst_read (channel : Descriptor) (env : Environment) :
    (read channel env).1 = interpret channel (env.host.read channel).1 := by
  obtain ⟨trace, fetched⟩ := fetch_eq channel env
  rw [read_eq, fetched]

theorem ne_blocked_of_interpret {given : Answer SystemError (List UInt8)}
    {answer : Answer WatchError UInt64}
    (meaning : interpret channel given = answer)
    (answered : answer ≠ .blocked) : given ≠ .blocked := by
  rintro rfl
  exact answered meaning.symm

/-- A read of a channel that has something to tell gives a counter, or an error
that names the channel. -/
theorem read_of_ready (ready : (env.host.readiness channel).any = true) :
    (∃ counter, (read channel env).1 = .done counter) ∨
      ∃ reason, (read channel env).1 =
        .failed (.channelRead channel reason) := by
  have answered : (env.host.read channel).1 ≠ .blocked := by
    intro blocked
    have unready := (Host.read_eq_blocked_iff.mp blocked).1
    exact Bool.false_ne_true (unready.symm.trans ready)
  rw [fst_read]
  generalize (env.host.read channel).1 = given at answered
  cases given with
  | done bytes =>
      rw [interpret]
      cases decode bytes with
      | ok counter => exact Or.inl ⟨counter, rfl⟩
      | error reason => exact Or.inr ⟨reason, rfl⟩
  | failed cause => exact Or.inr ⟨.failed cause, rfl⟩
  | blocked => exact absurd rfl answered

/-- If the cancel handle is disconnected, then so is the channel, which is the
same open file. -/
def Reliable (channel : Descriptor) (cancel : Option Descriptor)
    (host : Host) : Prop :=
  ∀ handle, cancel = some handle → host.Disconnected handle →
    host.position? channel = host.position? handle

namespace Reliable

/-- A handle that is still a counter can do no harm. -/
theorem of_counters {host : Host}
    (counters : ∀ handle, cancel = some handle →
      (host.pending? handle).isSome = true) : Reliable channel cancel host := by
  intro handle through disconnected
  obtain ⟨pending, counted⟩ := Option.isSome_iff_exists.mp
    (counters handle through)
  exact absurd disconnected (Host.not_disconnected_of_pending counted)

theorem not_misled (reliable : Reliable channel cancel env.host) :
    ¬ Misled channel cancel env := by
  rintro ⟨_, unready, handle, through, disconnected⟩
  rw [Host.readiness_congr (reliable handle through disconnected),
    disconnected] at unready
  cases unready

/-- A read of the channel disconnects no other file than the channel. -/
theorem motions (reliable : Reliable channel cancel env.host)
    (moved : Motions channel env after) :
    Reliable channel cancel after.host := by
  induction moved with
  | refl => exact reliable
  | @tail between next _ motion ih =>
      have stays := Environment.Stays.motions (.single motion)
      intro handle through disconnected
      rw [stays.position, stays.position]
      by_contra apart
      refine apart (ih handle through ?_)
      cases motion with
      | act action =>
          exact (between.disconnected_act channel handle action).mp disconnected
      | read =>
          have touches := Host.touches_read between.host channel
          exact (touches.readiness_of_ne apart).symm.trans disconnected
      | tell step idle => exact disconnected
      | turn _ host _ _ => rwa [host] at disconnected

end Reliable

end Channel

section Rounds

variable {channel : Descriptor} {limit : Option Nat} {number : Nat}
  {steps : List Step} {answer : Answer WatchError Summary}

theorem CompleteRound.answered
    (round : CompleteRound channel limit number steps) :
    .read .blocked ∉ steps := by
  cases round with
  | idle limited => simp
  | reported meaning =>
      simpa using (Channel.ne_blocked_of_interpret meaning (by simp)).symm

theorem CompleteRounds.answered
    (rounds : CompleteRounds channel limit number steps) :
    .read .blocked ∉ steps := by
  induction rounds with
  | none => simp
  | next rounds round ih =>
      rw [List.mem_append, not_or]
      exact ⟨ih, round.answered⟩

/-- A read without an answer is the last step of a watch that does not end. -/
theorem FinalRound.eq_of_unanswered
    (final : FinalRound channel limit number steps answer)
    (unanswered : .read .blocked ∈ steps) :
    steps = [.waited limit (.done .notified), .read .blocked] ∧
      answer = .blocked := by
  cases final with
  | @readBlocked given meaning =>
      obtain rfl : Answer.blocked = given := by simpa using unanswered
      exact ⟨rfl, rfl⟩
  | reportedRemoved meaning | readFailed meaning | refused meaning =>
      have answered := Channel.ne_blocked_of_interpret meaning (by simp)
      exact absurd unanswered (by simpa using answered.symm)
  | cancelled | removed limited | waitFailed cause | waitBlocked =>
      simp at unanswered

end Rounds

namespace Watcher

open Channel

variable {watcher : Watcher} {channel : Descriptor} {env after : Environment}

theorem afterProbe_ne_blocked (watcher : Watcher) (number : Nat)
    (env after : Environment) :
    watcher.afterProbe number env ≠ .ended .blocked after := by
  obtain ⟨_, probed⟩ | ⟨_, probed⟩ := watcher.afterProbe_cases number env <;>
    simp [probed]

/-- In a round that the handle does not mislead every read has an answer. -/
theorem answered_of_round {number : Nat} {steps : List Step}
    {answer : Answer WatchError Summary}
    (sound : ¬ Misled channel watcher.cancel env)
    (result : watcher.round channel number env = .ended answer after)
    (shown : after.outward = env.outward ++ steps)
    (final : FinalRound channel watcher.limit number steps answer) :
    .read .blocked ∉ steps := by
  intro unanswered
  obtain ⟨rfl, rfl⟩ := final.eq_of_unanswered unanswered
  have turn := watcher.turn_round channel number env
  rw [result] at turn
  generalize told : Round.ended .blocked after = ending at turn
  cases turn with
  | waitBlocked wait =>
      cases told
      obtain ⟨heard, _, alone⟩ := Channel.outward_of_wait wait
      simp [alone] at shown
  | readBlocked wait read =>
      obtain ⟨_, counted⟩ | ⟨_, failed⟩ :=
        read_of_ready (ready_of_wait sound wait)
      · simp [read] at counted
      · simp [read] at failed
  | timedOut wait | reported wait read deliver =>
      exact afterProbe_ne_blocked _ _ _ _ told.symm
  | waitFailed wait | cancelled wait | readFailed wait read
  | refused wait read deliver => cases told

/-- In a watch whose channel is reliable every read has an answer. -/
theorem answered_watch (watched : watcher.watched? = some channel)
    (reliable : Reliable channel watcher.cancel env.host) :
    ∃ steps, (watcher.watch env).2.outward = env.outward ++ steps ∧
      .read .blocked ∉ steps := by
  obtain ⟨count, before, arrived, result⟩ | ⟨_, count, arrived⟩ :=
    watcher.watch_cases watched env
  · obtain ⟨earlier, shown, rounds⟩ := completeRounds_of_arrives arrived
    obtain ⟨final, further, left⟩ := watcher.leaves_round channel count before
    have sound := (reliable.motions (.arrives arrived)).not_misled
    rw [result] at further left
    refine ⟨earlier ++ final, ?_, ?_⟩
    · rw [← List.append_assoc]
      exact further.trans (by rw [shown])
    · rw [List.mem_append, not_or]
      exact ⟨rounds.answered, answered_of_round sound result further left⟩
  · obtain ⟨earlier, shown, rounds⟩ := completeRounds_of_arrives arrived
    exact ⟨earlier, shown, rounds.answered⟩

/-- A watch that is misled at its beginning reads in vain, and whatever is
scheduled never happens. -/
theorem watch_of_misled (watched : watcher.watched? = some channel)
    (misled : Misled channel watcher.cancel env) {content : OpenContent}
    (opened : env.host.openFile? channel = some ⟨content, false⟩) :
    (watcher.watch env).1 = .blocked ∧
      (watcher.watch env).2.outward = env.outward ++
        [.waited watcher.limit (.done .notified), .read .blocked] := by
  have waited := wait_of_misled misled watcher.settings.probeInterval
  have blocked : (env.host.read channel).1 = .blocked :=
    Host.read_eq_blocked_iff.mpr ⟨misled.unready, content, opened⟩
  generalize moment : env.record (.waited (watcher.settings.probeInterval.map
    Duration.waitMilliseconds) (.done .notified)) = settled at waited
  have same : settled.host = env.host := by rw [← moment]; rfl
  have given : (fetch channel settled).1 = .blocked := by
    obtain ⟨trace, fetched⟩ := fetch_eq channel settled
    rw [fetched, same, blocked]
  have ended : watcher.round channel 0 env =
      .ended .blocked (fetch channel settled).2 := by
    rw [round, waited]
    simp only [report, read_eq, given, interpret]
  have whole : watcher.watch env = (.blocked, (fetch channel settled).2) := by
    rw [watch_of_watched? watched, patience, rounds, ended]
  refine ⟨by rw [whole], ?_⟩
  rw [whole]
  dsimp only
  rw [outward_fetch, given, ← moment, Environment.outward_record _ rfl,
    List.append_assoc]
  rfl

/-- A wait that ends as notified has seen that the channel is ready, unless the
handle misleads it at its beginning.  Then the handle cannot be read, and the
read after the wait gives a counter, which is the sum if the channel is a
counter, or an error that names the channel.  In a watch that begins while the
channel is reliable no read waits for ever.  A handle that is a counter makes
the channel reliable and misleads nobody. -/
theorem notified_by_channel (channel : Descriptor)
    (cancel : Option Descriptor) (timeout : Option Duration)
    (env : Environment) :
    ((∀ after, wait channel cancel timeout env = (.done .notified, after) →
          (after.host.readiness channel).any = true) ↔
        ¬ Misled channel cancel env) ∧
      (¬ Misled channel cancel env → ∀ after,
        wait channel cancel timeout env = (.done .notified, after) →
          (∀ handle, cancel = some handle →
            (after.host.readiness handle).readable = false) ∧
          ((∃ counter, (read channel after).1 = .done counter) ∨
            ∃ reason, (read channel after).1 =
              .failed (.channelRead channel reason)) ∧
          ∀ sum, after.host.pending? channel = some sum →
            sum ≠ 0 ∧ (read channel after).1 = .done sum) ∧
      (∀ watcher : Watcher, watcher.watched? = some channel →
        watcher.cancel = cancel → Reliable channel cancel env.host →
          ∃ steps, (watcher.watch env).2.outward = env.outward ++ steps ∧
            .read .blocked ∉ steps) ∧
      ((∀ handle, cancel = some handle →
          (env.host.pending? handle).isSome = true) →
        Reliable channel cancel env.host ∧ ¬ Misled channel cancel env) := by
  refine ⟨ready_iff_not_misled, ?_, ?_, ?_⟩
  · intro sound after ended
    have ready := ready_of_wait sound ended
    have unread := (glance_eq_notified_iff.mp (glance_of_wait ended)).1
    refine ⟨unread, read_of_ready ready, ?_⟩
    intro sum counted
    have filled : sum ≠ 0 := by
      rintro rfl
      rw [readiness_of_pending counted] at ready
      cases ready
    refine ⟨filled, ?_⟩
    rw [read_eq, fetch_of_pending counted filled, interpret_toBytes]
  · rintro watcher watched rfl reliable
    exact answered_watch watched reliable
  · intro counters
    have reliable : Reliable channel cancel env.host := .of_counters counters
    exact ⟨reliable, reliable.not_misled⟩

/-- Behind the cancel handle is an empty pipe.  Nothing is pending at first, and
two notifications come after an interruption. -/
def pipeSample (hasWriter : Bool) : Environment :=
  { pendingSample with
    host := (pendingSample.host.read 3).2.substitute 5
      { content := .pipe [] hasWriter }
    schedule := [[.interrupt], [.notify 2]] }

/-- While the pipe has a writer, the wait goes on until the notifications
come. -/
theorem notified_by_channel_pipeSample :
    ¬ Misled 3 (some 5) (pipeSample true) ∧
      Reliable 3 (some 5) (pipeSample true).host ∧
      (read 3 (wait 3 (some 5) none (pipeSample true)).2).1 = .done 2 ∧
      ∃ steps, (subscribedSample.watch (pipeSample true)).2.outward =
          (pipeSample true).outward ++ steps ∧
        .read .blocked ∉ steps := by
  have reliable : Reliable 3 (some 5) (pipeSample true).host := by
    rintro _ ⟨⟩ disconnected
    exact absurd disconnected (by decide)
  obtain ⟨_, answered, watches, _⟩ :=
    notified_by_channel 3 (some 5) none (pipeSample true)
  obtain ⟨_, _, counted⟩ := answered reliable.not_misled _
    (Prod.ext rfl rfl : wait 3 (some 5) none (pipeSample true) =
      (.done .notified, (wait 3 (some 5) none (pipeSample true)).2))
  exact ⟨reliable.not_misled, reliable, (counted 2 (by decide)).2,
    watches subscribedSample rfl rfl reliable⟩

/-- Without a writer the pipe passes for a notification.  A wait without any
time is notified, and a watch reads a channel with nothing pending, before
anything that is scheduled happens. -/
theorem not_notified_by_channel_pipeSample :
    (wait 3 (some 5) (some ⟨0⟩) (pipeSample false)).1 = .done .notified ∧
      (wait 3 (some 5) (some ⟨0⟩) (pipeSample false)).2.host.readiness 3 =
        ⟨false, false⟩ ∧
      (read 3 (wait 3 (some 5) (some ⟨0⟩) (pipeSample false)).2).1 =
        .blocked ∧
      (subscribedSample.watch (pipeSample false)).1 = .blocked ∧
      (subscribedSample.watch (pipeSample false)).2.outward =
        (pipeSample false).outward ++
          [.waited none (.done .notified), .read .blocked] := by
  have misled : Misled 3 (some 5) (pipeSample false) :=
    ⟨by decide, by decide, 5, rfl, by decide⟩
  obtain ⟨blocked, shown⟩ :=
    @watch_of_misled subscribedSample 3 _ rfl misled _ rfl
  exact ⟨rfl, by decide, rfl, blocked, shown⟩

end Watcher

end MemoryWatch
