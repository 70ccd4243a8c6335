import MemoryWatch.Proofs.Output

/-!
# The machine of a watch

A watch waits, or it is over.  A complete round leads from waiting back to
waiting, and the one final round leads to the end: nothing is read, delivered
or looked at after the step that decides the end.  The cgroup counts as removed
when the last probe fails, which is the only one that does.
-/

namespace MemoryWatch

namespace Step

/-- What a probe has found. -/
def finding? : Step → Option Bool
  | probed present => some present
  | opened _ | closed _ | registered _ _ | waited _ _ | read _ | delivered _ _
  | added _ | interrupted => none

/-- Whether a step delivers a record with success. -/
def isReport : Step → Bool
  | delivered _ (.ok ()) => true
  | delivered _ (.error _) | opened _ | closed _ | registered _ _ | waited _ _
  | read _ | probed _ | added _ | interrupted => false

/-- Whether a step shows that the wait of a round was in vain. -/
def isIdling : Step → Bool
  | waited _ (.done .timedOut) => true
  | waited _ (.done .notified) | waited _ (.done .cancelled)
  | waited _ (.failed _) | waited _ .blocked | opened _ | closed _
  | registered _ _ | read _ | delivered _ _ | probed _ | added _
  | interrupted => false

/-- Whether a step leaves a watch nothing more to do.  A read does so unless it
gives a whole counter. -/
def isDecisive : Step → Bool
  | waited _ (.done .cancelled) | waited _ (.failed _) | waited _ .blocked
  | delivered _ (.error _) | probed false => true
  | read answer => (read answer).counter?.isNone
  | waited _ (.done .notified) | waited _ (.done .timedOut)
  | delivered _ (.ok ()) | probed true | opened _ | closed _
  | registered _ _ | added _ | interrupted => false

/-- What the probes among some steps have found. -/
def findings (steps : List Step) : List Bool :=
  steps.filterMap finding?

@[simp]
theorem findings_append (steps more : List Step) :
    findings (steps ++ more) = findings steps ++ findings more :=
  List.filterMap_append

theorem isDecisive_read_of_interpret {channel : Descriptor}
    {given : Answer SystemError (List UInt8)} {counter : UInt64}
    (meaning : Channel.interpret channel given = .done counter) :
    (read given).isDecisive = false := by
  rw [isDecisive, Channel.counter?_of_interpret meaning]
  rfl

theorem isDecisive_read_of_interpret_ne {channel : Descriptor}
    {given : Answer SystemError (List UInt8)}
    {answer : Answer WatchError UInt64}
    (meaning : Channel.interpret channel given = answer)
    (fruitless : ∀ counter, answer ≠ .done counter) :
    (read given).isDecisive = true := by
  rw [← meaning] at fruitless
  rw [isDecisive, Channel.counter?_of_interpret_ne fruitless]
  rfl

end Step

/-- The outward steps of a watch that comes to an answer.  Complete rounds leave
it waiting, and only a final round takes it from waiting to the end. -/
inductive MachineRun (channel : Descriptor) (limit : Option Nat) :
    List Step → Answer WatchError Summary → Prop
  | waiting {notifications : Nat} {steps : List Step}
      (rounds : CompleteRounds channel limit notifications steps) :
      MachineRun channel limit steps .blocked
  | terminated {notifications : Nat} {steps last : List Step}
      {answer : Answer WatchError Summary}
      (rounds : CompleteRounds channel limit notifications steps)
      (final : FinalRound channel limit notifications last answer) :
      MachineRun channel limit (steps ++ last) answer

section Rounds

variable {channel : Descriptor} {limit : Option Nat} {earlier number : Nat}
  {steps : List Step} {answer : Answer WatchError Summary}

namespace CompleteRound

theorem findings (round : CompleteRound channel limit number steps) :
    Step.findings steps = [true] := by
  cases round <;> rfl

theorem countP_isReport (round : CompleteRound channel limit number steps) :
    steps.countP Step.isReport = number := by
  cases round <;> rfl

theorem limited (round : CompleteRound channel limit number steps)
    {step : Step} (member : step ∈ steps) (idling : step.isIdling = true) :
    limit.isSome = true := by
  cases round with
  | idle limited => exact limited
  | reported meaning =>
      simp only [List.mem_cons, List.not_mem_nil, or_false] at member
      rcases member with rfl | rfl | rfl | rfl <;> cases idling

theorem indecisive (round : CompleteRound channel limit number steps)
    {step : Step} (member : step ∈ steps) : step.isDecisive = false := by
  cases round with
  | idle limited =>
      simp only [List.mem_cons, List.not_mem_nil, or_false] at member
      rcases member with rfl | rfl <;> rfl
  | reported meaning =>
      simp only [List.mem_cons, List.not_mem_nil, or_false] at member
      rcases member with rfl | rfl | rfl | rfl
      · rfl
      · exact Step.isDecisive_read_of_interpret meaning
      · rfl
      · rfl

end CompleteRound

namespace CompleteRounds

/-- In complete rounds every probe finds the cgroup. -/
theorem findings (rounds : CompleteRounds channel limit number steps) :
    ∀ found ∈ Step.findings steps, found = true := by
  induction rounds with
  | none => simp [Step.findings]
  | next rounds round ih =>
      intro found member
      rw [Step.findings_append, round.findings] at member
      rcases List.mem_append.mp member with early | late
      · exact ih found early
      · exact List.mem_singleton.mp late

theorem countP_isReport (rounds : CompleteRounds channel limit number steps) :
    steps.countP Step.isReport = number := by
  induction rounds with
  | none => rfl
  | next rounds round ih =>
      rw [List.countP_append, ih, round.countP_isReport]

theorem limited (rounds : CompleteRounds channel limit number steps)
    {step : Step} (member : step ∈ steps) (idling : step.isIdling = true) :
    limit.isSome = true := by
  induction rounds with
  | none => cases member
  | next rounds round ih =>
      rcases List.mem_append.mp member with early | late
      · exact ih early
      · exact round.limited late idling

theorem indecisive (rounds : CompleteRounds channel limit number steps)
    {step : Step} (member : step ∈ steps) : step.isDecisive = false := by
  induction rounds with
  | none => cases member
  | next rounds round ih =>
      rcases List.mem_append.mp member with early | late
      · exact ih early
      · exact round.indecisive late

end CompleteRounds

namespace FinalRound

/-- A final round probes in vain, and then the watch ends because the cgroup is
gone, or it does not probe. -/
theorem findings_cases (final : FinalRound channel limit earlier steps answer) :
    (Step.findings steps = [false] ∧
        ∃ count, answer = .done ⟨.cgroupRemoved, count⟩) ∨
      (Step.findings steps = [] ∧
        ∀ count, answer ≠ .done ⟨.cgroupRemoved, count⟩) := by
  cases final with
  | removed limited => exact Or.inl ⟨rfl, earlier, rfl⟩
  | reportedRemoved meaning => exact Or.inl ⟨rfl, earlier + 1, rfl⟩
  | cancelled | waitFailed cause | waitBlocked | readFailed meaning
  | readBlocked meaning | refused meaning => exact Or.inr ⟨rfl, by simp⟩

theorem notifications_eq {summary : Summary}
    (final : FinalRound channel limit earlier steps (.done summary)) :
    summary.notifications = earlier + steps.countP Step.isReport := by
  cases final <;> rfl

theorem limited (final : FinalRound channel limit earlier steps answer)
    {step : Step} (member : step ∈ steps) (idling : step.isIdling = true) :
    limit.isSome = true := by
  cases final with
  | removed limited => exact limited
  | cancelled | waitFailed cause | waitBlocked | readFailed meaning
  | readBlocked meaning | refused meaning | reportedRemoved meaning =>
      simp only [List.mem_cons, List.not_mem_nil, or_false] at member
      rcases member with rfl | rfl | rfl | rfl <;> cases idling

/-- The last step of a final round decides it, and no other step does. -/
theorem decided (final : FinalRound channel limit earlier steps answer) :
    ∃ before last, steps = before ++ [last] ∧ last.isDecisive = true ∧
      ∀ step ∈ before, step.isDecisive = false := by
  cases final with
  | cancelled | waitFailed cause | waitBlocked =>
      exact ⟨[], _, rfl, rfl, by simp⟩
  | removed limited => exact ⟨[_], _, rfl, rfl, by simp [Step.isDecisive]⟩
  | readFailed meaning | readBlocked meaning =>
      exact ⟨[_], _, rfl,
        Step.isDecisive_read_of_interpret_ne meaning (by simp),
        by simp [Step.isDecisive]⟩
  | refused meaning =>
      have whole := Step.isDecisive_read_of_interpret meaning
      exact ⟨[_, _], _, rfl, rfl, by simpa [Step.isDecisive] using whole⟩
  | reportedRemoved meaning =>
      have whole := Step.isDecisive_read_of_interpret meaning
      exact ⟨[_, _, _], _, rfl, rfl,
        by simpa [Step.isDecisive] using whole⟩

end FinalRound

namespace MachineRun

/-- A watch ends with the cgroup exactly when the last of its probes finds
nothing and all others find the cgroup. -/
theorem removed_iff (run : MachineRun channel limit steps answer) :
    (∃ count, answer = .done ⟨.cgroupRemoved, count⟩) ↔
      ∃ before, Step.findings steps = before ++ [false] ∧
        ∀ found ∈ before, found = true := by
  cases run with
  | waiting rounds =>
      refine ⟨by simp, ?_⟩
      rintro ⟨before, shown, _⟩
      have absent := rounds.findings false (by simp [shown])
      cases absent
  | terminated rounds final =>
      have present := rounds.findings
      rw [Step.findings_append]
      obtain ⟨last, removed⟩ | ⟨none, other⟩ := final.findings_cases
      · rw [last]
        exact iff_of_true removed ⟨_, rfl, present⟩
      · rw [none, List.append_nil]
        refine iff_of_false (fun ⟨count, removed⟩ => other count removed) ?_
        rintro ⟨before, shown, _⟩
        cases present false (by simp [shown])

theorem notifications_eq {summary : Summary}
    (run : MachineRun channel limit steps (.done summary)) :
    summary.notifications = steps.countP Step.isReport := by
  cases run with
  | terminated rounds final =>
      rw [List.countP_append, rounds.countP_isReport, final.notifications_eq]

/-- Nothing happens after the step that decides the end, and nothing before it
decides anything. -/
theorem decided (run : MachineRun channel limit steps answer)
    (returned : answer ≠ .blocked) :
    ∃ before last, steps = before ++ [last] ∧ last.isDecisive = true ∧
      ∀ step ∈ before, step.isDecisive = false := by
  cases run with
  | waiting rounds => exact absurd rfl returned
  | terminated rounds final =>
      obtain ⟨before, last, rfl, decisive, undecided⟩ := final.decided
      refine ⟨_, last, (List.append_assoc _ before [last]).symm, decisive, ?_⟩
      intro step member
      rcases List.mem_append.mp member with early | late
      · exact rounds.indecisive early
      · exact undecided step late

theorem limited (run : MachineRun channel limit steps answer) {step : Step}
    (member : step ∈ steps) (idling : step.isIdling = true) :
    limit.isSome = true := by
  cases run with
  | waiting rounds => exact rounds.limited member idling
  | terminated rounds final =>
      rcases List.mem_append.mp member with early | late
      · exact rounds.limited early idling
      · exact final.limited late idling

end MachineRun

end Rounds

namespace Watcher

variable {watcher : Watcher} {channel : Descriptor} {env : Environment}

/-- A watch past its guards is a run of the machine.  It ends with the cgroup
exactly when the last probe alone finds nothing, counts the records that were
delivered, does nothing after the step that decides the end, and waits in vain
only if there is an interval after which it probes. -/
theorem machineRun_watch (watched : watcher.watched? = some channel) :
    ∃ steps, (watcher.watch env).2.outward = env.outward ++ steps ∧
      MachineRun channel watcher.limit steps (watcher.watch env).1 ∧
      ((∃ count, (watcher.watch env).1 = .done ⟨.cgroupRemoved, count⟩) ↔
        ∃ before, Step.findings steps = before ++ [false] ∧
          ∀ found ∈ before, found = true) ∧
      (∀ summary, (watcher.watch env).1 = .done summary →
        summary.notifications = steps.countP Step.isReport) ∧
      ((watcher.watch env).1 ≠ .blocked →
        ∃ before last, steps = before ++ [last] ∧ last.isDecisive = true ∧
          ∀ step ∈ before, step.isDecisive = false) ∧
      ∀ step ∈ steps, step.isIdling = true →
        watcher.settings.probeInterval.isSome = true := by
  have ran : ∃ steps, (watcher.watch env).2.outward = env.outward ++ steps ∧
      MachineRun channel watcher.limit steps (watcher.watch env).1 := by
    obtain ⟨_, earlier, final, shown, rounds, last⟩ |
      ⟨blocked, _, earlier, shown, rounds⟩ := outward_watch watched env
    · exact ⟨_, by rw [shown, List.append_assoc], .terminated rounds last⟩
    · exact ⟨earlier, shown, blocked ▸ .waiting rounds⟩
  obtain ⟨steps, shown, run⟩ := ran
  refine ⟨steps, shown, run, run.removed_iff, ?_, run.decided, ?_⟩
  · intro summary returned
    rw [returned] at run
    exact run.notifications_eq
  · intro step member idling
    simpa [limit] using run.limited member idling

/-- The watcher looks for the cgroup four times a second. -/
def checkingSample : Watcher :=
  { subscribedSample with
    settings :=
      { cgroup := ⟨[0x2F, 0x67]⟩, probeInterval := some ⟨250000000⟩ } }

/-- After the pending record an interval passes.  Then two more notifications
come together with the removal of the cgroup. -/
def removedSample : Environment :=
  { pendingSample with
    schedule := [[.expire], [.notify 2, .remove ⟨[0x2F, 0x67]⟩]] }

theorem machineRun_watch_removedSample :
    checkingSample.watched? = some 3 ∧
      (checkingSample.watch removedSample).1 = .done ⟨.cgroupRemoved, 2⟩ ∧
      ∃ steps, (checkingSample.watch removedSample).2.outward =
          removedSample.outward ++ steps ∧
        MachineRun 3 (some 250) steps (.done ⟨.cgroupRemoved, 2⟩) ∧
        steps.countP Step.isReport = 2 ∧
        Step.findings steps = [true, true, false] ∧
        steps.countP Step.isIdling = 1 := by
  have watched : checkingSample.watched? = some 3 := rfl
  have ended : (checkingSample.watch removedSample).1 =
      .done ⟨.cgroupRemoved, 2⟩ := by
    decide +kernel
  obtain ⟨steps, shown, run, _, counted, _⟩ :=
    @machineRun_watch checkingSample 3 removedSample watched
  rw [ended] at run
  have taken : (checkingSample.watch removedSample).2.outward = steps := by
    simpa [removedSample, pendingSample, Environment.outward] using shown
  refine ⟨watched, ended, steps, shown, run, (counted _ ended).symm, ?_, ?_⟩
  · rw [← taken]
    decide +kernel
  · rw [← taken]
    decide +kernel

end Watcher

end MemoryWatch
