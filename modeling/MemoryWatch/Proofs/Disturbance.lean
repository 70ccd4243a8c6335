import MemoryWatch.Proofs.Account
import MemoryWatch.Proofs.Reaction

/-!
# Disturbances do not show

A call of a watch may be interrupted, which is repeated; and a wait may time out
although the cgroup is still there, after which the watch waits again.  Such
disturbances can come anywhere in a watch, and any number of times.  They change
how many calls are made, and nothing else: a watch with them and a watch without
them come to the same answer, give the sink the same bytes, and leave the same
in the channel.

The answers of the system are compared in the machine of `Watcher.react`, and
the calls of the sink by the scripts that answer them.
-/

namespace MemoryWatch

def WriteAnswer.isInterruption : WriteAnswer → Bool
  | fail cause => cause.isInterruption
  | accept _ | acceptAll | claim _ => false

/-- Whether a call is a write call that was interrupted. -/
def SinkCall.isInterrupted : SinkCall → Bool
  | write _ answer => answer.isInterruption
  | flush _ => false

namespace Sink

/-- A script without its interruptions. -/
def uninterrupted (script : List WriteAnswer) : List WriteAnswer :=
  script.filter fun answer => !answer.isInterruption

theorem uninterrupted_cons_of_interruption {answer : WriteAnswer}
    (interruption : answer.isInterruption = true) (script : List WriteAnswer) :
    uninterrupted (answer :: script) = uninterrupted script :=
  List.filter_cons_of_neg (by simp [interruption])

theorem uninterrupted_cons {answer : WriteAnswer}
    (plain : answer.isInterruption = false) (script : List WriteAnswer) :
    uninterrupted (answer :: script) = answer :: uninterrupted script :=
  List.filter_cons_of_pos (by simp [plain])

/-- Some calls without those that were interrupted. -/
def completed (calls : List SinkCall) : List SinkCall :=
  calls.filter fun call => !call.isInterrupted

theorem completed_cons_of_interruption {call : SinkCall}
    (interrupted : call.isInterrupted = true) (calls : List SinkCall) :
    completed (call :: calls) = completed calls :=
  List.filter_cons_of_neg (by simp [interrupted])

theorem completed_cons {call : SinkCall} (plain : call.isInterrupted = false)
    (calls : List SinkCall) :
    completed (call :: calls) = call :: completed calls :=
  List.filter_cons_of_pos (by simp [plain])

/-- Interrupted calls take nothing. -/
theorem received_completed (calls : List SinkCall) :
    received (completed calls) = received calls := by
  induction calls with
  | nil => rfl
  | cons call rest ih =>
      cases interrupted : call.isInterrupted with
      | false =>
          rw [completed_cons interrupted, received_cons, ih, received_cons]
      | true =>
          have nothing : call.taken = [] := by
            rcases call with ⟨offered, _ | _ | _ | cause⟩ | answer <;>
              first | rfl | cases interrupted
          rw [completed_cons_of_interruption interrupted, ih, received_cons,
            nothing, List.nil_append]

theorem eq_fail_of_report {answer : WriteAnswer} {offered : List UInt8}
    {cause : SystemError} (reported : answer.report offered = .error cause) :
    answer = .fail cause := by
  cases answer <;> simp_all [WriteAnswer.report]

theorem isInterruption_of_report {answer : WriteAnswer}
    {offered : List UInt8} {count : Nat}
    (reported : answer.report offered = .ok count) :
    answer.isInterruption = false := by
  cases answer <;> simp_all [WriteAnswer.report, WriteAnswer.isInterruption]

/-- A whole write comes to the same without the interruptions of its script: it
ends in the same way, with the same calls but for those that are interrupted,
and the same is left of the script. -/
theorem wholeWrite_uninterrupted (script : List WriteAnswer)
    (bytes : List UInt8) :
    (wholeWrite (uninterrupted script) bytes).1 =
        (wholeWrite script bytes).1 ∧
      (wholeWrite (uninterrupted script) bytes).2 =
        completed (wholeWrite script bytes).2 ∧
      (uninterrupted script).drop
          (wholeWrite (uninterrupted script) bytes).2.length =
        uninterrupted (script.drop (wholeWrite script bytes).2.length) := by
  -- Along the calls: only an interruption has no call to compare it with.
  fun_induction wholeWrite script bytes with
  | case1 script => simp [wholeWrite, completed]
  | case2 bytes filled =>
      have shown : wholeWrite [] bytes =
          (.ok (), [.write bytes .acceptAll]) := by
        rw [wholeWrite]
        exact filled
      rw [show uninterrupted [] = [] from rfl, shown]
      exact ⟨rfl, rfl, rfl⟩
  | case3 answer script bytes filled call cause reported interruption outcome
      calls equation ih =>
      have interrupted : call.isInterrupted = true := by
        simp only [call, SinkCall.isInterrupted, eq_fail_of_report reported]
        exact interruption
      rw [equation] at ih
      rw [uninterrupted_cons_of_interruption interrupted,
        completed_cons_of_interruption interrupted]
      exact ih
  | case4 answer script bytes filled call cause reported plain =>
      have kept : call.isInterrupted = false := by
        simp only [call, SinkCall.isInterrupted, eq_fail_of_report reported]
        exact eq_false_of_ne_true plain
      have shown : wholeWrite (answer :: uninterrupted script) bytes =
          (.error cause, [call]) := by
        rw [wholeWrite, reported]
        · simp [plain, call]
        · exact filled
      rw [uninterrupted_cons kept, shown, completed_cons kept]
      exact ⟨rfl, rfl, rfl⟩
  | case5 answer script bytes filled call reported =>
      have kept : call.isInterrupted = false :=
        isInterruption_of_report reported
      have shown : wholeWrite (answer :: uninterrupted script) bytes =
          (.error .wroteNothing, [call]) := by
        rw [wholeWrite, reported]
        · rfl
        · exact filled
      rw [uninterrupted_cons kept, shown, completed_cons kept]
      exact ⟨rfl, rfl, rfl⟩
  | case6 answer script bytes filled call count positive reported outcome calls
      equation ih =>
      have kept : call.isInterrupted = false :=
        isInterruption_of_report reported
      rw [equation] at ih
      have shown : wholeWrite (answer :: uninterrupted script) bytes =
          ((wholeWrite (uninterrupted script) (bytes.drop count)).1,
            call ::
              (wholeWrite (uninterrupted script) (bytes.drop count)).2) := by
        rw [wholeWrite, reported]
        · cases count with
          | zero => exact absurd rfl positive
          | succ count => rfl
        · exact filled
      rw [uninterrupted_cons kept, shown, completed_cons kept]
      simpa using ih

/-- Scripts that are the same without their interruptions make whole writes come
to the same. -/
theorem wholeWrite_congr {script other : List WriteAnswer}
    (same : uninterrupted script = uninterrupted other) (bytes : List UInt8) :
    (wholeWrite script bytes).1 = (wholeWrite other bytes).1 ∧
      completed (wholeWrite script bytes).2 =
        completed (wholeWrite other bytes).2 ∧
      uninterrupted (script.drop (wholeWrite script bytes).2.length) =
        uninterrupted (other.drop (wholeWrite other bytes).2.length) := by
  obtain ⟨outcome, calls, left⟩ := wholeWrite_uninterrupted script bytes
  obtain ⟨otherOutcome, otherCalls, otherLeft⟩ :=
    wholeWrite_uninterrupted other bytes
  rw [same] at outcome calls left
  exact ⟨outcome.symm.trans otherOutcome, calls.symm.trans otherCalls,
    left.symm.trans otherLeft⟩

/-- Two sinks that have received the same and will answer alike, but for
interruptions of write calls. -/
structure Alike (first second : Sink) : Prop where
  received : received first.calls = received second.calls
  flushCount : flushCount first.calls = flushCount second.calls
  writes : uninterrupted first.writes = uninterrupted second.writes
  flushes : first.flushes = second.flushes

namespace Alike

variable {first second third : Sink}

theorem flushCount_wholeWrite (script : List WriteAnswer)
    (bytes : List UInt8) :
    Sink.flushCount (wholeWrite script bytes).2 = 0 := by
  rw [Sink.flushCount, List.countP_eq_zero]
  intro call member
  simp [isWrite_of_mem_wholeWrite member]

theorem writeAll (alike : first.Alike second) (bytes : List UInt8) :
    (first.writeAll bytes).1 = (second.writeAll bytes).1 ∧
      (first.writeAll bytes).2.Alike (second.writeAll bytes).2 := by
  obtain ⟨outcome, calls, left⟩ := wholeWrite_congr alike.writes bytes
  refine ⟨outcome, ?_, ?_, left, alike.flushes⟩
  · simp only [Sink.writeAll, received_append]
    rw [alike.received, ← received_completed (wholeWrite first.writes bytes).2,
      calls, received_completed]
  · have counted := alike.flushCount
    have none := flushCount_wholeWrite first.writes bytes
    have otherNone := flushCount_wholeWrite second.writes bytes
    rw [Sink.flushCount] at none otherNone
    simp only [Sink.writeAll, Sink.flushCount, List.countP_append, none,
      otherNone] at counted ⊢
    exact counted

theorem flush (alike : first.Alike second) :
    first.flush.1 = second.flush.1 ∧
      first.flush.2.2.Alike second.flush.2.2 := by
  have next : first.nextFlush = second.nextFlush := by
    rw [nextFlush, nextFlush, alike.flushes]
  refine ⟨?_, ?_, ?_, alike.writes, ?_⟩
  · simp only [Sink.flush, next]
  · simp only [Sink.flush, received_append, next, alike.received]
  · have counted := alike.flushCount
    simp only [Sink.flush, Sink.flushCount, List.countP_append, next]
      at counted ⊢
    rw [counted]
  · exact congrArg List.tail alike.flushes

theorem deliver (alike : first.Alike second) (record : List UInt8) :
    (first.deliver record).1 = (second.deliver record).1 ∧
      (first.deliver record).2.2.Alike (second.deliver record).2.2 := by
  obtain ⟨outcome, written⟩ := alike.writeAll record
  simp only [Sink.deliver]
  generalize first.writeAll record = one, second.writeAll record = two
    at outcome written ⊢
  obtain ⟨answer, sink⟩ := one
  obtain ⟨_, otherSink⟩ := two
  cases outcome
  cases answer with
  | error cause => exact ⟨rfl, written⟩
  | ok done => exact written.flush

end Alike

end Sink

namespace Reaction

/-- Two watches stand at the same place, and their sinks are alike. -/
structure Alike (first second : Reaction) : Prop where
  stage : first.stage = second.stage
  notifications : first.notifications = second.notifications
  sink : first.sink.Alike second.sink

namespace Alike

variable {first second next : Reaction}

theorem start {sink other : Sink} (alike : sink.Alike other) :
    (Reaction.start sink).Alike (.start other) :=
  ⟨rfl, rfl, alike⟩

theorem move (alike : first.Alike second) (stage : Stage) :
    Alike { first with stage } { second with stage } :=
  ⟨rfl, alike.notifications, alike.sink⟩

theorem heard (alike : first.Alike second) {channel : Descriptor}
    {limit : Option Nat} {answer : Answer SystemError Wake}
    (heard : first.heard channel limit answer = some next) :
    ∃ other, second.heard channel limit answer = some other ∧
      next.Alike other := by
  cases answer with
  | blocked | failed cause =>
      cases heard
      exact ⟨_, rfl, alike.move _⟩
  | done wake =>
      cases wake with
      | notified =>
          cases heard
          exact ⟨_, rfl, alike.move _⟩
      | cancelled =>
          cases heard
          refine ⟨_, rfl, ?_⟩
          rw [alike.notifications]
          exact alike.move _
      | timedOut =>
          rw [Reaction.heard] at heard ⊢
          split at heard
          · next limited =>
              cases heard
              exact ⟨_, if_pos limited, alike.move _⟩
          · cases heard

theorem delivered (alike : first.Alike second) {record : List UInt8} :
    (first.delivered (first.sink.deliver record)).Alike
      (second.delivered (second.sink.deliver record)) := by
  obtain ⟨outcome, sinks⟩ := alike.sink.deliver record
  generalize first.sink.deliver record = one,
    second.sink.deliver record = two at outcome sinks ⊢
  obtain ⟨answer, _, sink⟩ := one
  obtain ⟨_, _, otherSink⟩ := two
  cases outcome
  cases answer with
  | error cause => exact ⟨rfl, alike.notifications, sinks⟩
  | ok done =>
      exact ⟨rfl, congrArg (· + 1) alike.notifications, sinks⟩

theorem taken (alike : first.Alike second) (watcher : Watcher)
    (channel : Descriptor) (answer : Answer SystemError (List UInt8)) :
    (watcher.taken channel first answer).Alike
      (watcher.taken channel second answer) := by
  rw [Watcher.taken, Watcher.taken]
  cases Channel.interpret channel answer with
  | blocked | failed error => exact alike.move _
  | done counter => exact alike.delivered

theorem looked (alike : first.Alike second) (present : Bool) :
    (first.looked present).Alike (second.looked present) := by
  cases present with
  | true => exact alike.move _
  | false =>
      simp only [Reaction.looked, Bool.false_eq_true, if_false]
      rw [alike.notifications]
      exact alike.move _

theorem react (alike : first.Alike second) {watcher : Watcher}
    {channel : Descriptor} {step : Step}
    (reacted : watcher.react channel first step = some next) :
    ∃ other, watcher.react channel second step = some other ∧
      next.Alike other := by
  -- The stage alone decides which answers are taken.
  have same := alike.stage
  rw [Watcher.react.eq_def] at reacted
  split at reacted
  · next stage =>
      cases reacted
      rw [stage] at same
      exact ⟨second, Watcher.react_interrupted (by rw [← same]; rfl), alike⟩
  · next stage =>
      cases reacted
      rw [stage] at same
      exact ⟨second, Watcher.react_interrupted (by rw [← same]; rfl), alike⟩
  · next stage =>
      obtain ⟨other, heard, further⟩ := alike.heard reacted
      exact ⟨other, by rw [Watcher.react_waited (same.symm.trans stage), heard],
        further⟩
  · next stage =>
      cases reacted
      exact ⟨_, Watcher.react_read (same.symm.trans stage) _,
        alike.taken watcher channel _⟩
  · next stage =>
      cases reacted
      exact ⟨_, Watcher.react_probed (same.symm.trans stage) _,
        alike.looked _⟩
  · cases reacted

theorem reacts (alike : first.Alike second) {watcher : Watcher}
    {channel : Descriptor} {answers : List Step}
    (reacted : watcher.reacts channel first answers = some next) :
    ∃ other, watcher.reacts channel second answers = some other ∧
      next.Alike other := by
  induction answers generalizing first second with
  | nil =>
      cases reacted
      exact ⟨second, rfl, alike⟩
  | cons step rest ih =>
      rw [Watcher.reacts_cons] at reacted
      obtain ⟨between, once, later⟩ := Option.bind_eq_some_iff.mp reacted
      obtain ⟨other, otherOnce, between⟩ := alike.react once
      obtain ⟨last, otherLater, further⟩ := ih between later
      exact ⟨last, by rw [Watcher.reacts_cons, otherOnce]; exact otherLater,
        further⟩

end Alike

end Reaction

/-- Whatever is taken from the channel is taken in an answer. -/
theorem Step.removals_answers (steps : List Step) :
    Step.removals (Step.answers steps) = Step.removals steps := by
  induction steps with
  | nil => rfl
  | cons step rest ih =>
      rw [Step.answers, Step.removals] at ih ⊢
      rw [Step.removals] at ih ⊢
      cases answer : step.isAnswer with
      | true => simp [answer, ih]
      | false =>
          have silent : step.removal = 0 := by
            cases step <;> simp_all [Step.isAnswer, Step.removal]
          simp [answer, silent, ih]

/-- The second answers are the first ones with disturbances among them. -/
inductive Disturbed : List Step → List Step → Prop
  | none : Disturbed [] []
  | answer (step : Step) {plain full : List Step}
      (disturbed : Disturbed plain full) :
      Disturbed (step :: plain) (step :: full)
  | interrupted {plain full : List Step} (disturbed : Disturbed plain full) :
      Disturbed plain (.interrupted :: full)
  /-- A wait times out, and the cgroup is found. -/
  | idle (limit : Option Nat) {plain full : List Step}
      (disturbed : Disturbed plain full) :
      Disturbed plain
        (.waited limit (.done .timedOut) :: .probed true :: full)

namespace Disturbed

variable {plain full : List Step}

theorem refl (answers : List Step) : Disturbed answers answers := by
  induction answers with
  | nil => exact .none
  | cons step rest ih => exact .answer step ih

/-- Disturbances take nothing from the channel. -/
theorem removals_eq (disturbed : Disturbed plain full) :
    Step.removals full = Step.removals plain := by
  induction disturbed with
  | none => rfl
  | answer step disturbed ih =>
      simp only [Step.removals, List.map_cons, List.sum_cons] at ih ⊢
      rw [ih]
  | interrupted disturbed ih | idle limit disturbed ih =>
      simpa [Step.removals, Step.removal] using ih

end Disturbed

deriving instance DecidableEq for Step

namespace Step

/-- Some answers without their disturbances. -/
def undisturbed : List Step → List Step
  | .interrupted :: rest => undisturbed rest
  | .waited _ (.done .timedOut) :: .probed true :: rest => undisturbed rest
  | step :: rest => step :: undisturbed rest
  | [] => []

theorem disturbed_undisturbed (answers : List Step) :
    Disturbed (undisturbed answers) answers := by
  fun_induction undisturbed answers with
  | case1 rest ih => exact .interrupted ih
  | case2 limit rest ih => exact .idle limit ih
  | case3 step rest _ _ ih => exact .answer step ih
  | case4 => exact .none

end Step

namespace Watcher

variable {watcher : Watcher} {channel : Descriptor} {now next : Reaction}

theorem eq_of_react_interrupted
    (reacted : watcher.react channel now .interrupted = some next) :
    next = now := by
  rw [react.eq_def] at reacted
  split at reacted <;> simp_all

/-- A wait that times out while the cgroup is there leads back to the wait. -/
theorem reacts_idle (waiting : now.stage = .waiting)
    (limited : watcher.limit.isSome = true) (limit : Option Nat) :
    watcher.reacts channel now
      [.waited limit (.done .timedOut), .probed true] = some now := by
  obtain ⟨stage, notifications, sink⟩ := now
  cases waiting
  rw [reacts_cons, react_waited rfl, Reaction.heard, if_pos limited]
  rfl

/-- Nowhere else does a watch take such answers. -/
theorem eq_of_reacts_idle {limit : Option Nat}
    (reacted : watcher.reacts channel now
      [.waited limit (.done .timedOut), .probed true] = some next) :
    next = now := by
  obtain ⟨stage, notifications, sink⟩ := now
  rw [reacts_cons] at reacted
  obtain ⟨between, waited, probed⟩ := Option.bind_eq_some_iff.mp reacted
  cases stage with
  | waiting =>
      rw [react_waited rfl, Reaction.heard] at waited
      split at waited
      · cases waited
        cases probed
        rfl
      · cases waited
  | reading | probing | finished answer => cases waited

/-- Answers that lead back to where they come can be put in there. -/
theorem reacts_insert {begun : Reaction} {earlier extra : List Step}
    (reached : watcher.reacts channel begun earlier = some now)
    (back : watcher.reacts channel now extra = some now) (later : List Step) :
    watcher.reacts channel begun (earlier ++ (extra ++ later)) =
      watcher.reacts channel begun (earlier ++ later) := by
  rw [reacts_append, reacts_append, reached, Option.bind_some,
    Option.bind_some, reacts_append, back, Option.bind_some]

/-- What a watch does with disturbed answers it does with the plain ones. -/
theorem reacts_plain {plain full : List Step} (disturbed : Disturbed plain full)
    (reacted : watcher.reacts channel now full = some next) :
    watcher.reacts channel now plain = some next := by
  induction disturbed generalizing now with
  | none => exact reacted
  | answer step disturbed ih =>
      rw [reacts_cons] at reacted ⊢
      obtain ⟨between, once, later⟩ := Option.bind_eq_some_iff.mp reacted
      rw [once]
      exact ih later
  | interrupted disturbed ih =>
      rw [reacts_cons] at reacted
      obtain ⟨between, once, later⟩ := Option.bind_eq_some_iff.mp reacted
      rw [eq_of_react_interrupted once] at later
      exact ih later
  | @idle limit plain full disturbed ih =>
      rw [show Step.waited limit (.done .timedOut) :: .probed true :: full =
        [.waited limit (.done .timedOut), .probed true] ++ full from rfl,
        reacts_append] at reacted
      obtain ⟨between, once, later⟩ := Option.bind_eq_some_iff.mp reacted
      rw [eq_of_reacts_idle once] at later
      exact ih later

/-- Two watches that differ in disturbances alone: both have the same answers but
for disturbances, and sinks that are alike. -/
structure Resembles (watcher : Watcher) (first second : Environment)
    (steps more : List Step) : Prop where
  sinks : first.sink.Alike second.sink
  shown : (watcher.watch first).2.trace = first.trace ++ steps
  shownToo : (watcher.watch second).2.trace = second.trace ++ more
  answers : ∃ plain,
    Disturbed plain (Step.answers steps) ∧ Disturbed plain (Step.answers more)

/-- The watch has reacted to just the steps that it has added to the trace. -/
theorem Reacted.reacts_answers {start env : Environment} {steps : List Step}
    (reacted : watcher.Reacted channel start env now)
    (shown : env.trace = start.trace ++ steps) :
    watcher.reacts channel (.start start.sink) (Step.answers steps) =
      some now := by
  obtain ⟨others, told, reacts⟩ := reacted
  rwa [List.append_cancel_left (told.symm.trans shown)] at reacts

namespace Resembles

variable {first second : Environment} {steps more : List Step}

theorem alike (resembles : watcher.Resembles first second steps more)
    (watched : watcher.watched? = some channel) :
    (watcher.watch first).1 = (watcher.watch second).1 ∧
      (watcher.watch first).2.sink.Alike (watcher.watch second).2.sink := by
  obtain ⟨final, reacted, answer, sink⟩ := Reacted.watch watched first
  obtain ⟨last, reactedToo, answerToo, sinkToo⟩ := Reacted.watch watched second
  obtain ⟨plain, disturbed, disturbedToo⟩ := resembles.answers
  -- Both come to their ends by the answers they have in common.
  have quiet := reacts_plain disturbed (reacted.reacts_answers resembles.shown)
  have quietToo :=
    reacts_plain disturbedToo (reactedToo.reacts_answers resembles.shownToo)
  obtain ⟨other, reached, alike⟩ :=
    (Reaction.Alike.start resembles.sinks).reacts quiet
  cases reached.symm.trans quietToo
  rw [← answer, ← answerToo, ← sink, ← sinkToo, alike.stage]
  exact ⟨rfl, alike.sink⟩

theorem removals_eq (resembles : watcher.Resembles first second steps more) :
    Step.removals steps = Step.removals more := by
  obtain ⟨plain, disturbed, disturbedToo⟩ := resembles.answers
  rw [← Step.removals_answers steps, ← Step.removals_answers more,
    disturbed.removals_eq, disturbedToo.removals_eq]

theorem pending?_eq (resembles : watcher.Resembles first second steps more)
    (watched : watcher.watched? = some channel)
    (apart : first.CancelsApart channel)
    (apartToo : second.CancelsApart channel) {pending : UInt64}
    (counted : first.host.pending? channel = some pending)
    (countedToo : second.host.pending? channel = some pending)
    (added : Step.additions steps = Step.additions more) :
    (watcher.watch first).2.host.pending? channel =
      (watcher.watch second).2.host.pending? channel := by
  obtain ⟨told, rest, shown, left, balance⟩ :=
    (Motions.watch watched first).balance apart counted
  obtain ⟨toldToo, restToo, shownToo, leftToo, balanceToo⟩ :=
    (Motions.watch watched second).balance apartToo countedToo
  have removed := resembles.removals_eq
  obtain rfl := List.append_cancel_left (shown.symm.trans resembles.shown)
  obtain rfl := List.append_cancel_left (shownToo.symm.trans resembles.shownToo)
  rw [left, leftToo, UInt64.toNat_inj.mp (by omega : rest.toNat = restToo.toNat)]

end Resembles

/-- Disturbances of a watch do not show.  The watch is a reaction to answers, so
that disturbances can be put in and left out among any answers. -/
structure Undisturbed (watcher : Watcher) (channel : Descriptor) : Prop where
  /-- The answers in its trace decide what a watch comes to and what it gives to
  the sink. -/
  reaction : ∀ env : Environment, ∃ final,
    watcher.Reacted channel env (watcher.watch env).2 final ∧
      final.stage.answer = (watcher.watch env).1 ∧
      final.sink = (watcher.watch env).2.sink
  /-- No descriptor is made or given up. -/
  stays : ∀ env : Environment, env.Stays (watcher.watch env).2
  /-- Wherever a call can be interrupted, an interruption can be put in. -/
  interrupted : ∀ {begun now : Reaction} {earlier : List Step},
    watcher.reacts channel begun earlier = some now →
      now.stage.isInterruptible = true → ∀ later,
        watcher.reacts channel begun (earlier ++ .interrupted :: later) =
          watcher.reacts channel begun (earlier ++ later)
  /-- Wherever the watch waits with a limit, an idle probe can be put in. -/
  idle : ∀ {begun now : Reaction} {earlier : List Step},
    watcher.reacts channel begun earlier = some now →
      now.stage = .waiting → watcher.limit.isSome = true → ∀ limit later,
        watcher.reacts channel begun
            (earlier ++ .waited limit (.done .timedOut) :: .probed true ::
              later) =
          watcher.reacts channel begun (earlier ++ later)
  /-- All disturbances can be left out. -/
  plain : ∀ {plain full : List Step}, Disturbed plain full →
    ∀ {begun final : Reaction}, watcher.reacts channel begun full = some final →
      watcher.reacts channel begun plain = some final
  /-- Nor does it show when a sink interrupts its write calls. -/
  sinks : ∀ {first second : Reaction}, first.Alike second →
    ∀ {answers final}, watcher.reacts channel first answers = some final →
      ∃ other, watcher.reacts channel second answers = some other ∧
        final.Alike other
  /-- Watches that differ in disturbances come to the same answer, and give
  their sinks the same. -/
  watches : ∀ {first second : Environment} {steps more : List Step},
    watcher.Resembles first second steps more →
      (watcher.watch first).1 = (watcher.watch second).1 ∧
        (watcher.watch first).2.sink.Alike (watcher.watch second).2.sink
  /-- They leave the same in the channel, if others have added the same and the
  handle that cancels is another counter. -/
  counters : ∀ {first second : Environment} {steps more : List Step},
    watcher.Resembles first second steps more →
      first.CancelsApart channel → second.CancelsApart channel →
      ∀ {pending}, first.host.pending? channel = some pending →
        second.host.pending? channel = some pending →
        Step.additions steps = Step.additions more →
          (watcher.watch first).2.host.pending? channel =
            (watcher.watch second).2.host.pending? channel

/-- No disturbance of a watch shows.  Without a channel or a registration there
is no watch that could be disturbed. -/
theorem undisturbed_watch (watcher : Watcher) :
    (watcher.watched? = none →
      ∃ fault, ∀ env, watcher.watch env = (.failed (.misuse fault), env)) ∧
    ∀ channel, watcher.watched? = some channel →
      watcher.Undisturbed channel := by
  refine ⟨exists_fault_of_not_watched?, fun channel watched => ?_⟩
  constructor
  case reaction => exact Reacted.watch watched
  case stays => exact fun env => .motions (Motions.watch watched env)
  case interrupted =>
    intro begun now earlier reached can later
    have back : watcher.reacts channel now [.interrupted] = some now :=
      reacts_interrupted can (by simp)
    exact reacts_insert reached back later
  case idle =>
    intro begun now earlier reached waiting limited limit later
    exact reacts_insert reached (reacts_idle waiting limited limit) later
  case plain => exact fun disturbed _ _ => reacts_plain disturbed
  case sinks => exact fun alike _ _ => alike.reacts
  case watches => exact fun resembles => resembles.alike watched
  case counters =>
    intro first second steps more resembles apart apartToo pending
    exact resembles.pending?_eq watched apart apartToo

/-- A watcher that looks for its cgroup whenever nothing has come for a while. -/
def probingSample : Watcher :=
  { subscribedSample with
    settings :=
      { subscribedSample.settings with
        probeInterval := some (.ofMilliseconds 20) } }

/-- Notifications come, and then the watch is cancelled. -/
def quietSample : Environment :=
  { pendingSample with
    sink := { writes := [.accept 2] }
    schedule := [[.notify 2], [.cancel]] }

/-- The same happens, with an interruption or a pause before each of it. -/
def disturbedSample : Environment :=
  { pendingSample with
    sink := { writes := [.fail (.number 4), .accept 2, .fail (.number 4)] }
    schedule := [[.interrupt], [], [.notify 2], [.interrupt], [.cancel]]
    interruptions := [2] }

theorem undisturbed_watch_disturbedSample :
    probingSample.watched? = some 3 ∧
      (probingSample.watch quietSample).2.trace.length <
        (probingSample.watch disturbedSample).2.trace.length ∧
      Sink.writeCount (probingSample.watch quietSample).2.sink.calls <
        Sink.writeCount (probingSample.watch disturbedSample).2.sink.calls ∧
      (probingSample.watch quietSample).1 = .done ⟨.cancelled, 2⟩ ∧
      (probingSample.watch disturbedSample).1 = .done ⟨.cancelled, 2⟩ ∧
      (probingSample.watch quietSample).2.sink.Alike
        (probingSample.watch disturbedSample).2.sink ∧
      (probingSample.watch quietSample).2.host.pending? 3 =
        (probingSample.watch disturbedSample).2.host.pending? 3 := by
  have watched : probingSample.watched? = some 3 := rfl
  have undisturbed := (undisturbed_watch probingSample).2 3 watched
  have same : Step.undisturbed
        (Step.answers (probingSample.watch quietSample).2.trace) =
      Step.undisturbed
        (Step.answers (probingSample.watch disturbedSample).2.trace) := by
    decide +kernel
  have resembles : probingSample.Resembles quietSample disturbedSample
      (probingSample.watch quietSample).2.trace
      (probingSample.watch disturbedSample).2.trace := by
    constructor
    case sinks => exact ⟨rfl, rfl, by decide +kernel, rfl⟩
    case shown | shownToo => exact (List.nil_append _).symm
    case answers =>
      refine ⟨_, Step.disturbed_undisturbed _, ?_⟩
      rw [same]
      exact Step.disturbed_undisturbed _
  have apart : quietSample.CancelsApart 3 := by
    rintro handle ⟨⟩
    decide
  have apartToo : disturbedSample.CancelsApart 3 := by
    rintro handle ⟨⟩
    decide
  have ended : (probingSample.watch quietSample).1 = .done ⟨.cancelled, 2⟩ := by
    decide +kernel
  have added : Step.additions (probingSample.watch quietSample).2.trace =
      Step.additions (probingSample.watch disturbedSample).2.trace := by
    decide +kernel
  obtain ⟨answer, sinks⟩ := undisturbed.watches resembles
  have left := undisturbed.counters resembles apart apartToo
    (rfl : quietSample.host.pending? 3 = some 5)
    (rfl : disturbedSample.host.pending? 3 = some 5) added
  refine ⟨watched, ?_, ?_, ended, answer.symm.trans ended, sinks, left⟩
  · decide +kernel
  · decide +kernel

end Watcher

end MemoryWatch
