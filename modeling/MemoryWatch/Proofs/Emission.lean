import MemoryWatch.Proofs.Disturbance

/-!
# Emitting records

An emission writes one record whole and then flushes the sink.  Whatever the
script of the sink says, each write call offers exactly what is left of the
record, the sink is flushed once if it has taken the record whole and not at all
otherwise, and the emission fails with the first failure among its calls, where
an interruption of a write call is none.  Each write call but perhaps the last
uses up an answer of the script, so that an emission always comes to an end.

Nothing of an emission stays behind for the next one but what is left of the
scripts.  So the records of several counters are emitted one by one in this way,
also after an emission that has failed.  Interruptions change only how many
write calls there are.
-/

namespace MemoryWatch

/-- The failure with which a call ends an emission, if it does. -/
def SinkCall.failure? : SinkCall → Option SystemError
  | write offered answer =>
    match answer.report offered with
    | .error cause => if cause.isInterruption then none else some cause
    | .ok 0 => some .wroteNothing
    | .ok (_ + 1) => none
  | flush .succeed => none
  | flush (.fail cause) => some cause

namespace Sink

/-- What some calls come to: their first failure, if there is one. -/
def verdict (calls : List SinkCall) : Except SystemError Unit :=
  match calls.findSome? SinkCall.failure? with
  | some cause => .error cause
  | none => .ok ()

theorem verdict_cons_of_none {call : SinkCall} (sound : call.failure? = none)
    (calls : List SinkCall) : verdict (call :: calls) = verdict calls := by
  rw [verdict, List.findSome?_cons, sound, verdict]

theorem verdict_cons_of_some {call : SinkCall} {cause : SystemError}
    (failed : call.failure? = some cause) (calls : List SinkCall) :
    verdict (call :: calls) = .error cause := by
  rw [verdict, List.findSome?_cons, failed]

theorem verdict_append_of_ok {calls : List SinkCall}
    (sound : verdict calls = .ok ()) (more : List SinkCall) :
    verdict (calls ++ more) = verdict more := by
  rw [verdict] at sound
  rw [verdict, List.findSome?_append]
  cases found : calls.findSome? SinkCall.failure? with
  | none => rfl
  | some cause => simp [found] at sound

/-- A whole write comes to what its calls come to. -/
theorem verdict_wholeWrite (script : List WriteAnswer) (bytes : List UInt8) :
    verdict (wholeWrite script bytes).2 = (wholeWrite script bytes).1 := by
  fun_induction wholeWrite script bytes with
  | case1 script => rfl
  | case2 bytes filled =>
      refine verdict_cons_of_none ?_ []
      rcases bytes with _ | ⟨byte, rest⟩
      · exact absurd rfl filled
      · rfl
  | case3 answer script bytes filled call cause reported interruption outcome
      calls equation ih =>
      rw [equation] at ih
      have sound : call.failure? = none := by
        simp [call, SinkCall.failure?, reported, interruption]
      rw [verdict_cons_of_none sound]
      exact ih
  | case4 answer script bytes filled call cause reported plain =>
      exact verdict_cons_of_some
        (by simp [call, SinkCall.failure?, reported, plain]) []
  | case5 answer script bytes filled call reported =>
      exact verdict_cons_of_some
        (by simp [call, SinkCall.failure?, reported]) []
  | case6 answer script bytes filled call count positive reported outcome calls
      equation ih =>
      rw [equation] at ih
      have sound : call.failure? = none := by
        cases count with
        | zero => exact absurd rfl positive
        | succ count => simp [call, SinkCall.failure?, reported]
      rw [verdict_cons_of_none sound]
      exact ih

/-- Every call but the last uses up an answer of the script. -/
theorem length_wholeWrite_le (script : List WriteAnswer)
    (bytes : List UInt8) :
    (wholeWrite script bytes).2.length ≤ script.length + 1 := by
  fun_induction wholeWrite script bytes with
  | case1 | case2 | case4 | case5 => simp
  | case3 _ _ _ _ _ _ _ _ _ calls equation ih
  | case6 _ _ _ _ _ _ _ _ _ calls equation ih =>
      rw [equation] at ih
      simpa using ih

/-- A whole write that fails has not put the whole record through. -/
theorem received_wholeWrite_ne {script : List WriteAnswer}
    (honest : IsHonest script) (bytes : List UInt8) {cause : SystemError}
    (failed : (wholeWrite script bytes).1 = .error cause) :
    received (wholeWrite script bytes).2 ≠ bytes := by
  fun_induction wholeWrite script bytes with
  | case1 | case2 => cases failed
  | case3 _ _ _ _ call _ reported _ _ _ equation ih =>
      have rest := ih honest.tail (by simpa only [equation] using failed)
      rw [equation] at rest
      simpa [call, taken_eq_nil_of_report_error reported] using rest
  | case4 _ _ bytes filled call _ reported =>
      intro whole
      apply filled
      simpa [call, taken_eq_nil_of_report_error reported] using whole.symm
  | case5 _ _ bytes filled call reported =>
      intro whole
      apply filled
      simpa [call, taken_eq_take_of_report honest.head reported]
        using whole.symm
  | case6 _ _ bytes _ call count _ reported _ calls equation ih =>
      have rest := ih honest.tail (by simpa only [equation] using failed)
      rw [equation] at rest
      have split : received (call :: calls) =
          bytes.take count ++ received calls := by
        simp [call, taken_eq_take_of_report honest.head reported]
      intro whole
      rw [split] at whole
      exact rest (List.append_cancel_left
        (whole.trans (List.take_append_drop count bytes).symm))

/-- Each call offers what is left of the record, which is not nothing, and is
answered by the script. -/
theorem offered_wholeWrite {script : List WriteAnswer}
    (honest : IsHonest script) {bytes offered : List UInt8} {place : Nat}
    {answer : WriteAnswer}
    (found : (wholeWrite script bytes).2[place]? =
      some (.write offered answer)) :
    offered = bytes.drop
        (received ((wholeWrite script bytes).2.take place)).length ∧
      offered ≠ [] ∧ answer = script.getD place .acceptAll := by
  fun_induction wholeWrite script bytes generalizing place with
  | case1 => simp at found
  | case2 bytes filled =>
      cases place with
      | zero =>
          cases found
          exact ⟨rfl, filled, rfl⟩
      | succ place => simp at found
  | case4 _ _ bytes filled call | case5 _ _ bytes filled call =>
      cases place with
      | zero =>
          obtain ⟨rfl, rfl⟩ : bytes = offered ∧ _ = answer := by
            simpa [call] using found
          exact ⟨rfl, filled, rfl⟩
      | succ place => simp at found
  | case3 _ _ bytes filled call _ reported _ _ calls equation ih =>
      cases place with
      | zero =>
          obtain ⟨rfl, rfl⟩ : bytes = offered ∧ _ = answer := by
            simpa [call] using found
          exact ⟨rfl, filled, rfl⟩
      | succ place =>
          rw [equation] at ih
          have rest := ih honest.tail found
          simpa [call, taken_eq_nil_of_report_error reported] using rest
  | case6 _ _ bytes filled call count _ reported _ calls equation ih =>
      cases place with
      | zero =>
          obtain ⟨rfl, rfl⟩ : bytes = offered ∧ _ = answer := by
            simpa [call] using found
          exact ⟨rfl, filled, rfl⟩
      | succ place =>
          rw [equation] at ih
          obtain ⟨rest, more, answered⟩ := ih honest.tail found
          have first : call.taken = bytes.take count :=
            taken_eq_take_of_report honest.head reported
          -- Not all bytes were taken, since the next call has some to offer.
          have within : count ≤ bytes.length := by
            by_contra beyond
            have spent : bytes.drop count = [] :=
              List.drop_of_length_le (by omega)
            rw [spent, List.drop_nil] at rest
            exact more rest
          refine ⟨?_, more, by simpa using answered⟩
          rw [List.take_succ_cons, received_cons, first, List.length_append,
            List.length_take, Nat.min_eq_left within, ← List.drop_drop]
          exact rest

theorem writeCount_wholeWrite (script : List WriteAnswer)
    (bytes : List UInt8) :
    writeCount (wholeWrite script bytes).2 =
      (wholeWrite script bytes).2.length := by
  rw [writeCount, List.countP_eq_length]
  exact fun _ => isWrite_of_mem_wholeWrite

theorem flush_not_mem_wholeWrite (script : List WriteAnswer)
    (bytes : List UInt8) (answer : FlushAnswer) :
    SinkCall.flush answer ∉ (wholeWrite script bytes).2 := by
  intro member
  cases isWrite_of_mem_wholeWrite member

/-- What a script makes of a whole write of a record: what it comes to and the
calls. -/
structure Attempt (script : List WriteAnswer) (record : List UInt8)
    (outcome : Except SystemError Unit) (calls : List SinkCall) : Prop where
  received : received calls <+: record
  ok_iff : outcome = .ok () ↔ Sink.received calls = record
  verdict_eq : verdict calls = outcome
  length_le : calls.length ≤ script.length + 1
  writeCount_eq : writeCount calls = calls.length
  flushCount_eq : flushCount calls = 0
  flush_not_mem : ∀ answer, .flush answer ∉ calls
  offered : ∀ (place : Nat) offered answer,
    calls[place]? = some (.write offered answer) →
      offered = record.drop (Sink.received (calls.take place)).length ∧
        offered ≠ [] ∧ answer = script.getD place .acceptAll

theorem attempt_wholeWrite {script : List WriteAnswer}
    (honest : IsHonest script) (record : List UInt8) :
    Attempt script record (wholeWrite script record).1
      (wholeWrite script record).2 where
  received := received_wholeWrite_prefix honest record
  ok_iff := by
    refine ⟨received_wholeWrite_of_ok honest record, fun whole => ?_⟩
    rcases ended : (wholeWrite script record).1 with cause | _
    · exact absurd whole (received_wholeWrite_ne honest record ended)
    · rfl
  verdict_eq := verdict_wholeWrite script record
  length_le := length_wholeWrite_le script record
  writeCount_eq := writeCount_wholeWrite script record
  flushCount_eq := Alike.flushCount_wholeWrite script record
  flush_not_mem := flush_not_mem_wholeWrite script record
  offered _ _ _ := offered_wholeWrite honest

/-- What the emission of a record makes of a sink: what it comes to, the calls
that it adds, and the sink after it. -/
structure Emission (record : List UInt8) (before : Sink)
    (outcome : Except SystemError Unit) (calls : List SinkCall)
    (after : Sink) : Prop where
  calls_eq : after.calls = before.calls ++ calls
  /-- What is taken is a beginning of the record. -/
  received : received calls <+: record
  ok_iff : outcome = .ok () ↔
    Sink.received calls = record ∧ .flush .succeed ∈ calls
  /-- The emission fails with the first failure among the calls. -/
  outcome_eq : outcome = verdict calls
  flushCount_eq : flushCount calls =
    if Sink.received calls = record then 1 else 0
  /-- A write call offers what is left of the record. -/
  offered : ∀ (place : Nat) offered answer,
    calls[place]? = some (.write offered answer) →
      offered = record.drop (Sink.received (calls.take place)).length ∧
        offered ≠ [] ∧ answer = before.writes.getD place .acceptAll
  /-- The flush call is the last one and comes after the whole record. -/
  flushed : ∀ (place : Nat) answer, calls[place]? = some (.flush answer) →
    place + 1 = calls.length ∧ Sink.received (calls.take place) = record ∧
      answer = before.nextFlush
  writeCount_le : writeCount calls ≤ before.writes.length + 1
  writes_eq : after.writes = before.writes.drop (writeCount calls)
  flushes_eq : after.flushes = before.flushes.drop (flushCount calls)

theorem fst_flush (sink : Sink) :
    sink.flush.1 = verdict [.flush sink.nextFlush] := by
  rw [flush]
  cases sink.nextFlush <;> rfl

theorem received_writes_flush (writes : List SinkCall)
    (answer : FlushAnswer) :
    received (writes ++ [.flush answer]) = received writes := by
  simp

/-- A call before the flush call is one of the writes. -/
theorem take_append_flush {writes : List SinkCall} {answer : FlushAnswer}
    {place : Nat} (within : place ≤ writes.length) :
    (writes ++ [SinkCall.flush answer]).take place = writes.take place :=
  List.take_append_of_le_length within

theorem getElem?_append_flush {writes : List SinkCall} {last : FlushAnswer}
    {place : Nat} {call : SinkCall}
    (found : (writes ++ [.flush last])[place]? = some call) :
    writes[place]? = some call ∧ place < writes.length ∨
      place = writes.length ∧ call = .flush last := by
  rw [List.getElem?_append] at found
  split at found
  · next within => exact Or.inl ⟨found, within⟩
  · next beyond =>
      obtain ⟨only, same⟩ := List.getElem?_eq_some_iff.mp found
      rw [List.length_singleton] at only
      have first : place - writes.length = 0 := by omega
      refine Or.inr ⟨by omega, ?_⟩
      simpa [first] using same.symm

/-- A record that is not written whole is not flushed. -/
theorem emission_of_failed {record : List UInt8} {sink : Sink}
    {cause : SystemError} {calls : List SinkCall}
    (attempt : Attempt sink.writes record (.error cause) calls) :
    Emission record sink (.error cause) calls
      { sink with
        writes := sink.writes.drop calls.length
        calls := sink.calls ++ calls } := by
  have failed : received calls ≠ record := by
    simpa using mt attempt.ok_iff.mpr
  refine ⟨rfl, attempt.received, ?_, attempt.verdict_eq.symm, ?_,
    attempt.offered, ?_, ?_, ?_, ?_⟩
  · exact iff_of_false (by simp) fun succeeded => failed succeeded.1
  · rw [attempt.flushCount_eq, if_neg failed]
  · intro place answer found
    exact absurd (List.mem_of_getElem? found) (attempt.flush_not_mem answer)
  · rw [attempt.writeCount_eq]
    exact attempt.length_le
  · rw [attempt.writeCount_eq]
  · rw [attempt.flushCount_eq]
    rfl

/-- A record that is written whole is flushed once. -/
theorem emission_of_written {record : List UInt8} {sink : Sink}
    {calls : List SinkCall}
    (attempt : Attempt sink.writes record (.ok ()) calls) :
    Emission record sink (verdict [.flush sink.nextFlush])
      (calls ++ [.flush sink.nextFlush])
      { sink with
        writes := sink.writes.drop calls.length
        flushes := sink.flushes.tail
        duringFlush := sink.duringFlush.tail
        calls := sink.calls ++ calls ++ [.flush sink.nextFlush] } := by
  have whole : received calls = record := attempt.ok_iff.mp rfl
  have taken : received (calls ++ [.flush sink.nextFlush]) = record := by
    rw [received_writes_flush, whole]
  have count : writeCount (calls ++ [.flush sink.nextFlush]) =
      calls.length := by
    rw [writeCount, List.countP_append, ← writeCount, attempt.writeCount_eq]
    rfl
  have once : flushCount (calls ++ [.flush sink.nextFlush]) = 1 := by
    rw [flushCount, List.countP_append, ← flushCount, attempt.flushCount_eq]
    rfl
  refine ⟨by simp, ⟨[], by rw [taken, List.append_nil]⟩, ?_, ?_, ?_, ?_, ?_,
    ?_, ?_, ?_⟩
  · rw [taken]
    cases sink.nextFlush with
    | succeed => simp [verdict, SinkCall.failure?]
    | fail cause => simp [verdict, SinkCall.failure?, attempt.flush_not_mem]
  · rw [verdict_append_of_ok attempt.verdict_eq]
  · rw [once, taken, if_pos rfl]
  · intro place bytes answer found
    obtain ⟨earlier, within⟩ | ⟨_, other⟩ := getElem?_append_flush found
    · rw [take_append_flush within.le]
      exact attempt.offered place bytes answer earlier
    · cases other
  · intro place answer found
    obtain ⟨earlier, _⟩ | ⟨last, same⟩ := getElem?_append_flush found
    · exact absurd (List.mem_of_getElem? earlier)
        (attempt.flush_not_mem answer)
    · cases same
      rw [take_append_flush last.le, last, List.take_length]
      exact ⟨by simp, whole, rfl⟩
  · rw [count]
    exact attempt.length_le
  · rw [count]
  · rw [once, List.drop_one]

/-- A delivery is an emission, whatever the script of the sink says. -/
theorem emission_deliver (record : List UInt8) {sink : Sink}
    (honest : IsHonest sink.writes) :
    Emission record sink (sink.deliver record).1 (deliveryCalls record sink)
      (sink.deliver record).2.2 := by
  have attempt := attempt_wholeWrite honest record
  rw [deliver, writeAll, deliveryCalls]
  generalize wholeWrite sink.writes record = written at attempt ⊢
  obtain ⟨cause | _, calls⟩ := written
  · exact emission_of_failed attempt
  · dsimp only
    rw [fst_flush]
    exact emission_of_written attempt

/-- Emit the record of a counter. -/
def emit (format : RecordFormat) (cgroup : Path) (counter : UInt64)
    (sink : Sink) : Except WatchError Unit × Sink :=
  let (outcome, _, after) := sink.deliver (Record.encode format cgroup counter)
  (outcome.mapError .sink, after)

/-- Emit the records of some counters to one sink, going on after failures.  For
each there is what it comes to and the calls that it adds. -/
def emitAll (format : RecordFormat) (cgroup : Path) :
    List UInt64 → Sink →
      List (Except WatchError Unit × List SinkCall) × Sink
  | [], sink => ([], sink)
  | counter :: rest, sink =>
    let (outcome, after) := sink.emit format cgroup counter
    let (reports, last) := emitAll format cgroup rest after
    ((outcome, after.calls.drop sink.calls.length) :: reports, last)

/-- The records of some counters are emitted one after the other. -/
inductive Emissions (format : RecordFormat) (cgroup : Path) :
    List UInt64 → Sink → List (Except WatchError Unit × List SinkCall) →
      Sink → Prop
  | none (sink : Sink) : Emissions format cgroup [] sink [] sink
  | next {counter : UInt64} {counters : List UInt64}
      {before between after : Sink} {outcome : Except SystemError Unit}
      {calls : List SinkCall}
      {reports : List (Except WatchError Unit × List SinkCall)}
      (emission : Emission (Record.encode format cgroup counter) before outcome
        calls between)
      (rest : Emissions format cgroup counters between reports after) :
      Emissions format cgroup (counter :: counters) before
        ((outcome.mapError .sink, calls) :: reports) after

variable {format : RecordFormat} {cgroup : Path} {counters : List UInt64}
  {before after : Sink}
  {reports : List (Except WatchError Unit × List SinkCall)}

theorem Emission.added {record : List UInt8}
    {outcome : Except SystemError Unit} {calls : List SinkCall}
    (emission : Emission record before outcome calls after) :
    after.calls.drop before.calls.length = calls := by
  rw [emission.calls_eq, List.drop_left]

theorem emissions (counters : List UInt64) {sink : Sink}
    (honest : IsHonest sink.writes) :
    Emissions format cgroup counters sink
      (emitAll format cgroup counters sink).1
      (emitAll format cgroup counters sink).2 := by
  induction counters generalizing sink with
  | nil => exact .none sink
  | cons counter rest ih =>
      have emission :=
        emission_deliver (Record.encode format cgroup counter) honest
      have left :=
        @isHonest_deliver (Record.encode format cgroup counter) sink honest
      have together := Emissions.next emission (ih left)
      rw [← emission.added] at together
      exact together

/-- Each emission has at most one write call that uses up no answer. -/
theorem Emissions.writeCount_le
    (emissions : Emissions format cgroup counters before reports after) :
    (reports.map fun report => writeCount report.2).sum ≤
      before.writes.length + counters.length := by
  induction emissions with
  | none sink => simp
  | next emission rest ih =>
      have most := emission.writeCount_le
      rw [emission.writes_eq, List.length_drop] at ih
      simp only [List.map_cons, List.sum_cons, List.length_cons]
      omega

/-- Two sinks that will answer alike, but for interruptions of write calls. -/
structure AnswersLike (first second : Sink) : Prop where
  writes : uninterrupted first.writes = uninterrupted second.writes
  flushes : first.flushes = second.flushes

namespace AnswersLike

variable {first second : Sink}

theorem deliver (like : first.AnswersLike second) (record : List UInt8) :
    (first.deliver record).1 = (second.deliver record).1 ∧
      completed (deliveryCalls record first) =
        completed (deliveryCalls record second) ∧
      (first.deliver record).2.2.AnswersLike (second.deliver record).2.2 := by
  obtain ⟨outcome, calls, left⟩ := wholeWrite_congr like.writes record
  have next : first.nextFlush = second.nextFlush := by
    rw [nextFlush, nextFlush, like.flushes]
  simp only [Sink.deliver, Sink.writeAll, deliveryCalls]
  generalize wholeWrite first.writes record = written,
    wholeWrite second.writes record = other at outcome calls left ⊢
  obtain ⟨answer, writes⟩ := written
  obtain ⟨_, otherWrites⟩ := other
  cases outcome
  cases answer with
  | error cause => exact ⟨rfl, calls, left, like.flushes⟩
  | ok done =>
      simp only [fst_flush]
      refine ⟨by rw [nextFlush, like.flushes]; rfl, ?_, left,
        congrArg List.tail like.flushes⟩
      rw [completed, List.filter_append, ← completed, calls, next, completed,
        completed, List.filter_append]

/-- Interruptions change neither what an emission comes to nor its other
calls. -/
theorem emitAll (like : first.AnswersLike second) (counters : List UInt64) :
    (Sink.emitAll format cgroup counters first).1.map
        (Prod.map id completed) =
      (Sink.emitAll format cgroup counters second).1.map
        (Prod.map id completed) := by
  induction counters generalizing first second with
  | nil => rfl
  | cons counter rest ih =>
      obtain ⟨outcome, calls, left⟩ :=
        like.deliver (Record.encode format cgroup counter)
      simp only [Sink.emitAll, emit, calls_deliver, List.drop_left,
        List.map_cons, Prod.map_apply, id_eq, outcome, calls, ih left]

end AnswersLike

/-- Emitting some counters is a sequence of emissions, with no more write calls
than the script has answers and there are counters.  Interruptions among the
answers change only the number of write calls that are interrupted. -/
theorem emissions_emitAll (format : RecordFormat) (cgroup : Path)
    (counters : List UInt64) {sink : Sink} (honest : IsHonest sink.writes) :
    Emissions format cgroup counters sink
        (emitAll format cgroup counters sink).1
        (emitAll format cgroup counters sink).2 ∧
      ((emitAll format cgroup counters sink).1.map
          fun report => writeCount report.2).sum ≤
        sink.writes.length + counters.length ∧
      ∀ other : Sink, other.AnswersLike sink →
        (emitAll format cgroup counters other).1.map (Prod.map id completed) =
          (emitAll format cgroup counters sink).1.map
            (Prod.map id completed) := by
  have emitted : Emissions format cgroup counters sink _ _ :=
    emissions counters honest
  exact ⟨emitted, emitted.writeCount_le, fun _ like => like.emitAll counters⟩

/-- The sink takes the first record in part, is interrupted and then takes
nothing.  It refuses the second record, and takes the third in two pieces but is
not flushed. -/
def brokenSample (interruptions : List WriteAnswer) : Sink where
  writes := [.accept 3] ++ interruptions ++
    [.accept 0, .fail (.number 32), .accept 4]
  flushes := [.fail (.number 5)]

theorem emissions_emitAll_brokenSample :
    IsHonest (brokenSample [.fail (.number 4)]).writes ∧
      Emissions .text ⟨[0x2F, 0x67]⟩ [5, 12, 7]
        (brokenSample [.fail (.number 4)])
        [(.error (.sink .wroteNothing),
            [.write (Record.encode .text ⟨[]⟩ 5) (.accept 3),
              .write [0x20, 0x35, 0x0A] (.fail (.number 4)),
              .write [0x20, 0x35, 0x0A] (.accept 0)]),
          (.error (.sink (.number 32)),
            [.write (Record.encode .text ⟨[]⟩ 12) (.fail (.number 32))]),
          (.error (.sink (.number 5)),
            [.write (Record.encode .text ⟨[]⟩ 7) (.accept 4),
              .write [0x37, 0x0A] .acceptAll, .flush (.fail (.number 5))])]
        (emitAll .text ⟨[0x2F, 0x67]⟩ [5, 12, 7]
          (brokenSample [.fail (.number 4)])).2 ∧
      (emitAll .text ⟨[0x2F, 0x67]⟩ [5, 12, 7] (brokenSample [])).1.map
          (Prod.map id completed) =
        (emitAll .text ⟨[0x2F, 0x67]⟩ [5, 12, 7]
          (brokenSample [.fail (.number 4)])).1.map
          (Prod.map id completed) := by
  have honest : IsHonest (brokenSample [.fail (.number 4)]).writes := by
    simp [IsHonest, brokenSample]
  obtain ⟨emitted, _, like⟩ :=
    emissions_emitAll .text ⟨[0x2F, 0x67]⟩ [5, 12, 7] honest
  exact ⟨honest, emitted, like (brokenSample []) ⟨rfl, rfl⟩⟩

end Sink

namespace Watcher

/-- A round that reads a counter emits its record, and the watch is over if the
emission fails. -/
theorem report_eq {watcher : Watcher} {channel : Descriptor}
    {env after : Environment} {counter : UInt64} (number : Nat)
    (read : Channel.read channel env = (.done counter, after)) :
    ∃ emitted : Environment,
      emitted.sink = (after.sink.emit watcher.settings.format
        watcher.settings.cgroup counter).2 ∧
      watcher.report channel number env =
        match (after.sink.emit watcher.settings.format
          watcher.settings.cgroup counter).1 with
        | .error error => .ended (.failed error) emitted
        | .ok () => watcher.afterProbe (number + 1) emitted := by
  have handed := Environment.sink_deliver
    (after.note (.notified watcher.settings.cgroup counter)) channel
    (Record.encode watcher.settings.format watcher.settings.cgroup counter)
  -- The sink's answer is all that the loop learns of the delivery.
  have answered : ((after.note
      (.notified watcher.settings.cgroup counter)).deliver (some channel)
        (Record.encode watcher.settings.format watcher.settings.cgroup
          counter)).1 =
      (after.sink.deliver (Record.encode watcher.settings.format
        watcher.settings.cgroup counter)).1 := rfl
  rw [report, read]
  dsimp only [Sink.emit]
  rw [← answered]
  generalize (after.note (.notified watcher.settings.cgroup counter)).deliver
    (some channel) (Record.encode watcher.settings.format
      watcher.settings.cgroup counter) = delivery at handed ⊢
  obtain ⟨cause | _, delivered⟩ := delivery
  · exact ⟨delivered.record (.delivered counter (.error cause)), handed, rfl⟩
  · exact ⟨delivered.record (.delivered counter (.ok ())), handed, rfl⟩

end Watcher

end MemoryWatch
