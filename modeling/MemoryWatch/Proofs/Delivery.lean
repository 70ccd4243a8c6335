import MemoryWatch.Sink

/-!
# Whole writes and deliveries

A sink may take a record in many pieces, be interrupted between them, take
nothing, or fail.  Whatever its script says, the bytes that it takes from one
record are a beginning of that record, they are all of it when the write comes
to an end, and the one flush call that follows is the last call of the
delivery.

This needs a sink that does not claim bytes which it did not take.  Only the
registration endpoint is ever scripted to do so.
-/

namespace MemoryWatch

namespace Sink

/-- No answer of the script claims bytes that it does not take. -/
def IsHonest (script : List WriteAnswer) : Prop :=
  ∀ answer ∈ script, ∀ count, answer ≠ .claim count

/-- The calls take the record whole and then flush it successfully once. -/
def Completes (record : List UInt8) (calls : List SinkCall) : Prop :=
  ∃ writes : List SinkCall,
    calls = writes ++ [.flush .succeed] ∧
      (∀ call ∈ writes, call.isWrite = true) ∧ received writes = record

@[simp]
theorem received_nil : received [] = [] :=
  rfl

@[simp]
theorem received_cons (call : SinkCall) (calls : List SinkCall) :
    received (call :: calls) = call.taken ++ received calls :=
  rfl

@[simp]
theorem taken_write (offered : List UInt8) (answer : WriteAnswer) :
    (SinkCall.write offered answer).taken = answer.taken offered :=
  rfl

@[simp]
theorem taken_flush (answer : FlushAnswer) :
    (SinkCall.flush answer).taken = [] :=
  rfl

@[simp]
theorem received_append (first second : List SinkCall) :
    received (first ++ second) = received first ++ received second :=
  List.flatMap_append

theorem IsHonest.head {answer : WriteAnswer} {script : List WriteAnswer}
    (honest : IsHonest (answer :: script)) (count : Nat) :
    answer ≠ .claim count :=
  honest answer (by simp) count

theorem IsHonest.tail {answer : WriteAnswer} {script : List WriteAnswer}
    (honest : IsHonest (answer :: script)) : IsHonest script :=
  fun other member => honest other (by simp [member])

theorem IsHonest.drop {script : List WriteAnswer} (honest : IsHonest script)
    (count : Nat) : IsHonest (script.drop count) :=
  fun answer member => honest answer (List.mem_of_mem_drop member)

/-- An answer that does not claim takes as many bytes as it reports. -/
theorem taken_eq_take_of_report {answer : WriteAnswer}
    {offered : List UInt8} {count : Nat}
    (unclaimed : ∀ claimed, answer ≠ .claim claimed)
    (reported : answer.report offered = .ok count) :
    answer.taken offered = offered.take count := by
  cases answer with
  | accept most =>
      have counted : min most offered.length = count := by
        simpa [WriteAnswer.report] using reported
      rw [← counted, ← List.take_eq_take_min]
      rfl
  | acceptAll =>
      have counted : offered.length = count := by
        simpa [WriteAnswer.report] using reported
      rw [← counted, List.take_length]
      rfl
  | claim claimed => exact absurd rfl (unclaimed claimed)
  | fail cause => simp [WriteAnswer.report] at reported

theorem taken_eq_nil_of_report_error {answer : WriteAnswer}
    {offered : List UInt8} {cause : SystemError}
    (reported : answer.report offered = .error cause) :
    answer.taken offered = [] := by
  cases answer <;> simp_all [WriteAnswer.report, WriteAnswer.taken]

theorem isWrite_of_mem_wholeWrite {script : List WriteAnswer}
    {bytes : List UInt8} {call : SinkCall}
    (member : call ∈ (wholeWrite script bytes).2) : call.isWrite = true := by
  fun_induction wholeWrite script bytes with
  | case1 => simp at member
  | case2 | case4 | case5 =>
      rw [List.mem_singleton.mp member]
      rfl
  | case3 _ _ _ _ _ _ _ _ _ _ equation ih
  | case6 _ _ _ _ _ _ _ _ _ _ equation ih =>
      rcases List.mem_cons.mp member with first | later
      · rw [first]
        rfl
      · exact ih (by simpa only [equation] using later)

/-- What a sink takes of a record is a beginning of it. -/
theorem received_wholeWrite_prefix {script : List WriteAnswer}
    (honest : IsHonest script) (bytes : List UInt8) :
    received (wholeWrite script bytes).2 <+: bytes := by
  fun_induction wholeWrite script bytes with
  | case1 => exact List.nil_prefix
  | case2 => simp [WriteAnswer.taken]
  | case3 _ _ _ _ call _ reported _ _ _ equation ih =>
      have rest := ih honest.tail
      rw [equation] at rest
      simpa [call, taken_eq_nil_of_report_error reported] using rest
  | case4 _ _ _ _ call _ reported =>
      simp [call, taken_eq_nil_of_report_error reported]
  | case5 _ _ _ _ call reported =>
      simp [call, taken_eq_take_of_report honest.head reported]
  | case6 _ _ bytes _ call count _ reported _ calls equation ih =>
      have rest := ih honest.tail
      rw [equation] at rest
      have split : received (call :: calls) =
          bytes.take count ++ received calls := by
        simp [call, taken_eq_take_of_report honest.head reported]
      rw [split]
      calc
        bytes.take count ++ received calls <+:
            bytes.take count ++ bytes.drop count :=
          (List.prefix_append_right_inj _).mpr rest
        _ = bytes := List.take_append_drop count bytes

/-- A whole write that comes to an end has put the whole record through. -/
theorem received_wholeWrite_of_ok {script : List WriteAnswer}
    (honest : IsHonest script) (bytes : List UInt8)
    (written : (wholeWrite script bytes).1 = .ok ()) :
    received (wholeWrite script bytes).2 = bytes := by
  fun_induction wholeWrite script bytes with
  | case1 => rfl
  | case2 => simp [WriteAnswer.taken]
  | case3 _ _ _ _ call _ reported _ _ _ equation ih =>
      have rest := ih honest.tail (by simpa only [equation] using written)
      rw [equation] at rest
      simpa [call, taken_eq_nil_of_report_error reported] using rest
  | case4 | case5 => simp at written
  | case6 _ _ bytes _ call count _ reported _ calls equation ih =>
      have rest := ih honest.tail (by simpa only [equation] using written)
      rw [equation] at rest
      have split : received (call :: calls) =
          bytes.take count ++ received calls := by
        simp [call, taken_eq_take_of_report honest.head reported]
      rw [split, rest]
      exact List.take_append_drop count bytes

theorem flush_ok_iff (sink : Sink) :
    sink.flush.1 = .ok () ↔ sink.nextFlush = .succeed := by
  simp only [flush]
  cases sink.nextFlush <;> simp

/-- The calls that a delivery adds to those of the sink. -/
def deliveryCalls (record : List UInt8) (sink : Sink) : List SinkCall :=
  match wholeWrite sink.writes record with
  | (.error _, calls) => calls
  | (.ok (), calls) => calls ++ [.flush sink.nextFlush]

theorem calls_deliver (record : List UInt8) (sink : Sink) :
    (sink.deliver record).2.2.calls =
      sink.calls ++ deliveryCalls record sink := by
  simp only [deliver, writeAll, deliveryCalls]
  rcases wholeWrite sink.writes record with ⟨outcome | outcome, calls⟩
  · rfl
  · simp [flush, nextFlush]

theorem isHonest_deliver {record : List UInt8} {sink : Sink}
    (honest : IsHonest sink.writes) :
    IsHonest (sink.deliver record).2.2.writes := by
  simp only [deliver, writeAll]
  rcases wholeWrite sink.writes record with ⟨outcome | outcome, calls⟩
  · exact honest.drop _
  · exact honest.drop _

/-- What a sink receives in a delivery is a beginning of the record, also when
the delivery fails. -/
theorem received_deliveryCalls_prefix {record : List UInt8} {sink : Sink}
    (honest : IsHonest sink.writes) :
    received (deliveryCalls record sink) <+: record := by
  have taken := received_wholeWrite_prefix honest record
  simp only [deliveryCalls]
  rcases equation : wholeWrite sink.writes record with ⟨outcome | outcome, calls⟩
  · simpa [equation] using taken
  · simpa [equation] using taken

/-- A delivery that goes through has put the whole record through and flushed
it successfully once, after the last write call. -/
theorem completes_of_deliver_ok {record : List UInt8} {sink : Sink}
    (honest : IsHonest sink.writes)
    (delivered : (sink.deliver record).1 = .ok ()) :
    Completes record (deliveryCalls record sink) := by
  have writes : ∀ call ∈ (wholeWrite sink.writes record).2,
      call.isWrite = true := fun _ => isWrite_of_mem_wholeWrite
  have whole := received_wholeWrite_of_ok honest record
  simp only [deliver, writeAll] at delivered
  simp only [deliveryCalls]
  rcases equation : wholeWrite sink.writes record with ⟨outcome | outcome, calls⟩
  · simp [equation] at delivered
  · rw [equation] at delivered writes whole
    have flushed : sink.nextFlush = .succeed := (flush_ok_iff _).mp delivered
    refine ⟨calls, ?_, writes, whole rfl⟩
    rw [flushed]

end Sink

end MemoryWatch
