import MemoryWatch.Action
import MemoryWatch.SystemError

/-!
# Sinks

A sink takes the bytes of the records.  How it answers is scripted: each write
call takes the next entry of one list, each flush call the next entry of
another, and a call beyond its list succeeds.  The sink remembers every call,
so the bytes it received and the numbers of calls can be read off.

Writing a whole record repeats write calls with what is left of it, also after
an interruption; a call that accepts nothing is an error.  A delivered record
is flushed once.
-/

namespace MemoryWatch

/-- The answer to one write call. -/
inductive WriteAnswer where
  /-- Accept at most so many bytes. -/
  | accept (most : Nat)
  /-- Accept everything. -/
  | acceptAll
  /-- Accept nothing and report a count all the same. -/
  | claim (count : Nat)
  /-- Fail. -/
  | fail (cause : SystemError)
  deriving DecidableEq, Repr

namespace WriteAnswer

/-- What the call reports for an offer of bytes. -/
def report (answer : WriteAnswer) (offered : List UInt8) :
    Except SystemError Nat :=
  match answer with
  | accept most => .ok (min most offered.length)
  | acceptAll => .ok offered.length
  | claim count => .ok count
  | fail cause => .error cause

/-- The bytes that the call takes from an offer. -/
def taken (answer : WriteAnswer) (offered : List UInt8) : List UInt8 :=
  match answer with
  | accept most => offered.take most
  | acceptAll => offered
  | claim _ => []
  | fail _ => []

end WriteAnswer

/-- The answer to one flush call. -/
inductive FlushAnswer where
  | succeed
  | fail (cause : SystemError)
  deriving DecidableEq, Repr

/-- One call that a sink answered. -/
inductive SinkCall where
  | write (offered : List UInt8) (answer : WriteAnswer)
  | flush (answer : FlushAnswer)
  deriving DecidableEq, Repr

namespace SinkCall

/-- The bytes taken in a call. -/
def taken : SinkCall → List UInt8
  | write offered answer => answer.taken offered
  | flush _ => []

/-- Whether a call is a write call. -/
def isWrite : SinkCall → Bool
  | write _ _ => true
  | flush _ => false

end SinkCall

/-- A scripted sink: the answers still to come, the actions that happen outside
during each flush, and the calls answered so far. -/
structure Sink where
  writes : List WriteAnswer := []
  flushes : List FlushAnswer := []
  duringFlush : Schedule := []
  calls : List SinkCall := []
  deriving DecidableEq, Repr

namespace Sink

/-- The bytes received in some calls. -/
def received (calls : List SinkCall) : List UInt8 :=
  calls.flatMap SinkCall.taken

/-- The number of write calls. -/
def writeCount (calls : List SinkCall) : Nat :=
  calls.countP SinkCall.isWrite

/-- The number of flush calls. -/
def flushCount (calls : List SinkCall) : Nat :=
  calls.countP fun call => !call.isWrite

/-- The answer to the next write call. -/
def nextWrite (sink : Sink) : WriteAnswer :=
  sink.writes.headD .acceptAll

/-- The answer to the next flush call. -/
def nextFlush (sink : Sink) : FlushAnswer :=
  sink.flushes.headD .succeed

/-- One write call. -/
def write (bytes : List UInt8) (sink : Sink) :
    Except SystemError Nat × Sink :=
  (sink.nextWrite.report bytes,
   { sink with
     writes := sink.writes.tail
     calls := sink.calls ++ [.write bytes sink.nextWrite] })

/-- The calls that write bytes whole under a script: what they come to, and the
calls.  Each repeats with what is left. -/
def wholeWrite : List WriteAnswer → List UInt8 →
    Except SystemError Unit × List SinkCall
  | _, [] => (.ok (), [])
  | [], bytes => (.ok (), [.write bytes .acceptAll])
  | answer :: script, bytes =>
    let call := SinkCall.write bytes answer
    match answer.report bytes with
    | .error cause =>
      if cause.isInterruption then
        let (outcome, calls) := wholeWrite script bytes
        (outcome, call :: calls)
      else (.error cause, [call])
    | .ok 0 => (.error .wroteNothing, [call])
    | .ok count =>
      let (outcome, calls) := wholeWrite script (bytes.drop count)
      (outcome, call :: calls)

/-- Write bytes whole. -/
def writeAll (bytes : List UInt8) (sink : Sink) :
    Except SystemError Unit × Sink :=
  let (outcome, calls) := wholeWrite sink.writes bytes
  (outcome,
   { sink with
     writes := sink.writes.drop calls.length
     calls := sink.calls ++ calls })

/-- One flush call, and the actions that happen outside during it. -/
def flush (sink : Sink) : Except SystemError Unit × List Action × Sink :=
  let outcome :=
    match sink.nextFlush with
    | .succeed => .ok ()
    | .fail cause => .error cause
  (outcome, sink.duringFlush.headD [],
   { sink with
     flushes := sink.flushes.tail
     duringFlush := sink.duringFlush.tail
     calls := sink.calls ++ [.flush sink.nextFlush] })

/-- Write a record whole and flush it.  The actions are those that happen
outside during the flush; a record that is not written whole is not flushed. -/
def deliver (record : List UInt8) (sink : Sink) :
    Except SystemError Unit × List Action × Sink :=
  match sink.writeAll record with
  | (.error cause, sink) => (.error cause, [], sink)
  | (.ok (), sink) => sink.flush

end Sink

end MemoryWatch
