import MemoryWatch.Proofs.Life

/-!
# Courses of operations

The operations of a watcher may be called in any order, whatever each of them
comes to, and others may act between two of them.  A run is made of the other
operations, so that a property which those keep holds after every course of
operations.
-/

namespace MemoryWatch

/-- An operation of a watcher. -/
inductive Operation where
  | setup
  | subscribe
  | watch
  | run
  | cleanup
  | notifier
  deriving DecidableEq, Repr

namespace Session

/-- The session after a run. -/
def run (session : Session) : Session where
  watcher := (session.watcher.run session.env).2.1
  env := (session.watcher.run session.env).2.2

/-- The session after an operation, whatever that came to. -/
def perform (session : Session) : Operation → Session
  | .setup => session.setup
  | .subscribe => session.subscribe
  | .watch => session.watch
  | .run => session.run
  | .cleanup => session.cleanup
  | .notifier => session.elapse (session.watcher.notifier session.env).2

end Session

/-- The sessions that a session can come to by operations, when others do in
between what is allowed to them. -/
inductive Course (allowed : Watcher → Environment → Environment → Prop)
    (origin : Session) : Session → Prop
  | origin : Course allowed origin origin
  | perform {session : Session} (course : Course allowed origin session)
      (operation : Operation) :
      Course allowed origin (session.perform operation)
  | outside {session : Session} {after : Environment}
      (course : Course allowed origin session)
      (permitted : allowed session.watcher session.env after) :
      Course allowed origin (session.elapse after)

/-- A property of sessions that every operation keeps of which a run is made. -/
structure Upheld (property : Session → Prop) : Prop where
  setup : ∀ session, property session → property session.setup
  subscribe : ∀ session, property session → property session.subscribe
  watch : ∀ session, property session → property session.watch
  cleanup : ∀ session, property session → property session.cleanup
  note : ∀ session event, property session →
    property (session.elapse (session.env.note event))

/-- A property of sessions that every operation but the run keeps, and
everything that others do. -/
structure Kept (allowed : Watcher → Environment → Environment → Prop)
    (property : Session → Prop) : Prop extends Upheld property where
  notifier : ∀ session, property session →
    property (session.elapse (session.watcher.notifier session.env).2)
  outside : ∀ session after, property session →
    allowed session.watcher session.env after →
      property (session.elapse after)

variable {allowed : Watcher → Environment → Environment → Prop}
  {property : Session → Prop}

namespace Upheld

theorem attempt (upheld : Upheld property) {session : Session}
    (holds : property session) :
    property ⟨(session.watcher.attempt session.env).2.1,
      (session.watcher.attempt session.env).2.2⟩ := by
  have ready := upheld.setup session holds
  rw [Watcher.attempt]
  rw [Session.setup] at ready
  rcases first : session.watcher.setup session.env with
    ⟨error | _, watcher, env⟩
  · rwa [first] at ready
  · rw [first] at ready
    have watching := upheld.subscribe _ ready
    rw [Session.subscribe] at watching
    dsimp only at watching ⊢
    rcases second : watcher.subscribe env with ⟨error | _, subscribed, after⟩
    · rwa [second] at watching
    · rw [second] at watching
      exact upheld.watch _ watching

/-- A run keeps what the operations keep of which it is made. -/
theorem run (upheld : Upheld property) {session : Session}
    (holds : property session) : property session.run := by
  have attempted := upheld.attempt holds
  rw [Session.run, Watcher.run]
  rcases result : session.watcher.attempt session.env with
    ⟨answer, watcher, env⟩
  rw [result] at attempted
  have cleaned := upheld.cleanup _ attempted
  cases answer with
  | blocked => exact attempted
  | done summary | failed error => exact upheld.note _ _ cleaned

end Upheld

namespace Kept

theorem perform (kept : Kept allowed property) {session : Session}
    (holds : property session) (operation : Operation) :
    property (session.perform operation) := by
  cases operation with
  | setup => exact kept.setup session holds
  | subscribe => exact kept.subscribe session holds
  | watch => exact kept.watch session holds
  | run => exact kept.run holds
  | cleanup => exact kept.cleanup session holds
  | notifier => exact kept.notifier session holds

end Kept

namespace Course

variable {origin session : Session}

theorem keeps (course : Course allowed origin session)
    (kept : Kept allowed property) (born : property origin) :
    property session := by
  induction course with
  | origin => exact born
  | perform _ operation ih => exact kept.perform ih operation
  | outside _ permitted ih => exact kept.outside _ _ ih permitted

end Course

end MemoryWatch
