import MemoryWatch.Proofs.Ledger

/-!
# A channel is a sum and a flag

For those who use it, a channel with its cancel handle is a sum of notifications
and a flag.  `Tally` is this machine, and `Tally.Serves` says how it answers.
The channel of a host answers every request in the same way: through whichever
descriptor a notification comes, whatever else is made, used or given up in the
meantime, and whatever happens while a wait goes on.
-/

namespace MemoryWatch

/-- The sum that has not been read yet, and whether somebody has cancelled. -/
structure Tally where
  pending : Nat := 0
  cancelled : Bool := false
  deriving DecidableEq, Repr

/-- What is asked of a channel with its cancel handle, and what is done with
other descriptors in the meantime. -/
inductive Request where
  /-- Add to the channel through a notifier that there is. -/
  | notify (through : Descriptor) (count : UInt64)
  /-- Add to the channel through a notifier made for this purpose. -/
  | notifyOnce (count : UInt64)
  /-- Fire the handle through a clone of it. -/
  | cancel (clone : Descriptor)
  /-- Wait for the channel, and for the handle as well if the wait listens,
  while some groups of actions happen. -/
  | wait (listens : Bool) (timeout : Option Duration) (meanwhile : Schedule)
  /-- Read the channel after so many interruptions. -/
  | read (interruptions : Nat)
  | makeNotifier
  | makeChannel
  | makeHandle
  | drop (other : Descriptor)
  /-- Make every call on a file fail that would wait. -/
  | makeImpatient (descriptor : Descriptor)
  | addElsewhere (other : Descriptor) (count : UInt64)
  | readElsewhere (other : Descriptor)
  deriving DecidableEq, Repr

/-- What a request is answered. -/
inductive Reply where
  | added (answer : Answer SystemError Unit)
  | woken (answer : Answer WatchError Wake)
  | counted (answer : Answer WatchError UInt64)
  | made (descriptor : Descriptor)
  /-- There was no descriptor left to make. -/
  | unmade
  | nothing
  deriving DecidableEq, Repr

/-! ## The machine -/

namespace Tally

/-- A count that the machine takes. -/
def Fits (tally : Tally) (count : UInt64) : Prop :=
  count.toNat < 2 ^ 64 - 1 ∧ tally.pending + count.toNat ≤ 2 ^ 64 - 2

instance (tally : Tally) (count : UInt64) : Decidable (tally.Fits count) :=
  inferInstanceAs (Decidable (_ ∧ _))

/-- The machine after an addition, which it may refuse. -/
def plus (tally : Tally) (count : UInt64) : Tally :=
  if tally.Fits count then
    { tally with pending := tally.pending + count.toNat }
  else tally

/-- How a wait ends at once, if it does. -/
def look (tally : Tally) (listens : Bool) : Option Wake :=
  if listens && tally.cancelled then some .cancelled
  else if 0 < tally.pending then some .notified
  else none

/-- The machine after an action of others. -/
def act (tally : Tally) : Action → Tally
  | .notify count => tally.plus count
  | .cancel | .shutdown => { tally with cancelled := true }
  | .makeDirectories _ | .writeFile _ _ | .makeLink _ _ | .remove _
  | .rename _ _ | .interrupt | .expire | .allowMore _ | .allowNone
  | .allowAll => tally

/-- The machine after the first groups of a schedule. -/
def elapse (tally : Tally) (count : Nat) (schedule : Schedule) : Tally :=
  (schedule.take count).flatten.foldl act tally

/-- A wait ends with the first look that shows something.  One that sees nothing
times out if it has a limit, and goes on for ever if it has none. -/
def Waits (before : Tally) (listens limited : Bool) (meanwhile : Schedule)
    (answer : Answer WatchError Wake) (after : Tally) : Prop :=
  ∃ count ≤ meanwhile.length,
    (∀ earlier < count, (before.elapse earlier meanwhile).look listens = none) ∧
      after = before.elapse count meanwhile ∧
      match after.look listens, limited with
      | some wake, _ => answer = .done wake
      | none, true => answer = .done .timedOut
      | none, false => answer = .blocked ∧ count = meanwhile.length

/-- How the machine answers a request, and what becomes of it. -/
inductive Serves (before : Tally) : Request → Reply → Tally → Prop
  | notified {through : Descriptor} {count : UInt64} (fits : before.Fits count) :
      Serves before (.notify through count) (.added (.done ()))
        { before with pending := before.pending + count.toNat }
  | unnotified {through : Descriptor} {count : UInt64}
      {answer : Answer SystemError Unit} (excess : ¬ before.Fits count)
      (refused : answer ≠ .done ()) :
      Serves before (.notify through count) (.added answer) before
  | notifiedOnce {count : UInt64} (fits : before.Fits count) :
      Serves before (.notifyOnce count) (.added (.done ()))
        { before with pending := before.pending + count.toNat }
  | unnotifiedOnce {count : UInt64} {answer : Answer SystemError Unit}
      (excess : ¬ before.Fits count) (refused : answer ≠ .done ()) :
      Serves before (.notifyOnce count) (.added answer) before
  /-- Only a handle that was fired before can refuse to be fired. -/
  | cancelled {clone : Descriptor} {answer : Answer SystemError Unit}
      (first : before.cancelled = false → answer = .done ()) :
      Serves before (.cancel clone) (.added answer)
        { before with cancelled := true }
  | woken {listens : Bool} {timeout : Option Duration} {meanwhile : Schedule}
      {answer : Answer WatchError Wake} {after : Tally}
      (waits : before.Waits listens timeout.isSome meanwhile answer after) :
      Serves before (.wait listens timeout meanwhile) (.woken answer) after
  | read {interruptions : Nat} {counter : UInt64} (filled : 0 < before.pending)
      (same : counter.toNat = before.pending) :
      Serves before (.read interruptions) (.counted (.done counter))
        { before with pending := 0 }
  | unread {interruptions : Nat} {answer : Answer WatchError UInt64}
      (empty : before.pending = 0) (refused : ∀ counter, answer ≠ .done counter) :
      Serves before (.read interruptions) (.counted answer) before
  /-- A descriptor is made, or there is none left. -/
  | making {request : Request} {reply : Reply}
      (making : request = .makeNotifier ∨ request = .makeChannel ∨
        request = .makeHandle) :
      Serves before request reply before
  | unmade {count : UInt64} : Serves before (.notifyOnce count) .unmade before
  | drop {other : Descriptor} {reply : Reply} :
      Serves before (.drop other) reply before
  | makeImpatient {descriptor : Descriptor} {reply : Reply} :
      Serves before (.makeImpatient descriptor) reply before
  | addElsewhere {other : Descriptor} {count : UInt64} {reply : Reply} :
      Serves before (.addElsewhere other count) reply before
  | readElsewhere {other : Descriptor} {reply : Reply} :
      Serves before (.readElsewhere other) reply before

/-- How the machine answers some requests, one after the other. -/
inductive Follows : Tally → List (Request × Reply) → Tally → Prop
  | none (tally : Tally) : Follows tally [] tally
  | next {before between after : Tally} {request : Request} {reply : Reply}
      {rest : List (Request × Reply)}
      (serves : before.Serves request reply between)
      (follows : Follows between rest after) :
      Follows before ((request, reply) :: rest) after

theorem cancelled_elapse {tally : Tally} (set : tally.cancelled = true)
    (count : Nat) (schedule : Schedule) :
    (tally.elapse count schedule).cancelled = true := by
  rw [elapse]
  induction (schedule.take count).flatten generalizing tally with
  | nil => exact set
  | cons action rest ih =>
      apply ih
      cases action with
      | notify added =>
          rw [act, plus]
          split <;> exact set
      | _ => first | exact set | rfl

/-- The flag is set for good. -/
theorem Serves.stays_cancelled {before after : Tally} {request : Request}
    {reply : Reply} (serves : before.Serves request reply after)
    (set : before.cancelled = true) : after.cancelled = true := by
  cases serves with
  | woken waits =>
      obtain ⟨count, _, _, rfl, _⟩ := waits
      exact cancelled_elapse set count _
  | cancelled => rfl
  | _ => exact set

theorem Follows.stays_cancelled {before after : Tally}
    {history : List (Request × Reply)} (follows : Follows before history after)
    (set : before.cancelled = true) : after.cancelled = true := by
  induction follows with
  | none => exact set
  | next serves _ ih => exact ih (serves.stays_cancelled set)

end Tally

/-! ## The counters of a host -/

namespace Host

/-- The counters of a channel and of its cancel handle stand for the machine. -/
structure Tallies (channel handle : Descriptor) (host : Host) (tally : Tally) :
    Prop where
  coherent : host.IsCoherent
  apart : host.position? channel ≠ host.position? handle
  able : ¬host.allowance.bars 2
  pending : ∃ sum, host.pending? channel = some sum ∧ sum.toNat = tally.pending
  cancelled : ∃ sum, host.pending? handle = some sum ∧
    (tally.cancelled = true ↔ sum ≠ 0)

theorem placed_of_pending? {host : Host} {descriptor : Descriptor}
    (counted : ∃ sum, host.pending? descriptor = some sum) :
    ∃ position, host.position? descriptor = some position := by
  obtain ⟨sum, counted⟩ := counted
  obtain ⟨impatient, opened⟩ := pending?_eq_some_iff.mp counted
  exact position?_isSome_of_openFile? opened

/-- What is added through one descriptor of a counter is found through every
other, and a counter that refuses is left alone. -/
theorem write_through {host : Host} {through descriptor : Descriptor}
    {pending : UInt64}
    (same : host.position? through = host.position? descriptor)
    (counted : host.pending? descriptor = some pending) (count : UInt64) :
    (pending.toNat + count.toNat ≤ Counter.largest ∧
        (host.write through (Counter.toBytes count)).1 = .done Counter.size ∧
        (host.write through (Counter.toBytes count)).2.pending? descriptor =
          some (pending + count)) ∨
      (Counter.largest < pending.toNat + count.toNat ∧
        (∀ written,
          (host.write through (Counter.toBytes count)).1 ≠ .done written) ∧
        (host.write through (Counter.toBytes count)).2 = host) := by
  have touches := host.touches_write through (Counter.toBytes count)
  have stays : (host.write through (Counter.toBytes count)).2.position?
        through =
      (host.write through (Counter.toBytes count)).2.position?
        descriptor := by
    rw [touches.position?, touches.position?, same]
  rw [← pending?_congr same] at counted
  rw [← pending?_congr stays]
  exact write_toBytes_cases counted count

/-- Nothing but the file behind a descriptor learns that it is not to wait. -/
theorem pending?_makeImpatient (host : Host) (touched descriptor : Descriptor) :
    (host.makeImpatient touched).pending? descriptor =
      host.pending? descriptor := by
  rw [makeImpatient]
  cases opened : host.openFile? touched with
  | none => rfl
  | some file =>
      dsimp only
      have touches := host.touches_update touched { file with impatient := true }
      by_cases same : host.position? touched = host.position? descriptor
      · have stays : (host.update touched
              { file with impatient := true }).position? touched =
            (host.update touched
              { file with impatient := true }).position? descriptor := by
          rw [touches.position?, touches.position?, same]
        rw [← pending?_congr stays, ← pending?_congr same, pending?,
          openFile?_update opened, pending?, opened]
        rfl
      · exact touches.pending?_of_ne same

theorem touches_makeImpatient (host : Host) (touched : Descriptor) :
    Touches touched host (host.makeImpatient touched) := by
  rw [makeImpatient]
  split
  · exact host.touches_update touched _
  · exact Touches.refl touched host

theorem allowance_makeImpatient (host : Host) (touched : Descriptor) :
    (host.makeImpatient touched).allowance = host.allowance := by
  rw [makeImpatient]
  split
  · obtain ⟨openFiles, same⟩ := host.update_eq touched _
    rw [same]
  · rfl

/-- A second descriptor changes nothing but the table. -/
theorem duplicate_snd (host : Host) (source : Descriptor) :
    ∃ table, (host.duplicate source).2 = { host with table } := by
  have unchanged : ∃ table, host = { host with table } := ⟨host.table, rfl⟩
  rw [duplicate]
  split
  · exact unchanged
  split
  · exact unchanged
  split
  · exact ⟨_, rfl⟩
  · exact unchanged

theorem allowance_write (host : Host) (descriptor : Descriptor)
    (bytes : List UInt8) :
    (host.write descriptor bytes).2.allowance = host.allowance := by
  obtain ⟨openFiles, same⟩ | ⟨_, _, _, _, _, _, same⟩ :=
    host.write_snd descriptor bytes
  · rw [same]
  · rw [same]

theorem allowance_read (host : Host) (descriptor : Descriptor) :
    (host.read descriptor).2.allowance = host.allowance := by
  obtain ⟨openFiles, same⟩ := host.read_snd descriptor
  rw [same]

namespace Tallies

variable {channel handle : Descriptor} {host after : Host} {tally : Tally}

/-- What keeps both counters keeps the machine. -/
theorem keeps (tallies : Tallies channel handle host tally)
    (coherent : after.IsCoherent) (able : ¬after.allowance.bars 2)
    (first : Keeps channel host after) (second : Keeps handle host after) :
    Tallies channel handle after tally where
  coherent := coherent
  apart := by rw [first.position, second.position]; exact tallies.apart
  able := able
  pending := by rw [first.pending?]; exact tallies.pending
  cancelled := by rw [second.pending?]; exact tallies.cancelled

/-- What is read or written elsewhere keeps the machine. -/
theorem touches (tallies : Tallies channel handle host tally)
    {other : Descriptor} (touched : Touches other host after)
    (able : ¬after.allowance.bars 2)
    (elsewhere : host.position? other ≠ host.position? channel ∧
      host.position? other ≠ host.position? handle) :
    Tallies channel handle after tally :=
  tallies.keeps (touched.isCoherent tallies.coherent) able
    (touched.keeps elsewhere.1) (touched.keeps elsewhere.2)

theorem two_le_openCount (tallies : Tallies channel handle host tally) :
    2 ≤ host.openCount := by
  obtain ⟨sum, counted, _⟩ := tallies.pending
  obtain ⟨other, cancelCounted, _⟩ := tallies.cancelled
  obtain ⟨_, located⟩ := placed_of_pending? ⟨sum, counted⟩
  obtain ⟨_, placed⟩ := placed_of_pending? ⟨other, cancelCounted⟩
  refine Host.two_le_openCount located placed ?_
  rintro rfl
  exact tallies.apart rfl

theorem fits_iff (tallies : Tallies channel handle host tally)
    {sum : UInt64} (counted : host.pending? channel = some sum)
    (count : UInt64) :
    tally.Fits count ↔ sum.toNat + count.toNat ≤ Counter.largest := by
  obtain ⟨other, found, same⟩ := tallies.pending
  rw [counted] at found
  cases found
  simp only [Tally.Fits, Counter.largest, UInt64.size, ← same]
  omega

/-- What is added through any descriptor of the channel the machine adds, or
both refuse it. -/
theorem add (tallies : Tallies channel handle host tally)
    {through : Descriptor}
    (same : host.position? through = host.position? channel)
    (count : UInt64) :
    Tallies channel handle (host.write through (Counter.toBytes count)).2
        (tally.plus count) ∧
      (tally.Fits count →
        (host.write through (Counter.toBytes count)).1 =
          .done Counter.size) ∧
      (¬ tally.Fits count → ∀ written,
        (host.write through (Counter.toBytes count)).1 ≠ .done written) := by
  obtain ⟨sum, counted, value⟩ := tallies.pending
  have touched := host.touches_write through (Counter.toBytes count)
  have able :
      ¬(host.write through (Counter.toBytes count)).2.allowance.bars 2 := by
    rw [host.allowance_write]
    exact tallies.able
  have fits := tallies.fits_iff counted count
  rw [Tally.plus]
  obtain ⟨within, answered, added⟩ | ⟨beyond, failed, unchanged⟩ :=
    write_through same counted count
  · have fitting := fits.mpr within
    rw [if_pos fitting]
    refine ⟨⟨touched.isCoherent tallies.coherent, ?_, able,
      ⟨sum + count, added, ?_⟩, ?_⟩, fun _ => answered,
      fun excess => absurd fitting excess⟩
    · rw [touched.position?, touched.position?]
      exact tallies.apart
    · rw [Counter.toNat_add within, value]
    · rw [touched.pending?_of_ne (by rw [same]; exact tallies.apart)]
      exact tallies.cancelled
  · have excess : ¬ tally.Fits count := fun fitting =>
      absurd (fits.mp fitting) (by omega)
    rw [if_neg excess, unchanged]
    exact ⟨tallies, fun fitting => absurd fitting excess, fun _ => failed⟩

/-- Whoever fires the handle sets the flag, and only a handle that was fired
before refuses. -/
theorem fire (tallies : Tallies channel handle host tally)
    {clone : Descriptor}
    (same : host.position? clone = host.position? handle) :
    Tallies channel handle (host.write clone (Counter.toBytes 1)).2
        { tally with cancelled := true } ∧
      (tally.cancelled = false →
        (host.write clone (Counter.toBytes 1)).1 = .done Counter.size) := by
  obtain ⟨sum, counted, flag⟩ := tallies.cancelled
  have touched := host.touches_write clone (Counter.toBytes 1)
  have able : ¬(host.write clone (Counter.toBytes 1)).2.allowance.bars 2 := by
    rw [host.allowance_write]
    exact tallies.able
  have other : host.position? clone ≠ host.position? channel := by
    rw [same]
    exact tallies.apart.symm
  refine ⟨⟨touched.isCoherent tallies.coherent, ?_, able, ?_, ?_⟩, ?_⟩
  · rw [touched.position?, touched.position?]
    exact tallies.apart
  · rw [touched.pending?_of_ne other]
    exact tallies.pending
  · obtain ⟨within, _, added⟩ | ⟨beyond, _, unchanged⟩ :=
      write_through same counted 1
    · refine ⟨sum + 1, added, iff_of_true rfl fun empty => ?_⟩
      have total := Counter.toNat_add within
      rw [empty] at total
      simp at total
    · rw [unchanged]
      refine ⟨sum, counted, iff_of_true rfl fun empty => ?_⟩
      rw [empty] at beyond
      exact absurd beyond (by decide)
  · intro unset
    obtain ⟨_, answered, _⟩ | ⟨beyond, _, _⟩ := write_through same counted 1
    · exact answered
    · have empty : sum = 0 := by
        by_contra filled
        rw [flag.mpr filled] at unset
        cases unset
      rw [empty] at beyond
      exact absurd beyond (by decide)

/-- A read gives the sum and clears it, or there is nothing to read. -/
theorem read (tallies : Tallies channel handle host tally) :
    (0 < tally.pending ∧ ∃ counter : UInt64, counter.toNat = tally.pending ∧
        (host.read channel).1 = .done (Counter.toBytes counter) ∧
        Tallies channel handle (host.read channel).2
          { tally with pending := 0 }) ∨
      (tally.pending = 0 ∧
        (∀ bytes, (host.read channel).1 ≠ .done bytes) ∧
        (host.read channel).2 = host) := by
  obtain ⟨sum, counted, value⟩ := tallies.pending
  by_cases empty : sum = 0
  · right
    rw [empty] at counted value
    obtain ⟨unchanged, failed⟩ := read_of_pending_zero counted
    exact ⟨value.symm, failed, unchanged⟩
  · left
    have touched := host.touches_read channel
    obtain ⟨answered, cleared⟩ := read_of_pending_ne_zero counted empty
    refine ⟨?_, sum, value, answered, touched.isCoherent tallies.coherent, ?_,
      ?_, ⟨0, cleared, rfl⟩, ?_⟩
    · rw [← value]
      exact Nat.pos_of_ne_zero fun none => empty (UInt64.toNat_inj.mp none)
    · rw [touched.position?, touched.position?]
      exact tallies.apart
    · rw [host.allowance_read]
      exact tallies.able
    · rw [touched.pending?_of_ne tallies.apart]
      exact tallies.cancelled

/-- A descriptor that is made leaves the machine alone. -/
theorem makes (tallies : Tallies channel handle host tally)
    {made : Descriptor} (makes : Makes made host after)
    (able : ¬after.allowance.bars 2) :
    Tallies channel handle after tally := by
  obtain ⟨sum, counted, _⟩ := tallies.pending
  obtain ⟨other, cancelCounted, _⟩ := tallies.cancelled
  obtain ⟨position, located⟩ := placed_of_pending? ⟨sum, counted⟩
  obtain ⟨second, placed⟩ := placed_of_pending? ⟨other, cancelCounted⟩
  exact tallies.keeps makes.coherent able (makes.keeps channel position located)
    (makes.keeps handle second placed)

theorem duplicate (tallies : Tallies channel handle host tally)
    (source : Descriptor) :
    Tallies channel handle (host.duplicate source).2 tally := by
  obtain ⟨sum, counted, _⟩ := tallies.pending
  obtain ⟨other, cancelCounted, _⟩ := tallies.cancelled
  obtain ⟨position, located⟩ := placed_of_pending? ⟨sum, counted⟩
  obtain ⟨second, placed⟩ := placed_of_pending? ⟨other, cancelCounted⟩
  refine tallies.keeps (isCoherent_duplicate tallies.coherent source) ?_
    (host.keeps_duplicate source located) (host.keeps_duplicate source placed)
  obtain ⟨table, same⟩ := host.duplicate_snd source
  rw [same]
  exact tallies.able

theorem close (tallies : Tallies channel handle host tally)
    {other : Descriptor} (kept : channel ≠ other ∧ handle ≠ other) :
    Tallies channel handle (host.close other) tally :=
  tallies.keeps (isCoherent_close tallies.coherent other) tallies.able
    (host.keeps_close kept.1) (host.keeps_close kept.2)

theorem makeImpatient (tallies : Tallies channel handle host tally)
    (descriptor : Descriptor) :
    Tallies channel handle (host.makeImpatient descriptor) tally := by
  have touched := host.touches_makeImpatient descriptor
  refine ⟨touched.isCoherent tallies.coherent, ?_, ?_, ?_, ?_⟩
  · rw [touched.position?, touched.position?]
    exact tallies.apart
  · rw [allowance_makeImpatient]
    exact tallies.able
  · rw [pending?_makeImpatient]
    exact tallies.pending
  · rw [pending?_makeImpatient]
    exact tallies.cancelled

end Tallies

end Host

end MemoryWatch
