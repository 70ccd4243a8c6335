import MemoryWatch.Proofs.Edits
import MemoryWatch.Proofs.Frame
import MemoryWatch.Proofs.Ledger

/-!
# Surroundings that look the same

Two watchers that differ in what must not matter have surroundings that differ
in numbers: another descriptor for the channel, one descriptor more for the
handle that could cancel, another length of the records.  Surroundings look the
same when everything else agrees: the files, up to the numbers in registrations,
what is to be read from the channel, and what others are going to do.  Whatever
others do keeps it that way, as long as nobody fires the handle.
-/

namespace MemoryWatch

namespace Registration

/-- The bytes of a registration of some two descriptors. -/
inductive IsText : List UInt8 → Prop
  | mk {channel oomControl : Descriptor} {text : String}
      (named : message channel oomControl capacity = .ok text) :
      IsText (Utf8.ofString text)

/-- The content of a file, up to the descriptors that registrations name in
it. -/
inductive SameContent (storage : Storage) : Likeness
  | same (content : List UInt8) : SameContent storage content content
  | registered {first second content other : List UInt8}
      (text : IsText first) (counterpart : IsText second)
      (before : SameContent storage content other) :
      SameContent storage
        (FileTree.overlay (storage.takes first) content)
        (FileTree.overlay (storage.takes second) other)

end Registration

namespace FileTree

/-- Two trees with the same files, up to the descriptors that registrations
name in them. -/
abbrev SameFiles (storage : Storage) : FileTree → FileTree → Prop :=
  Alike (Registration.SameContent storage)

end FileTree

/-- Two processes that have so many descriptors may make as many more under
their allowances. -/
inductive Allowance.Same (count counterpart : Nat) :
    Allowance → Allowance → Prop
  | unlimited : Allowance.Same count counterpart .unlimited .unlimited
  | nothing : Allowance.Same count counterpart .nothing .nothing
  | upTo {total other : Nat} (even : total + counterpart = other + count) :
      Allowance.Same count counterpart (.upTo total) (.upTo other)

/-- A call about one more descriptor for each one more that a process has is
barred in both processes or in neither. -/
theorem Allowance.Same.bars_eq {count counterpart few many : Nat}
    {allowance other : Allowance}
    (same : Allowance.Same count counterpart allowance other)
    (even : counterpart + few = count + many) :
    other.bars (many + 1) = allowance.bars (few + 1) := by
  cases same with
  | unlimited => rfl
  | nothing => simp [bars]
  | upTo total =>
      simp only [bars, decide_eq_decide]
      omega

namespace Action

/-- Whether an action fires the handle that cancels a watch. -/
def fires : Action → Bool
  | cancel | shutdown => true
  | makeDirectories _ | writeFile _ _ | makeLink _ _ | remove _ | rename _ _
  | notify _ | interrupt | expire | allowMore _ | allowNone | allowAll => false

end Action

/-! ## Sinks that never fail -/

namespace WriteAnswer

/-- Whether a write call gets on with a record. -/
def proceeds : WriteAnswer → Bool
  | accept most => 0 < most
  | acceptAll => true
  | claim _ => false
  | fail cause => cause.isInterruption

end WriteAnswer

namespace Sink

/-- A sink that takes every record in the end and always flushes. -/
structure IsWilling (sink : Sink) : Prop where
  writes : ∀ answer ∈ sink.writes, answer.proceeds = true
  flushes : ∀ answer ∈ sink.flushes, answer = .succeed

theorem wholeWrite_of_proceeds {script : List WriteAnswer}
    (proceed : ∀ answer ∈ script, answer.proceeds = true)
    (bytes : List UInt8) : (wholeWrite script bytes).1 = .ok () := by
  induction script generalizing bytes with
  | nil => cases bytes <;> rfl
  | cons answer rest ih =>
      cases bytes with
      | nil => rfl
      | cons byte more =>
          have begun := proceed answer (by simp)
          have further := ih fun other member => proceed other (by simp [member])
          cases answer with
          | accept most =>
              cases most with
              | zero => cases begun
              | succ most =>
                  simp [wholeWrite, WriteAnswer.report, further,
                    Nat.succ_min_succ]
          | acceptAll => simp [wholeWrite, WriteAnswer.report]
          | claim count => cases begun
          | fail cause =>
              have interrupted : cause.isInterruption = true := begun
              simp [wholeWrite, WriteAnswer.report, interrupted, further]

theorem IsWilling.deliver {sink : Sink} (willing : sink.IsWilling)
    (bytes : List UInt8) :
    (sink.deliver bytes).1 = .ok () ∧ (sink.deliver bytes).2.2.IsWilling := by
  have whole := wholeWrite_of_proceeds willing.writes bytes
  rw [Sink.deliver, writeAll]
  generalize wholeWrite sink.writes bytes = written at whole ⊢
  obtain ⟨outcome, calls⟩ := written
  obtain rfl : outcome = .ok () := whole
  have flushed : sink.nextFlush = .succeed := by
    rw [nextFlush]
    cases script : sink.flushes with
    | nil => rfl
    | cons answer rest => exact willing.flushes answer (by simp [script])
  have later : (sink.writes.drop calls.length) ⊆ sink.writes :=
    fun _ => List.mem_of_mem_drop
  dsimp only [flush]
  refine ⟨?_, fun answer member => willing.writes answer (later member),
    fun answer member => willing.flushes answer (List.mem_of_mem_tail member)⟩
  rw [show nextFlush { sink with
    writes := sink.writes.drop calls.length
    calls := sink.calls ++ calls } = sink.nextFlush from rfl, flushed]

end Sink

/-- There are both of two values, or neither of them. -/
theorem both_or_neither {α β : Type} {value : Option α} {other : Option β}
    (same : other.isSome = value.isSome) :
    (value = none ∧ other = none) ∨
      ∃ here there, value = some here ∧ other = some there := by
  cases value <;> cases other <;> simp_all

/-! ## What a watcher listens to -/

/-- The descriptors that a watcher listens to. -/
structure Ears where
  channel : Option Descriptor
  cancel : Option Descriptor

/-- The ears of a watcher. -/
def Watcher.ears (watcher : Watcher) : Ears where
  channel := watcher.handles.channel
  cancel := watcher.cancel

theorem Watcher.ears_eq {watcher : Watcher} {channel : Option Descriptor}
    (held : watcher.handles.channel = channel) :
    watcher.ears = ⟨channel, watcher.cancel⟩ := by
  rw [ears, held]

namespace Environment

/-- Nobody has fired the handle, nobody is going to fire it, and the sink never
fails. -/
structure Calm (ears : Ears) (env : Environment) : Prop where
  counts : ∀ channel, ears.channel = some channel →
    ∃ sum, env.host.pending? channel = some sum
  unfired : ∀ handle, ears.cancel = some handle →
    env.host.pending? handle = some 0
  apart : ∀ channel handle, ears.channel = some channel →
    ears.cancel = some handle →
      env.host.position? channel ≠ env.host.position? handle
  scheduled : ∀ group ∈ env.schedule, ∀ action ∈ group, action.fires = false
  flushing : ∀ group ∈ env.sink.duringFlush, ∀ action ∈ group,
    action.fires = false
  willing : env.sink.IsWilling

end Environment

/-- Two hosts with the same files and with as much room for descriptors. -/
structure Host.Alike (host other : Host) : Prop where
  files : FileTree.SameFiles host.storage host.tree other.tree
  storage : other.storage = host.storage
  allowance : Allowance.Same host.openCount other.openCount host.allowance
    other.allowance

/-- Two hosts on each of which a channel has the same to tell, or on which there
is no channel. -/
inductive Host.SameChannel (host other : Host) :
    Option Descriptor → Option Descriptor → Prop
  | none : SameChannel host other none none
  | some {channel counterpart : Descriptor}
      (file : other.openFile? counterpart = host.openFile? channel) :
      SameChannel host other (some channel) (some counterpart)

namespace Environment

/-- Two surroundings that look the same to whoever listens to the channel, up
to the numbers of descriptors.  Nothing is said of the log, and of the trace
only what was read and delivered. -/
structure Alike (ears others : Ears) (env other : Environment) : Prop
    extends Host.Alike env.host other.host where
  calm : env.Calm ears
  twin : other.Calm others
  channel : Host.SameChannel env.host other.host ears.channel others.channel
  /-- Apart from a handle that could cancel, both have as many descriptors. -/
  even : other.host.openCount + ears.cancel.toList.length =
    env.host.openCount + others.cancel.toList.length
  schedule : other.schedule = env.schedule
  interruptions : other.interruptions = env.interruptions
  flushes : other.sink.duringFlush = env.sink.duringFlush
  exchanges : other.exchanges = env.exchanges

theorem exchanges_record (env : Environment) (step : Step) :
    (env.record step).exchanges =
      env.exchanges ++ [step].filter Step.isExchange := by
  simp [exchanges, record, List.filter_append]

end Environment

/-! ## Counters with the same to tell -/

namespace Host

variable {host other : Host} {channel counterpart : Descriptor}

/-- Counters with the same sum answer a write in the same way and have the same
sum after it. -/
theorem write_alike (counted : ∃ sum, host.pending? channel = some sum)
    (file : other.openFile? counterpart = host.openFile? channel)
    (bytes : List UInt8) :
    (other.write counterpart bytes).1 = (host.write channel bytes).1 ∧
      (other.write counterpart bytes).2.openFile? counterpart =
        (host.write channel bytes).2.openFile? channel := by
  obtain ⟨sum, counted⟩ := counted
  obtain ⟨impatient, opened⟩ := pending?_eq_some_iff.mp counted
  have twin := file.trans opened
  rw [write, write, opened, twin]
  dsimp only
  split
  · exact ⟨rfl, file⟩
  split
  · exact ⟨rfl, file⟩
  · exact ⟨rfl, (openFile?_update twin _).trans
      (openFile?_update opened _).symm⟩

theorem read_alike (counted : ∃ sum, host.pending? channel = some sum)
    (file : other.openFile? counterpart = host.openFile? channel) :
    (other.read counterpart).1 = (host.read channel).1 ∧
      (other.read counterpart).2.openFile? counterpart =
        (host.read channel).2.openFile? channel := by
  obtain ⟨sum, counted⟩ := counted
  obtain ⟨impatient, opened⟩ := pending?_eq_some_iff.mp counted
  have twin := file.trans opened
  rw [read, read, opened, twin]
  dsimp only
  split
  · exact ⟨rfl, file⟩
  · exact ⟨rfl, (openFile?_update twin _).trans
      (openFile?_update opened _).symm⟩

end Host

namespace Environment

variable {ears others : Ears} {env other : Environment}

theorem Calm.still {tree : FileTree} {allowance : Allowance}
    {interruptions : List Nat} {log : List LogEvent} {trace : List Step}
    (calm : env.Calm ears) :
    Calm ears
      { env with
        host := { env.host with tree, allowance }
        interruptions, log, trace } :=
  ⟨calm.counts, calm.unfired, calm.apart, calm.scheduled, calm.flushing,
    calm.willing⟩

/-- A watcher without a channel has nothing to listen to but its handle. -/
theorem Calm.of_deaf {cancel : Option Descriptor}
    (unfired : ∀ handle, cancel = some handle →
      env.host.pending? handle = some 0)
    (scheduled : ∀ group ∈ env.schedule, ∀ action ∈ group,
      action.fires = false)
    (flushing : ∀ group ∈ env.sink.duringFlush, ∀ action ∈ group,
      action.fires = false)
    (willing : env.sink.IsWilling) : env.Calm ⟨none, cancel⟩ where
  counts := by rintro _ ⟨⟩
  unfired := unfired
  apart := by rintro _ _ ⟨⟩
  scheduled := scheduled
  flushing := flushing
  willing := willing

/-- Work on the channel leaves the handle that could cancel alone. -/
theorem Calm.touch {channel : Descriptor} {openFiles : List OpenFile}
    (calm : env.Calm ears) (held : ears.channel = some channel)
    (touches : Host.Touches channel env.host { env.host with openFiles })
    (counts : ∃ sum, Host.pending? { env.host with openFiles } channel =
      some sum) :
    Calm ears { env with host := { env.host with openFiles } } where
  counts other same := by
    cases held.symm.trans same
    exact counts
  unfired handle through :=
    (touches.pending?_of_ne (calm.apart channel handle held through)).trans
      (calm.unfired handle through)
  apart := calm.apart
  scheduled := calm.scheduled
  flushing := calm.flushing
  willing := calm.willing

namespace Alike

/-- The same happens to both surroundings, and not to what is open in them. -/
theorem still {tree twin : FileTree} {allowance permitted : Allowance}
    {interruptions remaining : List Nat}
    {log notes : List LogEvent} {trace steps : List Step}
    (alike : Alike ears others env other)
    (files : FileTree.SameFiles env.host.storage tree twin)
    (same : Allowance.Same env.host.openCount other.host.openCount allowance
      permitted)
    (interrupted : remaining = interruptions)
    (exchanges : steps.filter Step.isExchange =
      trace.filter Step.isExchange) :
    Alike ears others
      { env with
        host := { env.host with tree, allowance }
        interruptions, log, trace }
      { other with
        host := { other.host with tree := twin, allowance := permitted }
        interruptions := remaining, log := notes, trace := steps } where
  calm := alike.calm.still
  twin := alike.twin.still
  files := files
  storage := alike.storage
  allowance := same
  channel := by
    obtain ⟨channel, cancel⟩ := ears
    obtain ⟨counterpart, guard⟩ := others
    cases alike.channel with
    | none => exact .none
    | some file => exact .some file
  even := alike.even
  schedule := alike.schedule
  interruptions := interrupted
  flushes := alike.flushes
  exchanges := exchanges

variable {channel counterpart : Descriptor} {cancel guard : Option Descriptor}

theorem file (alike : Alike ⟨some channel, cancel⟩ ⟨some counterpart, guard⟩
      env other) :
    other.host.openFile? counterpart = env.host.openFile? channel := by
  cases alike.channel with
  | some file => exact file

theorem pending? (alike : Alike ⟨some channel, cancel⟩
      ⟨some counterpart, guard⟩ env other) :
    other.host.pending? counterpart = env.host.pending? channel := by
  rw [Host.pending?, alike.file, Host.pending?]

/-- Work on both channels leaves everything else alone. -/
theorem touch {openFiles twins : List OpenFile}
    (alike : Alike ⟨some channel, cancel⟩ ⟨some counterpart, guard⟩ env other)
    (touches : Host.Touches channel env.host { env.host with openFiles })
    (touched : Host.Touches counterpart other.host
      { other.host with openFiles := twins })
    (counts : ∃ sum, Host.pending? { env.host with openFiles } channel =
      some sum)
    (file : Host.openFile? { other.host with openFiles := twins } counterpart =
      Host.openFile? { env.host with openFiles } channel) :
    Alike ⟨some channel, cancel⟩ ⟨some counterpart, guard⟩
      { env with host := { env.host with openFiles } }
      { other with host := { other.host with openFiles := twins } } where
  calm := alike.calm.touch rfl touches counts
  twin := by
    refine alike.twin.touch rfl touched ?_
    rw [Host.pending?, file]
    exact counts
  files := alike.files
  storage := alike.storage
  allowance := alike.allowance
  channel := .some file
  even := alike.even
  schedule := alike.schedule
  interruptions := alike.interruptions
  flushes := alike.flushes
  exchanges := alike.exchanges

theorem add (alike : Alike ⟨some channel, cancel⟩ ⟨some counterpart, guard⟩
      env other) (count : UInt64) :
    Alike ⟨some channel, cancel⟩ ⟨some counterpart, guard⟩
      (env.add channel count).2 (other.add counterpart count).2 := by
  have counts := alike.calm.counts channel rfl
  obtain ⟨sum, counted⟩ := counts
  have twinCounted := alike.pending?.trans counted
  obtain ⟨answer, file⟩ := Host.write_alike ⟨sum, counted⟩ alike.file
    (Counter.toBytes count)
  have touches := env.host.touches_write channel (Counter.toBytes count)
  have touched := other.host.touches_write counterpart (Counter.toBytes count)
  obtain ⟨more, still, _⟩ :=
    env.host.raises_write channel channel count sum counted
  obtain ⟨openFiles, written⟩ :=
    Host.write_snd_of_pending? counted (Counter.toBytes count)
  obtain ⟨twins, twinWritten⟩ :=
    Host.write_snd_of_pending? twinCounted (Counter.toBytes count)
  rw [add_snd, add_snd, answer]
  rw [written] at touches still file ⊢
  rw [twinWritten] at touched file ⊢
  have wrote := alike.touch touches touched ⟨more, still⟩ file
  refine wrote.still alike.files alike.allowance alike.interruptions ?_
  have shown : other.trace.filter Step.isExchange =
      env.trace.filter Step.isExchange := alike.exchanges
  split <;> simpa [List.filter_append, Step.isExchange] using shown

theorem act (alike : Alike ears others env other) (action : Action)
    (spared : action.fires = false) :
    Alike ears others (env.act ears.channel action).2
      (other.act others.channel action).2 := by
  have edited {change counterpart : FileTree → Except SystemError FileTree}
      (changed : Matched (FileTree.SameFiles env.host.storage)
        (change env.host.tree) (counterpart other.host.tree)) :
      Alike ears others (env.edit change).2 (other.edit counterpart).2 := by
    rw [edit, edit]
    generalize change env.host.tree = first at changed ⊢
    generalize counterpart other.host.tree = second at changed ⊢
    cases changed with
    | error cause => exact alike
    | ok files =>
        exact alike.still files alike.allowance alike.interruptions
          alike.exchanges
  have reflexive : ∀ content,
      Registration.SameContent env.host.storage content content := .same
  cases action with
  | makeDirectories path =>
      exact alike.still (alike.files.makeDirectories path).trees
        alike.allowance alike.interruptions alike.exchanges
  | writeFile path content =>
      exact edited (alike.files.writeFile reflexive path content)
  | makeLink path target => exact edited (alike.files.makeLink path target)
  | remove path =>
      exact alike.still (alike.files.remove path).trees alike.allowance
        alike.interruptions alike.exchanges
  | rename path target => exact edited (alike.files.rename path target)
  | notify count =>
      obtain ⟨channel, cancel⟩ := ears
      obtain ⟨counterpart, guard⟩ := others
      have hear := alike.channel
      cases hear with
      | none => exact alike
      | some file => exact alike.add count
  | cancel | shutdown => cases spared
  | interrupt | expire => exact alike
  | allowMore descriptors =>
      refine alike.still alike.files ?_ alike.interruptions alike.exchanges
      exact .upTo (by omega)
  | allowNone =>
      exact alike.still alike.files .nothing alike.interruptions
        alike.exchanges
  | allowAll =>
      exact alike.still alike.files .unlimited alike.interruptions
        alike.exchanges

theorem actAll (alike : Alike ears others env other) (actions : List Action)
    (spared : ∀ action ∈ actions, action.fires = false) :
    Alike ears others (env.actAll ears.channel actions)
      (other.actAll others.channel actions) := by
  induction actions generalizing env other with
  | nil => exact alike
  | cons action rest ih =>
      exact ih (alike.act action (spared action (by simp)))
        fun further member => spared further (by simp [member])

theorem record (alike : Alike ears others env other) (step : Step) :
    Alike ears others (env.record step) (other.record step) := by
  have shown : (other.record step).exchanges = (env.record step).exchanges := by
    rw [exchanges_record, exchanges_record, alike.exchanges]
  exact alike.still alike.files alike.allowance alike.interruptions shown

theorem note (alike : Alike ears others env other) (event : LogEvent) :
    Alike ears others (env.note event) (other.note event) :=
  alike.still alike.files alike.allowance alike.interruptions alike.exchanges

/-- Both surroundings have a new schedule. -/
theorem reschedule (alike : Alike ears others env other) {schedule : Schedule}
    (spared : ∀ group ∈ schedule, ∀ action ∈ group, action.fires = false) :
    Alike ears others { env with schedule } { other with schedule } :=
  { alike with
    calm := { alike.calm with scheduled := spared }
    twin := { alike.twin with scheduled := spared }
    schedule := rfl
    exchanges := alike.exchanges }

end Alike

end Environment

end MemoryWatch
