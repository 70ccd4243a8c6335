import MemoryWatch.Rehearsal
import MemoryWatch.Proofs.Output
import MemoryWatch.Proofs.Release

/-!
# How the program ends

A program goes on to its end if it has a runtime, if its name is well-formed
text, and, once its command line is accepted, if its log setting is read and it
has a thread to watch on; otherwise it breaks off.  One that goes on exits with
zero after the parser of its command line has told what it was asked for and
after its watch is over, and with one after a fault of its command line and
after any error.  The error is the last thing that it tells, under its own name.
Its output has the records of the watch and nothing else, where the last one may
be cut if the output fails.

Whether a command line asks for information is for the parser to say.  One that
reads from left to right may find a fault before it comes to the request.
-/

namespace MemoryWatch

/-! ## What a run puts out -/

namespace Watcher

/-- The bytes are the records of some counters and a beginning of one more.
Only a sink that fails has a beginning that is left over, and a watch that is
over has counted the records. -/
def Prints (watcher : Watcher) (answer : Answer WatchError Summary)
    (bytes : List UInt8) : Prop :=
  ∃ (counters : List UInt64) (cut : List UInt8),
    bytes = counters.flatMap watcher.record ++ cut ∧
    (∀ summary, answer = .done summary →
      summary.notifications = counters.length) ∧
    (cut = [] ∨ ∃ cause last,
      answer = .failed (.sink cause) ∧ cut <+: watcher.record last)

namespace Prints

variable {watcher : Watcher}

theorem nothing (watcher : Watcher) (error : WatchError) :
    watcher.Prints (.failed error) [] :=
  ⟨[], [], rfl, by simp, Or.inl rfl⟩

theorem of_settings {other : Watcher} {answer : Answer WatchError Summary}
    {bytes : List UInt8} (same : other.settings = watcher.settings)
    (prints : other.Prints answer bytes) : watcher.Prints answer bytes := by
  have records : other.record = watcher.record := by
    funext counter
    rw [record, record, same]
  rwa [Prints, records] at prints

theorem of_tells {counters : List UInt64} {calls : List SinkCall}
    {answer : Answer WatchError Summary}
    (tells : watcher.Tells counters calls answer) :
    watcher.Prints answer (Sink.received calls) := by
  cases answer with
  | done summary =>
      obtain ⟨_, whole, counted⟩ := tells
      refine ⟨counters, [], by simpa using whole, ?_, Or.inl rfl⟩
      intro other same
      cases same
      exact counted
  | blocked =>
      obtain ⟨_, whole⟩ := tells
      exact ⟨counters, [], by simpa using whole, by simp, Or.inl rfl⟩
  | failed error =>
      cases error with
      | channelRead descriptor reason =>
          obtain ⟨_, whole⟩ := tells
          exact ⟨counters, [], by simpa using whole, by simp, Or.inl rfl⟩
      | sink cause =>
          obtain ⟨earlier, last, cut, _, beginning, received⟩ := tells
          exact ⟨earlier, cut, received, by simp,
            Or.inr ⟨cause, last, rfl, beginning⟩⟩
      | _ => exact tells.elim

end Prints

theorem prints_watch (watcher : Watcher) {env : Environment}
    (honest : Sink.IsHonest env.sink.writes) :
    ∃ calls, (watcher.watch env).2.sink.calls = env.sink.calls ++ calls ∧
      watcher.Prints (watcher.watch env).1 (Sink.received calls) := by
  obtain ⟨unwatched, watching⟩ := @output_watch watcher env honest
  cases watched : watcher.watched? with
  | none =>
      obtain ⟨fault, refused⟩ := unwatched watched
      exact ⟨[], by simp [refused],
        by simpa [refused] using Prints.nothing watcher _⟩
  | some channel =>
      obtain ⟨_, counters, calls, _, taken, tells⟩ := watching channel watched
      exact ⟨calls, taken, .of_tells tells⟩

/-- Whatever a run comes to, its output has records of the watcher. -/
theorem prints_run (watcher : Watcher) {env : Environment}
    (honest : Sink.IsHonest env.sink.writes) :
    ∃ calls, (watcher.run env).2.2.sink.calls = env.sink.calls ++ calls ∧
      watcher.Prints (watcher.run env).1 (Sink.received calls) := by
  let session : Session := ⟨watcher, env⟩
  obtain ⟨hand, called, blocked, returned⟩ := oneByOne_run session
  have sink : session.run.env.sink = hand.env.sink := by
    by_cases unblocked : (watcher.run env).1 = .blocked
    · rw [blocked unblocked]
    · rw [returned unblocked]
      exact (works_closeHandles hand.watcher.handles.held hand.env).sink
  change ∃ calls, session.run.env.sink.calls = _ ∧ _
  rw [sink]
  have set : session.setup.env.sink = env.sink :=
    (watcher.works_setup env).sink
  have subscribed : session.setup.subscribe.env.sink = env.sink :=
    (session.setup.watcher.works_subscribe session.setup.env).sink.trans set
  -- Only the last part of a run has calls for the sink.
  generalize (watcher.run env).1 = answer at called
  cases called with
  | notSetUp failed =>
      exact ⟨[], by simp [set], .nothing watcher _⟩
  | notSubscribed ready failed =>
      exact ⟨[], by simp [subscribed], .nothing watcher _⟩
  | watched ready through =>
      have still : Sink.IsHonest session.setup.subscribe.env.sink.writes := by
        rwa [subscribed]
      obtain ⟨calls, taken, prints⟩ :=
        session.setup.subscribe.watcher.prints_watch still
      refine ⟨calls, taken.trans (by rw [subscribed]), prints.of_settings ?_⟩
      exact (session.setup.watcher.settings_subscribe session.setup.env).trans
        (watcher.settings_setup env)

end Watcher

/-! ## The watch of an invocation -/

namespace Program

variable {packages : Packages} {invocation : Invocation} {env after : Environment}
  {answer : Answer WatchError Summary}

/-- The watcher that an invocation asks for. -/
def watcher (invocation : Invocation) : Watcher where
  settings := invocation.request

/-- The settings of an invocation are usable, and there is a cancel handle for
its watch, which needs a thread next. -/
structure IsReady (invocation : Invocation) (env : Environment)
    (cancel : Descriptor) (ready : Environment) : Prop where
  usable : invocation.settings = .ok invocation.request
  made : Channel.createCancel
    (env.note (.watching invocation.cgroup invocation.format)) =
      (.ok cancel, ready)

/-- How the watch of an invocation comes to its answer: the settings are not
usable, or no cancel handle can be made, or the watcher runs with one on a
thread. -/
inductive Supervised (packages : Packages) (invocation : Invocation)
    (env : Environment) : Answer WatchError Summary → Prop
  | unusable {error : WatchError}
      (rejected : invocation.settings = .error error) :
      Supervised packages invocation env (.failed error)
  | unstoppable {error : WatchError} {after : Environment}
      (usable : invocation.settings = .ok invocation.request)
      (unmade : Channel.createCancel
        (env.note (.watching invocation.cgroup invocation.format)) =
          (.error error, after)) :
      Supervised packages invocation env (.failed error)
  | run {cancel : Descriptor} {ready : Environment} {host : Host}
      (isReady : IsReady invocation env cancel ready)
      (threaded : packages.thread ready.host = some host) :
      Supervised packages invocation env
        ({ watcher invocation with cancel := some cancel }.run
          (listen packages cancel { ready with host })).1

theorem settings_eq_ok {settings : Settings}
    (usable : invocation.settings = .ok settings) :
    settings = invocation.request := by
  rw [Invocation.settings] at usable
  split at usable
  · cases usable
  · exact (Except.ok.inj usable).symm

theorem sink_createCancel {outcome : Except WatchError Descriptor}
    (made : Channel.createCancel env = (outcome, after)) :
    after.sink = env.sink := by
  calc
    after.sink = (Channel.createCancel env).2.sink := by rw [made]
    _ = env.sink := by
      rw [Channel.createCancel, Environment.create]
      rcases env.host.create (.counter 0) with ⟨cause | handle, host⟩ <;> rfl

theorem sink_listen (packages : Packages) (cancel : Descriptor)
    (env : Environment) : (listen packages cancel env).sink = env.sink := by
  rw [listen]
  cases packages.listen env.host <;> rfl

/-- There is no watch without a thread. -/
theorem supervise_of_unthreaded {cancel : Descriptor} {ready : Environment}
    (isReady : IsReady invocation env cancel ready)
    (unthreaded : packages.thread ready.host = none) :
    supervise packages invocation env = none := by
  obtain ⟨usable, made⟩ := isReady
  rw [supervise, usable]
  dsimp only [Invocation.request] at made ⊢
  rw [made]
  dsimp only
  rw [unthreaded]

/-- The watch of an invocation breaks off for want of a thread, or it has an
answer, and its output has records and nothing else. -/
theorem supervise_cases (packages : Packages) (invocation : Invocation)
    {env : Environment} (honest : Sink.IsHonest env.sink.writes) :
    (supervise packages invocation env = none ∧
        ∃ cancel ready, IsReady invocation env cancel ready ∧
          packages.thread ready.host = none) ∨
      ∃ answer after calls,
        supervise packages invocation env = some (answer, after) ∧
        Supervised packages invocation env answer ∧
        after.sink.calls = env.sink.calls ++ calls ∧
        (watcher invocation).Prints answer (Sink.received calls) := by
  rw [supervise]
  rcases usable : invocation.settings with error | settings
  · exact Or.inr ⟨_, _, [], rfl, .unusable usable, by simp, .nothing _ error⟩
  cases settings_eq_ok usable
  dsimp only [Invocation.request]
  rcases made : Channel.createCancel
      (env.note (.watching invocation.cgroup invocation.format)) with
    ⟨error | cancel, ready⟩
  · have sink := sink_createCancel made
    exact Or.inr ⟨_, _, [], rfl, .unstoppable usable made,
      by simp [sink, Environment.note], .nothing _ error⟩
  have isReady : IsReady invocation env cancel ready := ⟨usable, made⟩
  have sink : ready.sink = env.sink := (sink_createCancel made).trans rfl
  dsimp only
  cases threaded : packages.thread ready.host with
  | none => exact Or.inl ⟨rfl, cancel, ready, isReady, threaded⟩
  | some host =>
      have kept : (listen packages cancel { ready with host }).sink = env.sink :=
        (sink_listen _ _ _).trans sink
      obtain ⟨calls, taken, prints⟩ :=
        @Watcher.prints_run
          { watcher invocation with cancel := some cancel }
          (listen packages cancel { ready with host })
          (by rwa [kept])
      exact Or.inr ⟨_, _, calls, rfl, .run isReady threaded,
        taken.trans (by rw [kept]), prints.of_settings rfl⟩

/-! ## The end of the program -/

/-- The surroundings once the runtime is made, if it can be made. -/
def begun (packages : Packages) (env : Environment) : Environment :=
  match packages.runtime env.host with
  | none => env
  | some host => { env with host }

/-- The surroundings in which the watch of the program begins. -/
def opening (packages : Packages) (env : Environment) : Environment :=
  (begun packages env).note (.starting CommandLine.version)

/-- What the program needs to go on to its end: a runtime and a name, and once
its command line is accepted a filter for its events and a thread. -/
structure Proceeds (packages : Packages) (words : List Path)
    (logSetting : Option (List UInt8)) (env : Environment) : Prop where
  runtime : packages.runtime env.host ≠ none
  name : name? words ≠ none
  filter : ∀ invocation, packages.parse words = .ok invocation →
    filter? packages invocation logSetting ≠ none
  thread : ∀ invocation cancel ready, packages.parse words = .ok invocation →
    IsReady invocation (opening packages env) cancel ready →
      packages.thread ready.host ≠ none

/-- The parser takes the command line for a request for information. -/
def Informs (packages : Packages) (words : List Path) : Prop :=
  ∃ text, packages.parse words = .error ⟨false, text⟩

/-- The parser finds a fault in the command line. -/
def Misuses (packages : Packages) (words : List Path) : Prop :=
  ∃ text, packages.parse words = .error ⟨true, text⟩

/-- The command line is accepted and the watch that it asks for comes to an
answer. -/
def Watches (packages : Packages) (words : List Path) (env : Environment)
    (invocation : Invocation) (answer : Answer WatchError Summary) : Prop :=
  packages.parse words = .ok invocation ∧
    ∃ after, supervise packages invocation (opening packages env) =
      some (answer, after)

/-- How a program ends that goes on to its end: with which code, and what it has
told and put out by then. -/
inductive Ending (packages : Packages) (words : List Path)
    (env : Environment) : ProgramExit → Prop
  | informed {output : List UInt8} (asked : Informs packages words) :
      Ending packages words env ⟨0, output, []⟩
  | misused {text : String} (misuse : Misuses packages words) :
      Ending packages words env ⟨1, [], [.fault text]⟩
  | watched {invocation : Invocation} {summary : Summary}
      {output : List UInt8} {told : List Diagnostic}
      (watches : Watches packages words env invocation (.done summary))
      (prints : (watcher invocation).Prints (.done summary) output) :
      Ending packages words env ⟨0, output, told⟩
  | failed {invocation : Invocation} {error : WatchError} {name : String}
      {output : List UInt8} {told : List Diagnostic}
      (watches : Watches packages words env invocation (.failed error))
      (named : name? words = some name)
      (prints : (watcher invocation).Prints (.failed error) output) :
      Ending packages words env ⟨1, output, told ++ [.failure name error]⟩

variable {words : List Path} {logSetting : Option (List UInt8)}
  {exit : ProgramExit}

theorem sink_opening (packages : Packages) (env : Environment) :
    (opening packages env).sink = env.sink := by
  change (begun packages env).sink = env.sink
  rw [begun]
  cases packages.runtime env.host <;> rfl

/-- What comes of an accepted command line. -/
theorem perform_cases {name : String} {shows : LogEvent → Bool}
    (named : name? words = some name)
    (accepted : packages.parse words = .ok invocation)
    (honest : Sink.IsHonest env.sink.writes) (silent : env.sink.calls = []) :
    (perform packages name shows invocation (begun packages env) = .panicked ∧
        ∃ cancel ready,
          IsReady invocation (opening packages env) cancel ready ∧
            packages.thread ready.host = none) ∨
      (∀ cancel ready,
          IsReady invocation (opening packages env) cancel ready →
            packages.thread ready.host ≠ none) ∧
        ((perform packages name shows invocation (begun packages env) =
              .endless ∧
            Watches packages words env invocation .blocked) ∨
          ∃ exit, perform packages name shows invocation
              (begun packages env) = .exited exit ∧
            Ending packages words env exit) := by
  have sink := sink_opening packages env
  have still : Sink.IsHonest (opening packages env).sink.writes := by
    rwa [sink]
  have performed : perform packages name shows invocation
      (begun packages env) =
        conclude name shows
          (supervise packages invocation (opening packages env)) := rfl
  rw [performed]
  obtain ⟨broken, unthreaded⟩ |
    ⟨answer, after, calls, answered, _, taken, prints⟩ :=
    supervise_cases packages invocation still
  · rw [broken]
    exact Or.inl ⟨rfl, unthreaded⟩
  refine Or.inr ⟨fun cancel ready isReady unthreaded => ?_, ?_⟩
  · rw [supervise_of_unthreaded isReady unthreaded] at answered
    cases answered
  rw [sink, silent, List.nil_append] at taken
  rw [← taken] at prints
  have watches : Watches packages words env invocation answer :=
    ⟨accepted, after, answered⟩
  rw [answered]
  cases answer with
  | blocked => exact Or.inl ⟨rfl, watches⟩
  | failed error => exact Or.inr ⟨_, rfl, .failed watches named prints⟩
  | done summary => exact Or.inr ⟨_, rfl, .watched watches prints⟩

/-- A program breaks off for want of something that it needs.  If it has all of
it, it goes on for ever with its watch or ends in one of four ways. -/
theorem run_cases (logSetting : Option (List UInt8))
    (honest : Sink.IsHonest env.sink.writes) (silent : env.sink.calls = []) :
    (run packages words logSetting env = .panicked ∧
        ¬ Proceeds packages words logSetting env) ∨
      Proceeds packages words logSetting env ∧
        ((run packages words logSetting env = .endless ∧
            ∃ invocation, Watches packages words env invocation .blocked) ∨
          ∃ exit, run packages words logSetting env = .exited exit ∧
            Ending packages words env exit) := by
  rw [run]
  cases started : packages.runtime env.host with
  | none => exact Or.inl ⟨rfl, fun proceeds => proceeds.runtime started⟩
  | some host =>
  cases named : name? words with
  | none => exact Or.inl ⟨rfl, fun proceeds => proceeds.name named⟩
  | some name =>
  have surroundings : { env with host } = begun packages env := by
    rw [begun, started]
  dsimp only
  rw [surroundings]
  have runtime : packages.runtime env.host ≠ none := by simp [started]
  have called : name? words ≠ none := by simp [named]
  cases parsed : packages.parse words with
  | error notice =>
      refine Or.inr ⟨⟨runtime, called, ?_, ?_⟩, Or.inr ?_⟩
      · intro invocation accepted
        cases parsed.symm.trans accepted
      · intro invocation _ _ accepted
        cases parsed.symm.trans accepted
      · obtain ⟨isFault, text⟩ := notice
        cases isFault with
        | true => exact ⟨_, rfl, .misused ⟨text, parsed⟩⟩
        | false => exact ⟨_, rfl, .informed ⟨text, parsed⟩⟩
  | ok invocation =>
      dsimp only
      cases filtered : filter? packages invocation logSetting with
      | none =>
          exact Or.inl ⟨rfl, fun proceeds =>
            proceeds.filter invocation parsed filtered⟩
      | some shows =>
          obtain ⟨broken, cancel, ready, isReady, unthreaded⟩ |
            ⟨threaded, performed⟩ :=
            @perform_cases _ _ _ words _ shows named parsed honest silent
          · exact Or.inl ⟨broken, fun proceeds =>
              proceeds.thread invocation cancel ready parsed isReady unthreaded⟩
          refine Or.inr ⟨⟨runtime, called, ?_, ?_⟩, ?_⟩
          · intro other accepted
            cases parsed.symm.trans accepted
            simp [filtered]
          · intro other cancel ready accepted isReady
            cases parsed.symm.trans accepted
            exact threaded cancel ready isReady
          · obtain ⟨endless, watches⟩ | ended := performed
            · exact Or.inl ⟨endless, invocation, watches⟩
            · exact Or.inr ended

/-- A program breaks off just when it lacks something that it needs. -/
theorem run_eq_panicked_iff (honest : Sink.IsHonest env.sink.writes)
    (silent : env.sink.calls = []) :
    run packages words logSetting env = .panicked ↔
      ¬ Proceeds packages words logSetting env := by
  obtain ⟨broken, wants⟩ | ⟨proceeds, ⟨endless, _⟩ | ⟨exit, ended, _⟩⟩ :=
    @run_cases packages env words logSetting honest silent
  · exact iff_of_true broken wants
  · exact iff_of_false (by simp [endless]) (not_not_intro proceeds)
  · exact iff_of_false (by simp [ended]) (not_not_intro proceeds)

/-- What the end of a program says about what has happened. -/
structure Accounts (packages : Packages) (words : List Path)
    (env : Environment) (exit : ProgramExit) : Prop where
  /-- Zero stands for information and for a watch that is over. -/
  zero : exit.exitCode = 0 ↔
    Informs packages words ∨
      ∃ invocation summary,
        Watches packages words env invocation (.done summary)
  /-- One stands for everything else. -/
  one : exit.exitCode = 1 ↔
    Misuses packages words ∨
      ∃ invocation error,
        Watches packages words env invocation (.failed error)
  /-- The error of a watch is told last, under the name of the program. -/
  last : ∀ invocation error,
    Watches packages words env invocation (.failed error) →
      ∃ name, name? words = some name ∧
        (exit.diagnostics.getLast?).map Diagnostic.text =
          some s!"{name}: {error.chain}"
  /-- An answer of the watch is that of its settings, of the cancel handle or of
  its run. -/
  supervised : ∀ invocation answer,
    Watches packages words env invocation answer →
      Supervised packages invocation (opening packages env) answer
  /-- The output of a watch has its records and nothing else. -/
  records : ∀ invocation answer,
    Watches packages words env invocation answer →
      (watcher invocation).Prints answer exit.output

namespace Watches

variable {first second : Invocation} {other : Answer WatchError Summary}

theorem supervised (watches : Watches packages words env invocation answer)
    (honest : Sink.IsHonest env.sink.writes) :
    Supervised packages invocation (opening packages env) answer := by
  obtain ⟨_, after, answered⟩ := watches
  have still : Sink.IsHonest (opening packages env).sink.writes := by
    rwa [sink_opening]
  obtain ⟨broken, _⟩ | ⟨given, last, _, came, supervised, _⟩ :=
    supervise_cases packages invocation still
  · cases answered.symm.trans broken
  · cases answered.symm.trans came
    exact supervised

theorem functional (watches : Watches packages words env first answer)
    (again : Watches packages words env second other) :
    first = second ∧ answer = other := by
  obtain ⟨accepted, _, answered⟩ := watches
  obtain ⟨same, _, came⟩ := again
  cases accepted.symm.trans same
  cases answered.symm.trans came
  exact ⟨rfl, rfl⟩

theorem not_misuses (watches : Watches packages words env invocation answer) :
    ¬ Misuses packages words := by
  rintro ⟨text, misuse⟩
  cases watches.1.symm.trans misuse

theorem not_informs (watches : Watches packages words env invocation answer) :
    ¬ Informs packages words := by
  rintro ⟨text, asked⟩
  cases watches.1.symm.trans asked

end Watches

theorem Misuses.not_informs (misuse : Misuses packages words) :
    ¬ Informs packages words := by
  obtain ⟨_, misuse⟩ := misuse
  rintro ⟨text, asked⟩
  cases misuse.symm.trans asked

namespace Ending

theorem exitCode (ending : Ending packages words env exit) :
    exit.exitCode = 0 ∨ exit.exitCode = 1 := by
  cases ending with
  | informed asked => exact Or.inl rfl
  | misused misuse => exact Or.inr rfl
  | watched watches prints => exact Or.inl rfl
  | failed watches named prints => exact Or.inr rfl

theorem exitCode_eq_zero_iff (ending : Ending packages words env exit) :
    exit.exitCode = 0 ↔
      Informs packages words ∨
        ∃ invocation summary,
          Watches packages words env invocation (.done summary) := by
  cases ending with
  | informed asked => exact iff_of_true rfl (Or.inl asked)
  | misused misuse =>
      refine iff_of_false (show (1 : UInt8) ≠ 0 by decide) ?_
      rintro (asked | ⟨_, _, watches⟩)
      · exact misuse.not_informs asked
      · exact watches.not_misuses misuse
  | watched watches prints => exact iff_of_true rfl (Or.inr ⟨_, _, watches⟩)
  | failed watches named prints =>
      refine iff_of_false (show (1 : UInt8) ≠ 0 by decide) ?_
      rintro (asked | ⟨_, _, ended⟩)
      · exact watches.not_informs asked
      · cases (watches.functional ended).2

theorem exitCode_eq_one_iff (ending : Ending packages words env exit) :
    exit.exitCode = 1 ↔
      Misuses packages words ∨
        ∃ invocation error,
          Watches packages words env invocation (.failed error) := by
  cases ending with
  | informed asked =>
      refine iff_of_false (show (0 : UInt8) ≠ 1 by decide) ?_
      rintro (misuse | ⟨_, _, watches⟩)
      · exact misuse.not_informs asked
      · exact watches.not_informs asked
  | misused misuse => exact iff_of_true rfl (Or.inl misuse)
  | watched watches prints =>
      refine iff_of_false (show (0 : UInt8) ≠ 1 by decide) ?_
      rintro (misuse | ⟨_, _, failing⟩)
      · exact watches.not_misuses misuse
      · cases (watches.functional failing).2
  | failed watches named prints =>
      exact iff_of_true rfl (Or.inr ⟨_, _, watches⟩)

theorem text_getLast? {error : WatchError}
    (ending : Ending packages words env exit)
    (failing : Watches packages words env invocation (.failed error)) :
    ∃ name, name? words = some name ∧
      (exit.diagnostics.getLast?).map Diagnostic.text =
        some s!"{name}: {error.chain}" := by
  cases ending with
  | informed asked => exact absurd asked failing.not_informs
  | misused misuse => exact absurd misuse failing.not_misuses
  | watched watches prints => cases (watches.functional failing).2
  | failed watches named prints =>
      cases (watches.functional failing).2
      exact ⟨_, named, by simp [Diagnostic.text]⟩

theorem prints_output (ending : Ending packages words env exit)
    (watches : Watches packages words env invocation answer) :
    (watcher invocation).Prints answer exit.output := by
  cases ending with
  | informed asked => exact absurd asked watches.not_informs
  | misused misuse => exact absurd misuse watches.not_misuses
  | watched ended prints | failed ended named prints =>
      obtain ⟨rfl, rfl⟩ := ended.functional watches
      exact prints

theorem accounts (ending : Ending packages words env exit)
    (honest : Sink.IsHonest env.sink.writes) :
    Accounts packages words env exit where
  zero := ending.exitCode_eq_zero_iff
  one := ending.exitCode_eq_one_iff
  last _ _ failing := ending.text_getLast? failing
  supervised _ _ watches := watches.supervised honest
  records _ _ watches := ending.prints_output watches

end Ending

/-- A program that has what it needs never breaks off.  It goes on for ever with
its watch, or it exits with zero or one, which say what its command line and its
watch have come to. -/
theorem exit_run (honest : Sink.IsHonest env.sink.writes)
    (silent : env.sink.calls = [])
    (proceeds : Proceeds packages words logSetting env) :
    (run packages words logSetting env = .endless ∧
        ∃ invocation, Watches packages words env invocation .blocked) ∨
      ∃ exit, run packages words logSetting env = .exited exit ∧
        (exit.exitCode = 0 ∨ exit.exitCode = 1) ∧
        Accounts packages words env exit := by
  obtain ⟨_, wants⟩ | ⟨_, endless | ⟨exit, ended, ending⟩⟩ :=
    @run_cases packages env words logSetting honest silent
  · exact absurd proceeds wants
  · exact Or.inl endless
  · exact Or.inr ⟨exit, ended, ending.exitCode, ending.accounts honest⟩

/-- The words of a command line that names a cgroup. -/
def wordsSample : List Path :=
  [⟨[0x77]⟩, ⟨[0x67]⟩]

/-- The cgroup is there and is notified once.  The output takes two bytes of the
record and is full then. -/
def fullSample : Environment :=
  { Rehearsal.environment (some ⟨[0x67]⟩) ["7"] with
    sink := { writes := [.accept 2, .fail .noSpace] } }

theorem proceeds_fullSample :
    Proceeds Rehearsal.packages wordsSample none fullSample where
  runtime := nofun
  name := by decide
  filter _ _ := nofun
  thread _ _ _ _ _ := nofun

/-- The record is cut, and the error is told. -/
def fullExit : ProgramExit where
  exitCode := 1
  output := Utf8.ofString "oo"
  diagnostics :=
    [.event (.starting CommandLine.version), .event (.watching ⟨[0x67]⟩ .text),
      .event (.subscribed ⟨[0x67]⟩ 4 6), .event (.notified ⟨[0x67]⟩ 7),
      .failure "w" (.sink .noSpace)]

theorem exit_run_fullSample :
    Sink.IsHonest fullSample.sink.writes ∧ fullSample.sink.calls = [] ∧
      Proceeds Rehearsal.packages wordsSample none fullSample ∧
      run Rehearsal.packages wordsSample none fullSample = .exited fullExit ∧
      Accounts Rehearsal.packages wordsSample fullSample fullExit := by
  have honest : Sink.IsHonest fullSample.sink.writes := by
    simp [Sink.IsHonest, fullSample]
  have ended : run Rehearsal.packages wordsSample none fullSample =
      .exited fullExit := by decide +kernel
  refine ⟨honest, rfl, proceeds_fullSample, ended, ?_⟩
  obtain ⟨endless, _⟩ | ⟨exit, came, _, accounts⟩ :=
    exit_run honest rfl proceeds_fullSample
  · cases ended.symm.trans endless
  · cases ended.symm.trans came
    exact accounts

/-- A fault that stands before a request for information is found first.  And a
program breaks off, whatever it was asked, without a runtime or a well-formed
name, and later on without a thread or if its log setting is cut inside a
character. -/
theorem exit_run_bogusSample :
    let packages := Rehearsal.packages
    let env := Rehearsal.environment none []
    let asking := ["oomwatch", "--bogus", "--help"].map fun word =>
      (⟨Utf8.ofString word⟩ : Path)
    run packages asking none env =
        .exited ⟨1, [],
          [.fault "error: unexpected argument '--bogus' found"]⟩ ∧
      run { packages with runtime := fun _ => none } asking none env =
        .panicked ∧
      run packages (⟨[0xFF]⟩ :: asking.tail) none env = .panicked ∧
      run { packages with thread := fun _ => none } wordsSample none env =
        .panicked ∧
      run packages wordsSample (some (Utf8.ofString " é=info")) env =
        .panicked := by
  decide +kernel

end Program

end MemoryWatch
