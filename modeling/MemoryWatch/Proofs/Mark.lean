import MemoryWatch.Proofs.Life

/-!
# What the mark of a registration says

A watcher is past the guards of a watch when it holds a channel and keeps the
text of a registration.  The text is kept from the write call on, also when the
strict policy then makes the subscription fail, and it is kept when the handles
are given up.  So a watcher can be past its guards without a subscription that
went through, and with a channel that was never registered.  Both happen in no
other way: this file says exactly when.
-/

namespace MemoryWatch

namespace Step

/-- Whether a step writes a registration. -/
def isRegistration : Step → Bool
  | registered _ _ => true
  | opened _ | closed _ | waited _ _ | read _ | delivered _ _ | probed _
  | added _ | interrupted => false

theorem isRegistration_of_isTurnover (step : Step)
    (turnover : step.isTurnover = true) : step.isRegistration = false := by
  cases step <;> simp_all [isTurnover, isRegistration]

theorem isRegistration_of_not_isHandling (step : Step)
    (unhandled : step.isHandling = false) : step.isRegistration = false := by
  cases step <;> simp_all [isHandling, isRegistration]

end Step

namespace Watcher

variable {watcher : Watcher} {env : Environment}

theorem setup_handles (watcher : Watcher) (coherent : env.host.IsCoherent) :
    (watcher.setup env).2.1.settings = watcher.settings ∧
      (watcher.setup env).2.1.handles.registration =
        watcher.handles.registration ∧
      (watcher.setup env).2.1.handles.oomControl =
        watcher.handles.oomControl := by
  obtain ⟨_, result⟩ | ⟨_, _, _, _, _, _, result⟩ :=
    watcher.setup_cases coherent
  · rw [result]
    exact ⟨rfl, rfl, rfl⟩
  · rw [result]
    exact ⟨rfl, rfl, rfl⟩

theorem continues_setup (watcher : Watcher)
    (coherent : env.host.IsCoherent) :
    Environment.Continues (fun step => step.isTurnover = true) env
      (watcher.setup env).2.2 := by
  obtain ⟨_, result⟩ | ⟨_, _, _, _, opens, _, result⟩ :=
    watcher.setup_cases coherent
  · rw [result]
    exact .of_eq rfl
  · rw [result]
    exact opens.continues.trans (.of_eq rfl)

theorem continues_cleanup (watcher : Watcher) (env : Environment) :
    Environment.Continues (fun step => step.isTurnover = true) env
      (watcher.cleanup env).2.2 := by
  refine ⟨_, trace_closeHandles _ env, ?_⟩
  intro step member
  obtain ⟨handle, _, rfl⟩ := List.mem_map.mp member
  rfl

theorem continues_watch (watcher : Watcher) (env : Environment) :
    Environment.Continues (fun step => step.isHandling = false) env
      (watcher.watch env).2 := by
  cases watched : watcher.watched? with
  | none =>
      obtain ⟨fault, result⟩ := watch_of_not_watched? watched env
      rw [result]
      exact .of_eq rfl
  | some channel => exact (Motions.watch watched env).continues

theorem Outside.continues {after : Environment}
    (outside : watcher.Outside env after) :
    Environment.Continues (fun step => step.isHandling = false) env
      after := by
  cases outside with
  | notified count held same =>
      rw [Environment.add_snd]
      refine ⟨_, rfl, ?_⟩
      split <;> simp [Step.isHandling]
  | elsewhere changes => exact .of_eq changes.trace

end Watcher

/-- Some step wrote a registration under the strict policy and not whole. -/
def IncompletelyRegistered (policy : RegistrationPolicy) (steps : List Step) :
    Prop :=
  policy = .strict ∧ ∃ bytes answer, .registered bytes answer ∈ steps ∧
    answer ≠ .done bytes.length

/-- How the text that is kept of a registration goes with the past of the
watcher. -/
inductive Marked (policy : RegistrationPolicy) (history : List Outcome)
    (steps : List Step) : Option String → Prop
  | unwritten (unsubscribed : .subscribed (.ok ()) ∉ history)
      (silent : ∀ step ∈ steps, step.isRegistration = false) :
      Marked policy history steps none
  | accepted {text : String} (subscribed : .subscribed (.ok ()) ∈ history)
      (complete : ¬ IncompletelyRegistered policy steps) :
      Marked policy history steps (some text)
  | rejected {text : String} (unsubscribed : .subscribed (.ok ()) ∉ history)
      (incomplete : IncompletelyRegistered policy steps) :
      Marked policy history steps (some text)

namespace Marked

variable {policy : RegistrationPolicy} {history : List Outcome}
  {steps : List Step} {mark : Option String}

theorem incompletelyRegistered_append {more : List Step}
    (unwritten : ∀ step ∈ more, step.isRegistration = false) :
    IncompletelyRegistered policy (steps ++ more) ↔
      IncompletelyRegistered policy steps := by
  constructor
  · rintro ⟨strict, bytes, answer, member, incomplete⟩
    rcases List.mem_append.mp member with early | late
    · exact ⟨strict, bytes, answer, early, incomplete⟩
    · cases unwritten _ late
  · rintro ⟨strict, bytes, answer, member, incomplete⟩
    exact ⟨strict, bytes, answer, List.mem_append_left _ member, incomplete⟩

/-- What neither writes a registration nor subscribes changes nothing. -/
theorem still (marked : Marked policy history steps mark) {more : List Step}
    {later : List Outcome}
    (unwritten : ∀ step ∈ more, step.isRegistration = false)
    (unsubscribed : .subscribed (.ok ()) ∉ later) :
    Marked policy (history ++ later) (steps ++ more) mark := by
  have outcomes : .subscribed (.ok ()) ∈ history ++ later ↔
      .subscribed (.ok ()) ∈ history := by
    simp [unsubscribed]
  have writes : IncompletelyRegistered policy (steps ++ more) ↔
      IncompletelyRegistered policy steps :=
    incompletelyRegistered_append unwritten
  cases marked with
  | unwritten never silent =>
      refine .unwritten (by rwa [outcomes]) ?_
      intro step member
      rcases List.mem_append.mp member with early | late
      · exact silent step early
      · exact unwritten step late
  | accepted subscribed complete =>
      exact .accepted (outcomes.mpr subscribed) (by rwa [writes])
  | rejected never incomplete =>
      exact .rejected (by rwa [outcomes]) (writes.mpr incomplete)

theorem continues (marked : Marked policy history steps mark)
    (later : List Outcome) {start before after : Environment}
    (shown : before.trace = start.trace ++ steps)
    (goesOn : Environment.Continues (fun step => step.isRegistration = false)
      before after)
    (unsubscribed : .subscribed (.ok ()) ∉ later) :
    ∃ more, after.trace = start.trace ++ more ∧
      Marked policy (history ++ later) more mark := by
  obtain ⟨more, further, unwritten⟩ := goesOn
  refine ⟨steps ++ more, ?_, marked.still unwritten unsubscribed⟩
  rw [further, shown, List.append_assoc]

/-- A first write of the text decides the mark. -/
theorem written (marked : Marked policy history steps none) {more : List Step}
    (silent : ∀ step ∈ more, step.isRegistration = false) {bytes : List UInt8}
    {answer : Answer SystemError Nat} :
    IncompletelyRegistered policy
        (steps ++ (more ++ [.registered bytes answer])) ↔
      policy = .strict ∧ answer ≠ .done bytes.length := by
  cases marked with
  | unwritten _ before =>
      -- No step before the last one has written anything.
      constructor
      · rintro ⟨strict, found, given, member, incomplete⟩
        rcases List.mem_append.mp member with early | late
        · cases before _ early
        · rcases List.mem_append.mp late with between | last
          · cases silent _ between
          · cases List.mem_singleton.mp last
            exact ⟨strict, incomplete⟩
      · rintro ⟨strict, incomplete⟩
        exact ⟨strict, bytes, answer, by simp, incomplete⟩

theorem not_incompletelyRegistered
    (silent : ∀ step ∈ steps, step.isRegistration = false) :
    ¬ IncompletelyRegistered policy steps := by
  rintro ⟨_, bytes, answer, member, _⟩
  cases silent _ member

/-- The text is kept after a subscription that went through, or one that was
rejected after its write. -/
theorem isSome_iff (marked : Marked policy history steps mark) :
    mark.isSome = true ↔
      .subscribed (.ok ()) ∈ history ∨
        IncompletelyRegistered policy steps := by
  cases marked with
  | unwritten never silent =>
      simp [never, not_incompletelyRegistered silent]
  | accepted subscribed complete => simp [subscribed]
  | rejected never incomplete => simp [incomplete]

/-- The text means that a subscription went through, unless one was rejected
after its write. -/
theorem isSome_imp_iff (marked : Marked policy history steps mark) :
    (mark.isSome = true → .subscribed (.ok ()) ∈ history) ↔
      ¬ IncompletelyRegistered policy steps := by
  cases marked with
  | unwritten never silent => simp [not_incompletelyRegistered silent]
  | accepted subscribed complete => simp [subscribed, complete]
  | rejected never incomplete => simp [never, incomplete]

end Marked

namespace Watcher.Subscribing

variable {watcher next : Watcher} {start env after : Environment}
  {result : Except WatchError Unit} {history : List Outcome}
  {steps : List Step}

/-- A subscription leaves the mark that belongs to what it has come to. -/
theorem marked (subscribing : Subscribing watcher env result next after)
    (owns : watcher.Owns env) (shown : env.trace = start.trace ++ steps)
    (marked : Marked watcher.settings.registration history steps
      watcher.handles.registration) :
    ∃ more, after.trace = start.trace ++ more ∧
      Marked watcher.settings.registration (history ++ [.subscribed result])
        more next.handles.registration := by
  cases subscribing with
  | refused fault => exact marked.continues _ shown (.of_eq rfl) (by simp)
  | noEventControl cause unmarked =>
      exact marked.continues _ shown (.of_eq rfl) (by simp)
  | noOomControl cause unmarked open_ held =>
      have opens := Environment.opens_openPath owns.coherent open_
      have quiet := (opens.continues.trans
        (Environment.continues_closeHeld _ watcher.handles.eventControl)).mono
        Step.isRegistration_of_isTurnover
      exact marked.continues _ shown quiet (by simp)
  | unwritten error controls unnamed =>
      have quiet := (controls.continues owns.coherent).mono
        Step.isRegistration_of_isTurnover
      rw [controls.unmarked] at marked
      exact marked.continues _ shown quiet (by simp)
  | @rejected _ _ _ _ _ text answer _ controls named writes strict
      incomplete =>
      obtain ⟨more, further, silent⟩ := (controls.continues owns.coherent).mono
        Step.isRegistration_of_isTurnover
      rw [controls.unmarked] at marked
      have written : after.trace = start.trace ++ (steps ++ (more ++
          [.registered (Utf8.ofString text) answer])) := by
        rw [writes.trace, further, shown]
        simp
      refine ⟨_, written,
        .rejected ?_ ((marked.written silent).mpr ⟨strict, incomplete⟩)⟩
      cases marked with
      | unwritten never _ => simpa using never
  | @accepted _ control _ _ registered text answer event controls named writes
      passed =>
      obtain ⟨more, further, silent⟩ := (controls.continues owns.coherent).mono
        Step.isRegistration_of_isTurnover
      rw [controls.unmarked] at marked
      have written : (registered.close control).trace =
          start.trace ++ (steps ++ (more ++
            [.registered (Utf8.ofString text) answer]) ++
            [.closed control]) := by
        rw [Environment.close, Environment.record]
        dsimp only
        rw [writes.trace, further, shown]
        simp
      refine ⟨_, written, .accepted (by simp) ?_⟩
      rw [Marked.incompletelyRegistered_append (by simp [Step.isRegistration]),
        marked.written silent]
      rintro ⟨strict, incomplete⟩
      rcases passed with lenient | complete
      · rw [lenient] at strict
        cases strict
      · exact incomplete complete

end Watcher.Subscribing

namespace Life

variable {origin session : Session} {history : List Outcome}

theorem settings (life : Life origin history session)
    (owns : origin.watcher.Owns origin.env) :
    session.watcher.settings = origin.watcher.settings := by
  induction life with
  | born => rfl
  | setup life ih =>
      exact (Watcher.setup_handles _ (life.owns owns).coherent).1.trans ih
  | @subscribe _ session _ ih =>
      exact (session.watcher.subscribing_subscribe session.env).settings.trans
        ih
  | watch _ ih | cleanup _ ih | notifier _ _ ih | outside _ _ ih => exact ih

/-- The mark that a watcher carries belongs to its past. -/
theorem marked (life : Life origin history session) (fresh : origin.IsFresh) :
    ∃ steps, session.env.trace = origin.env.trace ++ steps ∧
      Marked origin.watcher.settings.registration history steps
        session.watcher.handles.registration := by
  induction life with
  | born =>
      refine ⟨[], by simp, ?_⟩
      rw [fresh.handles]
      exact .unwritten (by simp) (by simp)
  | setup life ih =>
      obtain ⟨steps, shown, marked⟩ := ih
      have owns := life.owns fresh.owns
      rw [Session.setup, (Watcher.setup_handles _ owns.coherent).2.1]
      exact marked.continues _ shown ((Watcher.continues_setup _ owns.coherent).mono
        Step.isRegistration_of_isTurnover) (by simp)
  | @subscribe _ session life ih =>
      obtain ⟨steps, shown, marked⟩ := ih
      have owns := life.owns fresh.owns
      rw [← life.settings fresh.owns] at marked ⊢
      exact (session.watcher.subscribing_subscribe session.env).marked owns
        shown marked
  | @watch _ session _ ih =>
      obtain ⟨steps, shown, marked⟩ := ih
      exact marked.continues _ shown
        ((session.watcher.continues_watch session.env).mono
          Step.isRegistration_of_not_isHandling) (by simp)
  | @cleanup _ session _ ih =>
      obtain ⟨steps, shown, marked⟩ := ih
      exact marked.continues _ shown
        ((session.watcher.continues_cleanup session.env).mono
          Step.isRegistration_of_isTurnover) (by simp)
  | notifier _ _ ih =>
      obtain ⟨steps, shown, marked⟩ := ih
      exact marked.continues _ shown (.of_eq rfl) (by simp)
  | outside _ outside ih =>
      obtain ⟨steps, shown, marked⟩ := ih
      have goesOn := marked.continues [] shown (outside.continues.mono
        Step.isRegistration_of_not_isHandling) (by simp)
      rw [List.append_nil] at goesOn
      exact goesOn

/-- A watcher counts as subscribed when a subscription has gone through, or when
the strict policy has rejected a registration that was already written.  Only in
the second case is it subscribed although no subscription has gone through. -/
theorem isSubscribed_iff (fresh : origin.IsFresh)
    (life : Life origin history session) :
    ∃ steps, session.env.trace = origin.env.trace ++ steps ∧
      (session.watcher.handles.isSubscribed = true ↔
        .subscribed (.ok ()) ∈ history ∨
          IncompletelyRegistered origin.watcher.settings.registration
            steps) ∧
      ((session.watcher.handles.isSubscribed = true →
          .subscribed (.ok ()) ∈ history) ↔
        ¬ IncompletelyRegistered origin.watcher.settings.registration
          steps) ∧
      ((∀ fault,
          (session.watcher.watch session.env).1 ≠ .failed (.misuse fault)) →
        session.watcher.handles.isSubscribed = true) := by
  have guarded : (∀ fault,
      (session.watcher.watch session.env).1 ≠ .failed (.misuse fault)) →
        session.watcher.handles.isSubscribed = true := by
    intro past
    cases watched : session.watcher.watched? with
    | none =>
        obtain ⟨fault, result⟩ :=
          Watcher.watch_of_not_watched? watched session.env
        exact absurd (congrArg Prod.fst result) (past fault)
    | some channel => exact (Watcher.watched?_eq_some_iff.mp watched).1
  obtain ⟨steps, shown, marked⟩ := life.marked fresh
  exact ⟨steps, shown, marked.isSome_iff, marked.isSome_imp_iff, guarded⟩

end Life

namespace Session

theorem isSubscribed_iff_readySample :
    (sample sampleActions).IsFresh ∧
      ∃ history, Life (sample sampleActions) history readySample.subscribe ∧
        readySample.subscribe.watcher.handles.isSubscribed = true ∧
        ∃ steps,
          readySample.subscribe.env.trace =
            (sample sampleActions).env.trace ++ steps ∧
          (.subscribed (.ok ()) ∈ history ∨
            IncompletelyRegistered .strict steps) := by
  have life : Life (sample sampleActions) _ readySample.subscribe :=
    .subscribe (.setup .born)
  have subscribed :
      readySample.subscribe.watcher.handles.isSubscribed = true := by
    decide +kernel
  obtain ⟨steps, shown, marked, _⟩ := life.isSubscribed_iff isFresh_sample
  exact ⟨isFresh_sample, _, life, subscribed, steps, shown,
    marked.mp subscribed⟩

/-- A cgroup whose file for registrations accepts to be opened and fails every
write. -/
def fullActions : List Action :=
  [.makeDirectories sampleCgroup,
    .makeLink (Cgroup.eventControl sampleCgroup) (Path.ofString "/dev/full"),
    .writeFile (Cgroup.oomControl sampleCgroup) []]

/-- The sample with that cgroup and its channel. -/
def fullSample : Session :=
  (sample fullActions).setup

/-- A watcher whose only subscription has failed is subscribed, and a watch of
it begins to wait. -/
theorem isSubscribed_fullSample :
    (sample fullActions).IsFresh ∧
      ∃ history session, Life (sample fullActions) history session ∧
        .subscribed (.ok ()) ∉ history ∧
        session.watcher.handles.isSubscribed = true ∧
        (session.watcher.watch session.env).1 = .done ⟨.cancelled, 0⟩ := by
  have fresh : (sample fullActions).IsFresh :=
    isFresh_sample_of (by decide +kernel) (by decide +kernel)
  have failed : (fullSample.watcher.subscribe fullSample.env).1 =
      .error (.controlUnavailable (Cgroup.eventControl sampleCgroup)
        (.number 28)) := by
    decide +kernel
  have life : Life (sample fullActions)
      [.setUp ((sample fullActions).watcher.setup (sample fullActions).env).1,
        .subscribed (fullSample.watcher.subscribe fullSample.env).1]
      fullSample.subscribe :=
    .subscribe (.setup .born)
  refine ⟨fresh, _, _, life.reschedule fresh.owns [[.cancel]], ?_,
    by decide +kernel, by decide +kernel⟩
  rw [failed]
  simp

end Session

end MemoryWatch
