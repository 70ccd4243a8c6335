import MemoryWatch.Proofs.Mark

/-!
# Whether the channel of a watch is the registered one

The text of a registration names the channel and the control file that were held
when it was written.  As long as the handles are not given up, a watch waits on
that channel, and the control file stays open.  Giving up the handles forgets
both but keeps the text, so that a channel made later passes for registered.
-/

namespace MemoryWatch

/-- The text of a registration names the descriptors that a session holds, and
they stand for the files for which they stood when it was written. -/
structure Registered (start : List Step) (written session : Session)
    (channel oomControl : Descriptor) (text : String) : Prop where
  channelHeld : session.watcher.handles.channel = some channel
  oomControlHeld : session.watcher.handles.oomControl = some oomControl
  marked : session.watcher.handles.registration = some text
  named : text = s!"{channel} {oomControl}"
  /-- The control file was opened before the text was written, and since then
  neither was closed. -/
  unclosed : ∃ earlier answer later,
    session.env.trace = start ++
      (earlier ++ .registered (Utf8.ofString text) answer :: later) ∧
    .opened oomControl ∈ earlier ∧
    .closed channel ∉ later ∧ .closed oomControl ∉ later
  channelPlace : session.env.host.position? channel =
    written.env.host.position? channel
  oomControlPlace : session.env.host.position? oomControl =
    written.env.host.position? oomControl

namespace Registration

theorem eq_of_message {channel oomControl : Descriptor} {capacity : Nat}
    {text : String}
    (named : message channel oomControl capacity = .ok text) :
    text = s!"{channel} {oomControl}" := by
  rw [message] at named
  split at named
  · cases named
  · cases named
    rfl

end Registration

namespace Watcher.Subscribing

variable {watcher next : Watcher} {env after : Environment}
  {result : Except WatchError Unit}

/-- A subscription that leaves a text has just written it, and the text names
what is then held. -/
theorem registered (subscribing : Subscribing watcher env result next after)
    (owns : watcher.Owns env)
    (unmarked : watcher.handles.registration = none)
    (marked : next.handles.isSubscribed = true) :
    ∃ channel oomControl text,
      Registered env.trace ⟨next, after⟩ ⟨next, after⟩ channel oomControl
        text := by
  cases subscribing with
  | refused fault | noEventControl cause unmarked =>
      simp [Handles.isSubscribed, unmarked] at marked
  | noOomControl cause unmarked open_ held =>
      simp [Handles.isSubscribed, Handles.put, unmarked] at marked
  | unwritten error controls unnamed => simp [Handles.isSubscribed] at marked
  | @rejected channel _ oomControl _ _ text answer _ controls named writes =>
      obtain ⟨steps, shown, opened⟩ := controls.opens owns.coherent
      refine ⟨channel, oomControl, text, rfl, rfl, rfl,
        Registration.eq_of_message named, ?_, rfl, rfl⟩
      refine ⟨steps, answer, [], ?_, opened, by simp, by simp⟩
      rw [writes.trace, shown, List.append_assoc]
  | @accepted channel control oomControl ready registered text answer event
      controls named writes =>
      obtain ⟨steps, shown, opened⟩ := controls.opens owns.coherent
      have holding := controls.owns owns
      have notChannel : control ≠ channel :=
        holding.ne_of_kind_ne .eventControl .channel (by simp) rfl rfl
      have notOomControl : control ≠ oomControl :=
        holding.ne_of_kind_ne .eventControl .oomControl (by simp) rfl rfl
      refine ⟨channel, oomControl, text, rfl, rfl, rfl,
        Registration.eq_of_message named, ?_, rfl, rfl⟩
      refine ⟨steps, answer, [.closed control], ?_, opened,
        by simpa using notChannel.symm, by simpa using notOomControl.symm⟩
      show registered.trace ++ [.closed control] = _
      rw [writes.trace, shown]
      simp

end Watcher.Subscribing

/-- A life goes through a session whose subscription has written the text of a
registration. -/
structure Writing (origin : Session) (history earlier : List Outcome)
    (before : Session) (later : List Outcome) (session : Session) : Prop where
  shown : history = earlier ++
    .subscribed (before.watcher.subscribe before.env).1 :: later
  life : Life origin earlier before
  unmarked : before.watcher.handles.registration = none
  marked : before.subscribe.watcher.handles.isSubscribed = true
  since : Life before.subscribe later session

namespace Writing

variable {origin before session : Session} {history earlier later : List Outcome}

theorem extend (writing : Writing origin history earlier before later session)
    {more : List Outcome} {next : Session}
    (since : Life before.subscribe (later ++ more) next) :
    Writing origin (history ++ more) earlier before (later ++ more) next where
  shown := by rw [writing.shown]; simp
  life := writing.life
  unmarked := writing.unmarked
  marked := writing.marked
  since := since

end Writing

/-- What has become of a registration: the channel is still registered, or the
handles were given up and only the text is kept. -/
inductive Standing (start : List Step) (written : Session)
    (channel oomControl : Descriptor) (text : String) (later : List Outcome)
    (session : Session) : Prop
  | registered (uncleaned : ∀ released, .cleanedUp released ∉ later)
      (registered :
        Registered start written session channel oomControl text) :
      Standing start written channel oomControl text later session
  | surrendered (released : Nat) (cleaned : .cleanedUp released ∈ later)
      (forgotten : session.watcher.handles.oomControl = none)
      (kept : session.watcher.handles.registration = some text) :
      Standing start written channel oomControl text later session

namespace Standing

variable {start : List Step} {written session : Session}
  {channel oomControl : Descriptor} {text : String} {later : List Outcome}

/-- What closes nothing and moves no held descriptor changes nothing. -/
theorem goesOn
    (standing : Standing start written channel oomControl text later session)
    (more : List Outcome) {next : Session}
    (handles : next.watcher.handles = session.watcher.handles)
    (continues : Environment.Continues (fun step => step.isHandling = false)
      session.env next.env)
    (places : ∀ kind descriptor,
      session.watcher.handles.descriptor? kind = some descriptor →
        next.env.host.position? descriptor =
          session.env.host.position? descriptor)
    (uncleaned : ∀ released, .cleanedUp released ∉ more) :
    Standing start written channel oomControl text (later ++ more) next := by
  cases standing with
  | surrendered released cleaned forgotten kept =>
      rw [← handles] at forgotten kept
      exact .surrendered released (List.mem_append_left more cleaned) forgotten
        kept
  | registered unclean registered =>
      obtain ⟨earlier, answer, steps, shown, opened, channelOpen,
        oomControlOpen⟩ := registered.unclosed
      obtain ⟨further, went, unhandled⟩ := continues
      have open_ : ∀ descriptor, .closed descriptor ∉ further := by
        intro descriptor member
        cases unhandled _ member
      refine .registered (by simp [unclean, uncleaned]) ⟨?_, ?_, ?_,
        registered.named, ?_, ?_, ?_⟩
      · rw [handles]
        exact registered.channelHeld
      · rw [handles]
        exact registered.oomControlHeld
      · rw [handles]
        exact registered.marked
      · refine ⟨earlier, answer, steps ++ further, ?_, opened, ?_, ?_⟩
        · rw [went, shown]
          simp
        · simp [channelOpen, open_]
        · simp [oomControlOpen, open_]
      · rw [places .channel channel registered.channelHeld]
        exact registered.channelPlace
      · rw [places .oomControl oomControl registered.oomControlHeld]
        exact registered.oomControlPlace

theorem mark
    (standing : Standing start written channel oomControl text later session) :
    session.watcher.handles.registration = some text := by
  cases standing with
  | registered _ registered => exact registered.marked
  | surrendered _ _ _ kept => exact kept

/-- Giving up the handles forgets the control file and keeps the text. -/
theorem cleanup
    (standing : Standing start written channel oomControl text later session)
    (released : Nat) :
    Standing start written channel oomControl text
      (later ++ [.cleanedUp released]) session.cleanup :=
  .surrendered released (by simp) rfl standing.mark

end Standing

namespace Life

variable {start : List Step} {origin written session : Session}
  {history later : List Outcome} {channel oomControl : Descriptor}
  {text : String}

/-- Until the handles are given up a channel stays registered, and from then on
no control file is held although the text is kept. -/
theorem standing (life : Life origin later session)
    (owns : origin.watcher.Owns origin.env)
    (registered :
      Registered start written origin channel oomControl text) :
    Standing start written channel oomControl text later session := by
  induction life with
  | born => exact .registered (by simp) registered
  | @setup later session life ih =>
      have handles := session.watcher.setup_handles (life.owns owns).coherent
      cases ih with
      | registered uncleaned registered =>
          -- While a channel is held no other one is made.
          have result := Watcher.setup_of_channel registered.channelHeld
            session.env
          refine (Standing.registered uncleaned registered).goesOn _ ?_ ?_ ?_
            (by simp)
          · rw [Session.setup, result]
          · rw [Session.setup, result]
            exact .of_eq rfl
          · rw [Session.setup, result]
            exact fun _ _ _ => rfl
      | surrendered released cleaned forgotten kept =>
          -- Another channel may be made here, but no control file is opened.
          rw [← handles.2.1] at kept
          rw [← handles.2.2] at forgotten
          exact .surrendered released (by simp [cleaned]) forgotten kept
  | @subscribe later session life ih =>
      obtain ⟨fault, result⟩ :=
        Watcher.subscribe_of_registration ih.mark session.env
      refine ih.goesOn _ ?_ ?_ ?_ (by simp)
      · rw [Session.subscribe, result]
      · rw [Session.subscribe, result]
        exact .of_eq rfl
      · rw [Session.subscribe, result]
        exact fun _ _ _ => rfl
  | @watch later session _ ih =>
      exact ih.goesOn _ rfl (session.watcher.continues_watch session.env)
        (fun _ descriptor _ =>
          (session.watcher.stays_watch session.env).position descriptor)
        (by simp)
  | cleanup _ ih => exact ih.cleanup _
  | @notifier later session channel life held ih =>
      refine ih.goesOn _ rfl (.of_eq rfl) ?_ (by simp)
      intro kind descriptor held
      obtain ⟨position, located⟩ := (life.owns owns).placed kind descriptor held
      exact (Host.keeps_duplicate session.env.host _ located).position
  | @outside later session after _ outside ih =>
      have goesOn : Standing start written channel oomControl text
          (later ++ []) (session.elapse after) := ih.goesOn [] rfl
        outside.continues (fun _ _ held => outside.position held) (by simp)
      rw [List.append_nil] at goesOn
      exact goesOn

/-- A watcher that is subscribed has once written the text that it keeps. -/
theorem exists_writing (life : Life origin history session)
    (owns : origin.watcher.Owns origin.env)
    (unmarked : origin.watcher.handles.registration = none)
    (subscribed : session.watcher.handles.isSubscribed = true) :
    ∃ earlier before later,
      Writing origin history earlier before later session := by
  induction life with
  | born => simp [Handles.isSubscribed, unmarked] at subscribed
  | @setup history session life ih =>
      have same : session.setup.watcher.handles.registration =
          session.watcher.handles.registration :=
        (Watcher.setup_handles _ (life.owns owns).coherent).2.1
      rw [Handles.isSubscribed, same] at subscribed
      obtain ⟨earlier, before, later, writing⟩ := ih subscribed
      exact ⟨earlier, before, _, writing.extend writing.since.setup⟩
  | @subscribe history session life ih =>
      cases marked : session.watcher.handles.registration with
      | none =>
          exact ⟨history, session, [], rfl, life, marked, subscribed, .born⟩
      | some text =>
          -- This subscription is refused, so an earlier one has written.
          obtain ⟨earlier, before, later, writing⟩ :=
            ih (by rw [Handles.isSubscribed, marked]; rfl)
          exact ⟨earlier, before, _, writing.extend writing.since.subscribe⟩
  | watch _ ih =>
      obtain ⟨earlier, before, later, writing⟩ := ih subscribed
      exact ⟨earlier, before, _, writing.extend writing.since.watch⟩
  | cleanup _ ih =>
      obtain ⟨earlier, before, later, writing⟩ := ih subscribed
      exact ⟨earlier, before, _, writing.extend writing.since.cleanup⟩
  | notifier _ held ih =>
      obtain ⟨earlier, before, later, writing⟩ := ih subscribed
      exact ⟨earlier, before, _, writing.extend (writing.since.notifier held)⟩
  | outside _ outside ih =>
      obtain ⟨earlier, before, later, writing⟩ := ih subscribed
      exact ⟨earlier, before, later, writing.shown, writing.life,
        writing.unmarked, writing.marked, writing.since.outside outside⟩

/-- A watch is refused, or it waits on a channel.  Then one subscription has
written the text, and the channel is the registered one, with the control file
still open, exactly when the handles were not given up since. -/
theorem registered_iff_uncleaned (fresh : origin.IsFresh)
    (life : Life origin history session) :
    (∃ fault, session.watcher.watch session.env =
      (.failed (.misuse fault), session.env)) ∨
    ∃ channel earlier before later,
      session.watcher.watch session.env =
        session.watcher.rounds channel
          (Watcher.patience channel session.env) 0 session.env ∧
      Writing origin history earlier before later session ∧
      ((∃ oomControl text,
          Registered before.env.trace before.subscribe session channel
            oomControl text) ↔
        ∀ released, .cleanedUp released ∉ later) := by
  cases watched : session.watcher.watched? with
  | none => exact Or.inl (Watcher.watch_of_not_watched? watched session.env)
  | some channel =>
      obtain ⟨subscribed, held⟩ := Watcher.watched?_eq_some_iff.mp watched
      obtain ⟨earlier, before, later, writing⟩ :=
        life.exists_writing fresh.owns (by rw [fresh.handles]) subscribed
      have owns := writing.life.owns fresh.owns
      have subscribing :=
        before.watcher.subscribing_subscribe before.env
      obtain ⟨named, oomControl, text, registered⟩ :=
        subscribing.registered owns writing.unmarked writing.marked
      have standing :=
        writing.since.standing (subscribing.owns owns) registered
      refine Or.inr ⟨channel, earlier, before, later,
        Watcher.watch_of_watched? watched session.env, writing, ?_⟩
      cases standing with
      | registered uncleaned still =>
          have same : named = channel := by
            have both := still.channelHeld.symm.trans held
            cases both
            rfl
          rw [same] at still
          exact ⟨fun _ => uncleaned, fun _ => ⟨oomControl, text, still⟩⟩
      | surrendered released cleaned forgotten kept =>
          constructor
          · rintro ⟨other, written, registered⟩
            rw [registered.oomControlHeld] at forgotten
            cases forgotten
          · intro uncleaned
            exact absurd cleaned (uncleaned released)

end Life

namespace Session

/-- The sample after a subscription, with a cancellation to come. -/
def cancelledSample : Session :=
  readySample.subscribe.elapse
    { readySample.subscribe.env with schedule := [[.cancel]] }

theorem registered_iff_uncleaned_cancelledSample :
    (sample sampleActions).IsFresh ∧
      (cancelledSample.watcher.watch cancelledSample.env).1 =
        .done ⟨.cancelled, 0⟩ ∧
      ∃ history, Life (sample sampleActions) history cancelledSample ∧
        ∃ (before : Session) (channel oomControl : Descriptor)
            (text : String),
          Registered before.env.trace before.subscribe cancelledSample channel
            oomControl text := by
  have subscribed : Life (sample sampleActions)
      [.setUp ((sample sampleActions).watcher.setup
          (sample sampleActions).env).1,
        .subscribed (readySample.watcher.subscribe readySample.env).1]
      readySample.subscribe :=
    .subscribe (.setup .born)
  have life : Life (sample sampleActions) _ cancelledSample :=
    subscribed.reschedule isFresh_sample.owns [[.cancel]]
  have cancelled :
      (cancelledSample.watcher.watch cancelledSample.env).1 =
        .done ⟨.cancelled, 0⟩ := by
    decide +kernel
  obtain ⟨fault, refused⟩ |
    ⟨channel, earlier, before, later, _, writing, registered⟩ :=
      life.registered_iff_uncleaned isFresh_sample
  · -- A watch that was cancelled was not refused.
    rw [refused] at cancelled
    cases cancelled
  have uncleaned : ∀ released, .cleanedUp released ∉ later := by
    intro released member
    have old : .cleanedUp released ∈ earlier ++
        .subscribed (before.watcher.subscribe before.env).1 :: later := by
      simp [member]
    rw [← writing.shown] at old
    simp at old
  obtain ⟨oomControl, text, holds⟩ := registered.mpr uncleaned
  exact ⟨isFresh_sample, cancelled, _, life, before, channel, oomControl, text,
    holds⟩

/-- The subscribed sample after it has given up its handles and made a channel
again. -/
def renewedSample : Session :=
  readySample.subscribe.cleanup.setup

/-- The same with a cancellation to come. -/
def forgottenSample : Session :=
  renewedSample.elapse { renewedSample.env with schedule := [[.cancel]] }

/-- A watch waits on a channel that was never registered: it has the number that
the text names, but it stands for another file, and no control file is held. -/
theorem not_registered_forgottenSample :
    (sample sampleActions).IsFresh ∧
      (∃ history, Life (sample sampleActions) history forgottenSample) ∧
      (forgottenSample.watcher.watch forgottenSample.env).1 =
        .done ⟨.cancelled, 0⟩ ∧
      forgottenSample.watcher.handles.registration = some "4 6" ∧
      forgottenSample.watcher.handles.channel = some 4 ∧
      forgottenSample.watcher.handles.oomControl = none ∧
      forgottenSample.env.host.position? 4 ≠
        readySample.subscribe.env.host.position? 4 ∧
      ¬ ∃ channel oomControl text,
        Registered readySample.env.trace readySample.subscribe forgottenSample
          channel oomControl text := by
  -- Unless the history stays unnamed here, the operations are evaluated.
  have renewed : ∃ history,
      Life (sample sampleActions) history renewedSample :=
    ⟨_, .setup (.cleanup (.subscribe (.setup .born)))⟩
  obtain ⟨history, life⟩ := renewed
  have forgotten : forgottenSample.watcher.handles.oomControl = none := by
    decide +kernel
  refine ⟨isFresh_sample,
    ⟨history, life.reschedule isFresh_sample.owns [[.cancel]]⟩,
    by decide +kernel, by decide +kernel, by decide +kernel, forgotten,
    by decide +kernel, ?_⟩
  rintro ⟨channel, oomControl, text, registered⟩
  cases forgotten.symm.trans registered.oomControlHeld

end Session

end MemoryWatch
