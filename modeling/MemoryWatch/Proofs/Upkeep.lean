import MemoryWatch.Proofs.Mark

/-!
# What a watcher does to itself

In every operation but a watch a watcher makes descriptors, gives some up or
writes its registration, and nothing else.  Such an operation leaves alone what
the watch is cancelled through.  The channel after it is the one before it, as
it was, or a new one with an empty counter.
-/

namespace MemoryWatch

theorem Watcher.Subscribing.canceller {watcher next : Watcher}
    {env after : Environment} {result : Except WatchError Unit}
    (subscribing : watcher.Subscribing env result next after)
    (coherent : env.host.IsCoherent) : after.canceller = env.canceller := by
  cases subscribing with
  | refused fault => rfl
  | noEventControl cause unmarked => rfl
  | noOomControl cause unmarked open_ held =>
      exact (Environment.canceller_closeHeld _ _).trans
        (Environment.opens_openPath coherent open_).canceller
  | unwritten error controls unnamed => exact controls.canceller coherent
  | rejected controls named writes strict incomplete =>
      exact writes.canceller.trans (controls.canceller coherent)
  | accepted event controls named writes passed =>
      exact writes.canceller.trans (controls.canceller coherent)

namespace Session

/-- One session after another between which a watcher has made descriptors,
given some up or written a registration, but has not watched. -/
structure Tends (before after : Session) : Prop where
  settings : after.watcher.settings = before.watcher.settings
  cancel : after.watcher.cancel = before.watcher.cancel
  canceller : after.env.canceller = before.env.canceller
  owns : after.watcher.Owns after.env
  guarded : ∀ handle, before.watcher.IsCancelledThrough before.env handle →
    Host.Keeps handle before.env.host after.env.host
  channel : ∀ channel, after.watcher.handles.channel = some channel →
    (before.watcher.handles.channel = some channel ∧
        Host.Keeps channel before.env.host after.env.host) ∨
      (before.watcher.handles.channel = none ∧ channel < Host.tableLimit ∧
        after.env.host.openFile? channel = some { content := .counter 0 })
  continues : Environment.Continues (fun step => step.isHandling = true)
    before.env after.env

theorem Tends.refl {session : Session}
    (owns : session.watcher.Owns session.env) : session.Tends session where
  settings := rfl
  cancel := rfl
  canceller := rfl
  owns := owns
  guarded handle _ := .refl handle _
  channel channel held := Or.inl ⟨held, .refl channel _⟩
  continues := .of_eq rfl

variable (session : Session)

theorem tends_setup (owns : session.watcher.Owns session.env) :
    session.Tends session.setup := by
  have owning := owns.setup
  have handling := (session.watcher.continues_setup owns.coherent).mono
    Step.isHandling_of_isTurnover
  rw [setup]
  obtain ⟨error, result⟩ | ⟨channel, after, event, free, opens, file, result⟩ :=
    session.watcher.setup_cases owns.coherent
  · rw [result]
    exact .refl owns
  · rw [result] at owning handling ⊢
    refine ⟨rfl, rfl, opens.canceller, owning, ?_, ?_, handling⟩
    · intro handle through
      obtain ⟨position, located⟩ := owns.cancelPlaced handle through
      exact opens.makes.keeps handle position located
    · rintro _ ⟨⟩
      exact Or.inr ⟨free, opens.below, file⟩

theorem tends_subscribe (owns : session.watcher.Owns session.env) :
    session.Tends session.subscribe := by
  have subscribing := session.watcher.subscribing_subscribe session.env
  refine ⟨subscribing.settings, subscribing.cancel,
    subscribing.canceller owns.coherent, subscribing.owns owns, ?_, ?_,
    subscribing.continues owns.coherent⟩
  · intro handle through
    exact subscribing.keeps owns (Or.inr through)
  · intro channel held
    have kept := subscribing.channel.symm.trans held
    exact Or.inl ⟨kept, subscribing.keeps owns (Or.inl kept)⟩

theorem tends_cleanup (owns : session.watcher.Owns session.env) :
    session.Tends session.cleanup := by
  refine ⟨rfl, rfl, Watcher.canceller_closeHandles _ session.env, owns.cleanup,
    ?_, ?_, (session.watcher.continues_cleanup session.env).mono
      Step.isHandling_of_isTurnover⟩
  · intro handle through
    refine Watcher.keeps_closeHandles ?_ session.env
    intro held member
    exact owns.ne_of_isCancelledThrough (Watcher.mem_held_iff.mp member) through
  · rintro _ ⟨⟩

theorem tends_notifier (owns : session.watcher.Owns session.env)
    (channel : Descriptor) : session.Tends (session.notifier channel) := by
  refine ⟨rfl, rfl, rfl, owns.notifier channel, ?_, ?_, .of_eq rfl⟩
  · intro handle through
    obtain ⟨position, located⟩ := owns.cancelPlaced handle through
    exact session.env.host.keeps_duplicate channel located
  · intro other held
    obtain ⟨position, located⟩ := owns.placed .channel other held
    exact Or.inl ⟨held, session.env.host.keeps_duplicate channel located⟩

/-- A watcher that is asked for a notifier has a channel to make it for, or
leaves everything alone. -/
theorem tends_elapse_notifier (owns : session.watcher.Owns session.env) :
    session.Tends
      (session.elapse (session.watcher.notifier session.env).2) := by
  obtain same | ⟨channel, held, made⟩ :=
    session.watcher.notifier_cases session.env
  · rw [same]
    exact .refl owns
  · rw [made]
    exact session.tends_notifier owns channel

/-- A channel that is kept is the counter that it was, and a new one is a
counter as well. -/
theorem Tends.counts {before after : Session} (tends : before.Tends after)
    (counts : ∀ channel, before.watcher.handles.channel = some channel →
      ∃ sum, before.env.host.pending? channel = some sum) :
    ∀ channel, after.watcher.handles.channel = some channel →
      ∃ sum, after.env.host.pending? channel = some sum := by
  intro channel held
  obtain ⟨known, kept⟩ | ⟨_, _, file⟩ := tends.channel channel held
  · obtain ⟨sum, counted⟩ := counts channel known
    exact ⟨sum, kept.pending?.trans counted⟩
  · exact ⟨0, Host.pending?_eq_some_iff.mpr ⟨false, file⟩⟩

end Session

end MemoryWatch
