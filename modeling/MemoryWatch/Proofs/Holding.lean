import MemoryWatch.Proofs.Mark
import MemoryWatch.Proofs.Operations

/-!
# How the holdings of a watcher change

Whatever a watcher does to what it holds, it does in three ways: it takes a
descriptor that it has just made and gives up the one that it had in its place,
it gives a descriptor up, or it keeps everything.  Every operation is a sequence
of such exchanges, also one that fails half way.  A watcher that takes another
descriptor always has a handle of some kind vacant, because a subscription
begins without the second control file.
-/

namespace MemoryWatch

open Relation

namespace Watcher

/-- What a watcher holds stands for open files, no number is held twice, and all
are within the limit of the process. -/
structure Holds (watcher : Watcher) (env : Environment) : Prop where
  coherent : env.host.IsCoherent
  placed : ∀ kind descriptor,
    watcher.handles.descriptor? kind = some descriptor →
      ∃ position, env.host.position? descriptor = some position
  distinct : ∀ kind other descriptor,
    watcher.handles.descriptor? kind = some descriptor →
      watcher.handles.descriptor? other = some descriptor → kind = other
  below : ∀ kind descriptor,
    watcher.handles.descriptor? kind = some descriptor →
      descriptor < Host.tableLimit

/-- One surroundings after another between which the watcher made no descriptor
and gave none up, and in which what it holds still stands for open files. -/
structure Spares (watcher : Watcher) (before after : Environment) : Prop where
  continues : Environment.Continues (fun step => step.isTurnover = false)
    before after
  coherent : after.host.IsCoherent
  placed : ∀ kind descriptor,
    watcher.handles.descriptor? kind = some descriptor →
      ∃ position, after.host.position? descriptor = some position

theorem Holds.spares {watcher : Watcher} {before after : Environment}
    (holds : watcher.Holds before)
    (continues : Environment.Continues (fun step => step.isTurnover = false)
      before after)
    (stays : Environment.Stays before after) :
    watcher.Spares before after where
  continues := continues
  coherent := stays.coherent holds.coherent
  placed kind descriptor held := by
    rw [stays.position]
    exact holds.placed kind descriptor held

/-- What is held may be given up, and one kind of handle may get a descriptor
that was not held before. -/
theorem Holds.change {watcher next : Watcher} {before after : Environment}
    (holds : watcher.Holds before) (coherent : after.host.IsCoherent)
    (made : HandleKind)
    (placed : ∀ kind descriptor,
      next.handles.descriptor? kind = some descriptor →
        ∃ position, after.host.position? descriptor = some position)
    (held : ∀ kind descriptor,
      next.handles.descriptor? kind = some descriptor →
        watcher.handles.descriptor? kind = some descriptor ∨
          kind = made ∧ descriptor < Host.tableLimit ∧
            ∀ other, watcher.handles.descriptor? other ≠ some descriptor) :
    next.Holds after := by
  refine ⟨coherent, placed, ?_, ?_⟩
  · intro kind other descriptor first second
    obtain firstKnown | ⟨firstMade, _, firstNew⟩ := held kind descriptor first
    · obtain secondKnown | ⟨_, _, secondNew⟩ := held other descriptor second
      · exact holds.distinct kind other descriptor firstKnown secondKnown
      · exact absurd firstKnown (secondNew kind)
    · obtain secondKnown | ⟨secondMade, _, _⟩ := held other descriptor second
      · exact absurd secondKnown (firstNew other)
      · exact firstMade.trans secondMade.symm
  · intro kind descriptor holding
    obtain known | ⟨_, below, _⟩ := held kind descriptor holding
    · exact holds.below kind descriptor known
    · exact below

/-- Giving up the handle of one kind leaves the others where they are. -/
theorem Holds.placed_closeHeld {watcher : Watcher} {env opened : Environment}
    (holds : watcher.Holds env) (kind : HandleKind)
    (keeps : ∀ descriptor position,
      env.host.position? descriptor = some position →
        Host.Keeps descriptor env.host opened.host)
    {other : HandleKind} {descriptor : Descriptor} (different : other ≠ kind)
    (held : watcher.handles.descriptor? other = some descriptor) :
    ∃ position, (opened.closeHeld
        (watcher.handles.descriptor? kind)).host.position? descriptor =
      some position := by
  obtain ⟨position, located⟩ := holds.placed other descriptor held
  have apart : watcher.handles.descriptor? kind ≠ some descriptor :=
    fun same => different (holds.distinct other kind descriptor held same)
  refine ⟨position, ?_⟩
  rw [(opened.keeps_closeHeld apart).position,
    (keeps descriptor position located).position, located]

end Watcher

/-- One change of what a watcher holds. -/
inductive Exchange : Session → Session → Prop
  /-- A handle of some kind gets a new descriptor, and the one that it had is
  given up after that. -/
  | take {before next : Watcher} {env opened : Environment} {made : Descriptor}
      (kind : HandleKind) (opens : Environment.Opens made env opened)
      (vacant : ∃ other, before.handles.descriptor? other = none)
      (handles : next.handles.descriptor? =
        (before.handles.put kind (some made)).descriptor?) :
      Exchange ⟨before, env⟩
        ⟨next, opened.closeHeld (before.handles.descriptor? kind)⟩
  | leave {before next : Watcher} {env : Environment} (kind : HandleKind)
      (handles : next.handles.descriptor? =
        (before.handles.put kind none).descriptor?) :
      Exchange ⟨before, env⟩
        ⟨next, env.closeHeld (before.handles.descriptor? kind)⟩
  | keep {before next : Watcher} {env after : Environment}
      (spares : before.Spares env after)
      (handles : next.handles.descriptor? = before.handles.descriptor?) :
      Exchange ⟨before, env⟩ ⟨next, after⟩

/-- A sequence of changes of what a watcher holds. -/
abbrev Exchanges : Session → Session → Prop :=
  ReflTransGen Exchange

/-- A watcher goes on to hold what it holds. -/
theorem Exchange.holds {before after : Session}
    (exchange : Exchange before after)
    (holds : before.watcher.Holds before.env) :
    after.watcher.Holds after.env := by
  cases exchange with
  | @take before next env opened made kind opens vacant handles =>
      have new : ∀ other, before.handles.descriptor? other ≠ some made := by
        intro other held
        obtain ⟨position, located⟩ := holds.placed other made held
        rw [opens.makes.free] at located
        cases located
      refine holds.change
        (Environment.isCoherent_closeHeld opens.makes.coherent _) kind ?_ ?_
      · intro other descriptor held
        rw [handles, Handles.descriptor?_put] at held
        split at held
        · cases held
          rw [(opened.keeps_closeHeld (new kind)).position,
            opens.makes.position]
          exact ⟨_, rfl⟩
        · next different =>
            exact holds.placed_closeHeld kind opens.makes.keeps different held
      · intro other descriptor held
        rw [handles, Handles.descriptor?_put] at held
        split at held
        · next same =>
            cases held
            exact Or.inr ⟨same, opens.below, new⟩
        · exact Or.inl held
  | @leave before next env kind handles =>
      have keeps : ∀ descriptor position,
          env.host.position? descriptor = some position →
            Host.Keeps descriptor env.host env.host :=
        fun descriptor _ _ => Host.Keeps.refl descriptor env.host
      refine holds.change
        (Environment.isCoherent_closeHeld holds.coherent _) kind ?_ ?_
      · intro other descriptor held
        rw [handles, Handles.descriptor?_put] at held
        split at held
        · cases held
        · next different =>
            exact holds.placed_closeHeld kind keeps different held
      · intro other descriptor held
        rw [handles, Handles.descriptor?_put] at held
        split at held
        · cases held
        · exact Or.inl held
  | @keep before next env after spares handles =>
      refine holds.change spares.coherent .channel ?_ ?_
      · rw [handles]
        exact spares.placed
      · intro other descriptor held
        rw [handles] at held
        exact Or.inl held

theorem Exchanges.holds {before after : Session}
    (exchanges : Exchanges before after)
    (holds : before.watcher.Holds before.env) :
    after.watcher.Holds after.env := by
  induction exchanges with
  | refl => exact holds
  | tail _ exchange ih => exact exchange.holds ih

namespace Watcher

variable {watcher : Watcher} {env : Environment}

theorem Holds.note (holds : watcher.Holds env) (event : LogEvent) :
    Exchange ⟨watcher, env⟩ ⟨watcher, env.note event⟩ :=
  .keep (holds.spares (.of_eq rfl) (.of_eq rfl rfl rfl)) rfl

theorem exchanges_setup (holds : watcher.Holds env) :
    Exchanges ⟨watcher, env⟩ (Session.mk watcher env).setup := by
  rw [Session.setup]
  obtain ⟨error, result⟩ | ⟨channel, after, event, free, opens, _, result⟩ :=
    watcher.setup_cases holds.coherent
  · rw [result]
  · rw [result]
    have taken : Exchange ⟨watcher, env⟩
        ⟨{ watcher with handles := watcher.handles.put .channel (some channel) },
          after.closeHeld watcher.handles.channel⟩ :=
      .take .channel opens ⟨.channel, free⟩ rfl
    rw [free] at taken
    exact .tail (.single taken) ((taken.holds holds).note event)

/-- Both control files are opened while the second one is vacant. -/
theorem OpensControls.exchanges {channel control oomControl : Descriptor}
    {ready : Environment}
    (controls : watcher.OpensControls env channel control oomControl ready)
    (holds : watcher.Holds env) (vacant : watcher.handles.oomControl = none) :
    Exchanges ⟨watcher, env⟩
      ⟨{ watcher with
          handles :=
            { channel := some channel, eventControl := some control,
              oomControl := some oomControl } }, ready⟩ := by
  obtain ⟨first, second, firstOpens, secondOpens, rfl⟩ :=
    controls.stages holds.coherent
  have halfway : Exchange ⟨watcher, env⟩
      ⟨{ watcher with
          handles := watcher.handles.put .eventControl (some control) },
        first.closeHeld watcher.handles.eventControl⟩ :=
    .take .eventControl firstOpens ⟨.oomControl, vacant⟩ rfl
  refine .tail (.single halfway) ?_
  refine .take .oomControl secondOpens ⟨.oomControl, vacant⟩ ?_
  funext kind
  cases kind with
  | channel => exact controls.held.symm
  | eventControl | oomControl => rfl

/-- A subscription that finds no mark finds the second control file vacant. -/
theorem Subscribing.exchanges {next : Watcher} {after : Environment}
    {result : Except WatchError Unit}
    (subscribing : Subscribing watcher env result next after)
    (holds : watcher.Holds env)
    (vacant : watcher.handles.registration = none →
      watcher.handles.oomControl = none) :
    Exchanges ⟨watcher, env⟩ ⟨next, after⟩ := by
  cases subscribing with
  | refused fault | noEventControl cause unmarked => exact .refl
  | noOomControl cause unmarked open_ held =>
      have opens := Environment.opens_openPath holds.coherent open_
      exact .single (.take .eventControl opens
        ⟨.oomControl, vacant unmarked⟩ rfl)
  | unwritten error controls unnamed =>
      exact controls.exchanges holds (vacant controls.unmarked)
  | rejected controls named writes strict incomplete =>
      have opened := controls.exchanges holds (vacant controls.unmarked)
      exact opened.tail (.keep ((opened.holds holds).spares
        (.single writes.trace rfl) writes.stays) rfl)
  | @accepted channel control oomControl ready registered text _ event controls
      named writes passed =>
      have opened := controls.exchanges holds (vacant controls.unmarked)
      have spares := (opened.holds holds).spares (.single writes.trace rfl)
        writes.stays
      have written : Exchanges ⟨watcher, env⟩
          ⟨{ watcher with
              handles :=
                { channel := some channel, eventControl := some control,
                  oomControl := some oomControl, registration := some text } },
            registered⟩ :=
        opened.tail (.keep spares rfl)
      have released : Exchanges ⟨watcher, env⟩
          ⟨{ watcher with
              handles :=
                { channel := some channel, oomControl := some oomControl,
                  registration := some text } },
            registered.close control⟩ :=
        written.tail (.leave .eventControl rfl)
      exact released.tail ((released.holds holds).note event)

theorem isTurnover_of_not_isHandling (step : Step)
    (unhandled : step.isHandling = false) : step.isTurnover = false := by
  cases step <;> simp_all [Step.isHandling, Step.isTurnover]

theorem exchange_watch (holds : watcher.Holds env) :
    Exchange ⟨watcher, env⟩ (Session.mk watcher env).watch :=
  .keep (holds.spares ((watcher.continues_watch env).mono
    isTurnover_of_not_isHandling) (watcher.stays_watch env)) rfl

/-- The handle of one kind is given up, and the log says so. -/
theorem exchanges_surrender (holds : watcher.Holds env) (kind : HandleKind) :
    Exchanges ⟨watcher, env⟩
      ⟨{ watcher with handles := watcher.handles.put kind none },
        ((watcher.handles.descriptor? kind).map (kind, ·)).toList.foldl
          closeHandle env⟩ := by
  have left (env : Environment) : Exchange ⟨watcher, env⟩
      ⟨{ watcher with handles := watcher.handles.put kind none },
        env.closeHeld (watcher.handles.descriptor? kind)⟩ :=
    .leave kind rfl
  cases held : watcher.handles.descriptor? kind with
  | none =>
      have single := left env
      rw [held] at single
      exact .single single
  | some descriptor =>
      have after := left (env.note (.closing kind descriptor))
      rw [held] at after
      exact .tail (.single (holds.note _)) after

theorem exchanges_cleanup (holds : watcher.Holds env) :
    Exchanges ⟨watcher, env⟩ (Session.mk watcher env).cleanup := by
  have first := exchanges_surrender holds .channel
  have second := exchanges_surrender (first.holds holds) .eventControl
  have third :=
    exchanges_surrender (second.holds (first.holds holds)) .oomControl
  rw [Session.cleanup, cleanup, Handles.held, List.foldl_append,
    List.foldl_append]
  exact (first.trans second).trans third

theorem exchange_notifier (holds : watcher.Holds env) :
    Exchange ⟨watcher, env⟩ ⟨watcher, (watcher.notifier env).2⟩ := by
  obtain same | ⟨channel, _, made⟩ := watcher.notifier_cases env
  · rw [same]
    exact .keep (holds.spares (.of_eq rfl) (.refl env)) rfl
  · rw [made]
    refine .keep ⟨.of_eq rfl,
      Host.isCoherent_duplicate holds.coherent channel, ?_⟩ rfl
    intro kind descriptor known
    obtain ⟨position, located⟩ := holds.placed kind descriptor known
    have kept := Host.keeps_duplicate env.host channel located
    exact ⟨position, kept.position.trans located⟩

end Watcher

end MemoryWatch
