import MemoryWatch.Proofs.Motion

/-!
# What a watcher owns

Between two operations every descriptor that a watcher holds stands for an open
file that no other of its descriptors stands for.  The descriptors through which
it can be cancelled stand for open files as well, which are none of those held.
Making a descriptor, giving one up and the motions of a watch keep it that way,
since a new descriptor always stands for a new open file.
-/

namespace MemoryWatch

namespace Handles

/-- The descriptor held as a handle of some kind. -/
def descriptor? (handles : Handles) : HandleKind → Option Descriptor
  | .channel => handles.channel
  | .eventControl => handles.eventControl
  | .oomControl => handles.oomControl

/-- The handles with another descriptor of one kind, or with none. -/
def put (handles : Handles) (kind : HandleKind)
    (descriptor : Option Descriptor) : Handles :=
  match kind with
  | .channel => { handles with channel := descriptor }
  | .eventControl => { handles with eventControl := descriptor }
  | .oomControl => { handles with oomControl := descriptor }

theorem descriptor?_put (handles : Handles) (kind other : HandleKind)
    (descriptor : Option Descriptor) :
    (handles.put kind descriptor).descriptor? other =
      if other = kind then descriptor else handles.descriptor? other := by
  cases kind <;> cases other <;> rfl

theorem descriptor?_of_empty {handles : Handles} (empty : handles = {})
    (kind : HandleKind) : handles.descriptor? kind = none := by
  rw [empty]
  cases kind <;> rfl

end Handles

namespace Environment

/-- One surroundings after another between which no descriptor was made or given
up. -/
structure Stays (before after : Environment) : Prop where
  position : ∀ descriptor,
    after.host.position? descriptor = before.host.position? descriptor
  coherent : before.host.IsCoherent → after.host.IsCoherent
  canceller : after.canceller = before.canceller

namespace Stays

variable {before between after : Environment}

/-- Nothing happens to the descriptors if the table and the open files are left
alone. -/
theorem of_eq (table : after.host.table = before.host.table)
    (openFiles : after.host.openFiles = before.host.openFiles)
    (canceller : after.canceller = before.canceller) : Stays before after where
  position _ := by rw [Host.position?, table, Host.position?]
  coherent coherent := by
    rw [Host.isCoherent_iff] at coherent ⊢
    rwa [table, openFiles]
  canceller := canceller

theorem refl (env : Environment) : Stays env env :=
  .of_eq rfl rfl rfl

theorem trans (first : Stays before between) (second : Stays between after) :
    Stays before after where
  position descriptor :=
    (second.position descriptor).trans (first.position descriptor)
  coherent coherent := second.coherent (first.coherent coherent)
  canceller := second.canceller.trans first.canceller

theorem openCount (stays : Stays before after) :
    after.host.openCount = before.host.openCount :=
  Host.openCount_of_position? stays.position

theorem of_touches {descriptor : Descriptor}
    (touches : Host.Touches descriptor before.host after.host)
    (canceller : after.canceller = before.canceller) : Stays before after :=
  ⟨touches.position?, touches.isCoherent, canceller⟩

theorem add (env : Environment) (descriptor : Descriptor) (count : UInt64) :
    Stays env (env.add descriptor count).2 := by
  rw [add_snd]
  exact of_touches (Host.touches_write env.host descriptor _) rfl

theorem act (env : Environment) (channel : Descriptor) (action : Action) :
    Stays env (env.act (some channel) action).2 := by
  obtain ⟨count, acted⟩ | ⟨handle, log, _, acted⟩ | ⟨tree, allowance, acted⟩ :=
    env.act_cases channel action
  · rw [acted]
    exact add env channel count
  · rw [acted, fire_snd]
    exact of_touches (Host.touches_write env.host handle _) rfl
  · rw [acted]
    exact of_eq rfl rfl rfl

/-- A watch makes no descriptor and gives none up. -/
theorem motions {channel : Descriptor} (moved : Motions channel before after) :
    Stays before after := by
  induction moved with
  | refl => exact refl before
  | tail _ motion ih =>
      refine ih.trans ?_
      cases motion with
      | act action => exact act _ channel action
      | read => exact of_touches (Host.touches_read _ channel) rfl
      | tell step idle => exact of_eq rfl rfl rfl
      | turn _ host canceller trace =>
          exact of_eq (by rw [host]) (by rw [host]) canceller

end Stays

theorem isCoherent_closeHeld {env : Environment}
    (coherent : env.host.IsCoherent) (held : Option Descriptor) :
    (env.closeHeld held).host.IsCoherent := by
  cases held with
  | none => exact coherent
  | some closed => exact Host.isCoherent_close coherent closed

theorem canceller_closeHeld (env : Environment) (held : Option Descriptor) :
    (env.closeHeld held).canceller = env.canceller := by
  cases held <;> rfl

theorem keeps_closeHeld (env : Environment) {held : Option Descriptor}
    {other : Descriptor} (different : held ≠ some other) :
    Host.Keeps other env.host (env.closeHeld held).host := by
  cases held with
  | none => exact Host.Keeps.refl other env.host
  | some closed =>
      exact Host.keeps_close env.host fun equal => different (by rw [equal])

end Environment

namespace Watcher

/-- The descriptors through which a watch is cancelled. -/
def IsCancelledThrough (watcher : Watcher) (env : Environment)
    (descriptor : Descriptor) : Prop :=
  watcher.cancel = some descriptor ∨ env.canceller = some descriptor

/-- Each held descriptor stands for an open file of its own, and those through
which a watch is cancelled stand for others. -/
structure Owns (watcher : Watcher) (env : Environment) : Prop where
  coherent : env.host.IsCoherent
  placed : ∀ kind descriptor,
    watcher.handles.descriptor? kind = some descriptor →
      ∃ position, env.host.position? descriptor = some position
  apart : ∀ kind other first second, kind ≠ other →
    watcher.handles.descriptor? kind = some first →
      watcher.handles.descriptor? other = some second →
        env.host.position? first ≠ env.host.position? second
  cancelPlaced : ∀ descriptor, watcher.IsCancelledThrough env descriptor →
    ∃ position, env.host.position? descriptor = some position
  cancelApart : ∀ descriptor, watcher.IsCancelledThrough env descriptor →
    ∀ kind held, watcher.handles.descriptor? kind = some held →
      env.host.position? held ≠ env.host.position? descriptor

namespace Owns

variable {watcher next : Watcher} {before after : Environment}

/-- Held descriptors may be given up, and one kind of handle may get a
descriptor for a new open file. -/
theorem change (owns : watcher.Owns before)
    (cancel : next.cancel = watcher.cancel)
    (canceller : after.canceller = before.canceller)
    (coherent : after.host.IsCoherent) (made : HandleKind)
    (held : ∀ kind descriptor,
      next.handles.descriptor? kind = some descriptor →
        (watcher.handles.descriptor? kind = some descriptor ∧
          after.host.position? descriptor = before.host.position? descriptor) ∨
        (kind = made ∧ after.host.position? descriptor =
          some before.host.openFiles.length))
    (through : ∀ descriptor, watcher.IsCancelledThrough before descriptor →
      after.host.position? descriptor = before.host.position? descriptor) :
    next.Owns after := by
  have used : ∀ descriptor, next.IsCancelledThrough after descriptor →
      watcher.IsCancelledThrough before descriptor := by
    intro descriptor cancels
    rwa [IsCancelledThrough, cancel, canceller] at cancels
  -- A new open file comes behind all to which a coherent host refers.
  have old : ∀ descriptor position,
      before.host.position? descriptor = some position →
        some before.host.openFiles.length ≠ some position := by
    intro descriptor position located equal
    have below := owns.coherent descriptor position located
    cases equal
    omega
  refine ⟨coherent, ?_, ?_, ?_, ?_⟩
  · intro kind descriptor handle
    obtain ⟨known, same⟩ | ⟨_, new⟩ := held kind descriptor handle
    · rw [same]
      exact owns.placed kind descriptor known
    · exact ⟨_, new⟩
  · intro kind other first second different firstHeld secondHeld
    -- Two of different kinds cannot both be the one that was made.
    obtain ⟨firstKnown, firstSame⟩ | ⟨firstMade, firstNew⟩ :=
      held kind first firstHeld <;>
      obtain ⟨secondKnown, secondSame⟩ | ⟨secondMade, secondNew⟩ :=
        held other second secondHeld
    · rw [firstSame, secondSame]
      exact owns.apart kind other first second different firstKnown secondKnown
    · obtain ⟨position, located⟩ := owns.placed kind first firstKnown
      rw [firstSame, secondNew, located]
      exact (old first position located).symm
    · obtain ⟨position, located⟩ := owns.placed other second secondKnown
      rw [firstNew, secondSame, located]
      exact old second position located
    · exact absurd (firstMade.trans secondMade.symm) different
  · intro descriptor cancels
    rw [through descriptor (used descriptor cancels)]
    exact owns.cancelPlaced descriptor (used descriptor cancels)
  · intro descriptor cancels kind handle handleHeld
    have cancelsBefore := used descriptor cancels
    rw [through descriptor cancelsBefore]
    obtain ⟨known, same⟩ | ⟨_, new⟩ := held kind handle handleHeld
    · rw [same]
      exact owns.cancelApart descriptor cancelsBefore kind handle known
    · obtain ⟨position, located⟩ := owns.cancelPlaced descriptor cancelsBefore
      rw [new, located]
      exact old descriptor position located

theorem stays (owns : watcher.Owns before)
    (stays : Environment.Stays before after) : watcher.Owns after :=
  owns.change rfl stays.canceller (stays.coherent owns.coherent) .channel
    (fun _ descriptor held => Or.inl ⟨held, stays.position descriptor⟩)
    (fun descriptor _ => stays.position descriptor)

theorem note (owns : watcher.Owns before) (event : LogEvent) :
    watcher.Owns (before.note event) :=
  owns.stays (.of_eq rfl rfl rfl)

theorem ne_of_kind_ne (owns : watcher.Owns before)
    (kind other : HandleKind) {first second : Descriptor}
    (different : kind ≠ other)
    (firstHeld : watcher.handles.descriptor? kind = some first)
    (secondHeld : watcher.handles.descriptor? other = some second) :
    first ≠ second := by
  intro equal
  exact owns.apart kind other first second different firstHeld secondHeld
    (by rw [equal])

theorem ne_of_isCancelledThrough (owns : watcher.Owns before)
    {kind : HandleKind} {held descriptor : Descriptor}
    (handle : watcher.handles.descriptor? kind = some held)
    (cancels : watcher.IsCancelledThrough before descriptor) :
    held ≠ descriptor := by
  intro equal
  exact owns.cancelApart descriptor cancels kind held handle (by rw [equal])

/-- A handle of some kind gets a descriptor for a new open file, and the
descriptor that it had is given up. -/
theorem acquire (owns : watcher.Owns before) {made : Descriptor}
    (makes : Host.Makes made before.host after.host)
    (canceller : after.canceller = before.canceller) (kind : HandleKind)
    (cancel : next.cancel = watcher.cancel)
    (handles : next.handles = watcher.handles.put kind (some made)) :
    next.Owns (after.closeHeld (watcher.handles.descriptor? kind)) := by
  have surrendered := after.canceller_closeHeld
    (watcher.handles.descriptor? kind)
  have kept : ∀ other position,
      before.host.position? other = some position →
        watcher.handles.descriptor? kind ≠ some other →
          (after.closeHeld
              (watcher.handles.descriptor? kind)).host.position? other =
            before.host.position? other := by
    intro other position located different
    exact (after.keeps_closeHeld different).position.trans
      (makes.keeps other position located).position
  have new : watcher.handles.descriptor? kind ≠ some made := by
    intro held
    obtain ⟨position, located⟩ := owns.placed kind made held
    rw [makes.free] at located
    cases located
  refine owns.change cancel (surrendered.trans canceller)
    (Environment.isCoherent_closeHeld makes.coherent _) kind ?_ ?_
  · intro other descriptor held
    rw [handles, Handles.descriptor?_put] at held
    split at held
    · next same =>
        cases held
        refine Or.inr ⟨same, ?_⟩
        rw [(after.keeps_closeHeld new).position, makes.position]
    · next different =>
        obtain ⟨position, located⟩ := owns.placed other descriptor held
        refine Or.inl ⟨held, kept descriptor position located ?_⟩
        intro equal
        exact owns.ne_of_kind_ne other kind different held equal rfl
  · intro descriptor cancels
    obtain ⟨position, located⟩ := owns.cancelPlaced descriptor cancels
    refine kept descriptor position located ?_
    intro equal
    exact owns.ne_of_isCancelledThrough equal cancels rfl

theorem release (owns : watcher.Owns before) (kind : HandleKind)
    (cancel : next.cancel = watcher.cancel)
    (handles : next.handles = watcher.handles.put kind none) :
    next.Owns (before.closeHeld (watcher.handles.descriptor? kind)) := by
  refine owns.change cancel (before.canceller_closeHeld _)
    (Environment.isCoherent_closeHeld owns.coherent _) kind ?_ ?_
  · intro other descriptor held
    rw [handles, Handles.descriptor?_put] at held
    split at held
    · cases held
    · next different =>
        refine Or.inl ⟨held, (before.keeps_closeHeld ?_).position⟩
        intro equal
        exact owns.ne_of_kind_ne other kind different held equal rfl
  · intro descriptor cancels
    refine (before.keeps_closeHeld ?_).position
    intro equal
    exact owns.ne_of_isCancelledThrough equal cancels rfl

end Owns

end Watcher

end MemoryWatch
