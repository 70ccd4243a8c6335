import MemoryWatch.Proofs.Operations

/-!
# How many descriptors there are

A watcher makes a descriptor only to hold it, and gives one up only when it no
longer holds it.  So whatever its operations come to, the process has as many
descriptors besides those that its watcher holds as it had before, and at most
three more than these.
-/

namespace MemoryWatch

namespace Handles

theorem count_eq (handles : Handles) :
    handles.count = handles.channel.toList.length +
      handles.eventControl.toList.length +
      handles.oomControl.toList.length := by
  simp only [count, held, List.length_append, Option.length_toList,
    Option.isSome_map]

theorem count_put (handles : Handles) (kind : HandleKind)
    (descriptor : Option Descriptor) :
    (handles.put kind descriptor).count +
        (handles.descriptor? kind).toList.length =
      handles.count + descriptor.toList.length := by
  rw [count_eq, count_eq]
  cases kind <;> dsimp only [put, descriptor?] <;> omega

theorem count_le_three (handles : Handles) : handles.count ≤ 3 := by
  have atMost (held : Option Descriptor) : held.toList.length ≤ 1 := by
    cases held <;> simp
  have channel := atMost handles.channel
  have eventControl := atMost handles.eventControl
  have oomControl := atMost handles.oomControl
  rw [count_eq]
  omega

end Handles

theorem Environment.openCount_closeHeld {env : Environment}
    {held : Option Descriptor}
    (placed : ∀ descriptor, held = some descriptor →
      ∃ position, env.host.position? descriptor = some position) :
    (env.closeHeld held).host.openCount + held.toList.length =
      env.host.openCount := by
  cases held with
  | none => rfl
  | some descriptor =>
      obtain ⟨_, located⟩ := placed descriptor rfl
      exact Host.openCount_close located

namespace Watcher

/-- The process has so many descriptors besides those that its watcher holds. -/
def Leaves (watcher : Watcher) (others : Nat) (env : Environment) : Prop :=
  env.host.openCount = others + watcher.handles.count

namespace Leaves

variable {watcher next : Watcher} {others : Nat} {before after : Environment}

theorem openCount_le (leaves : watcher.Leaves others before) :
    before.host.openCount ≤ others + 3 := by
  have few := watcher.handles.count_le_three
  rw [Leaves] at leaves
  omega

theorem stays (leaves : watcher.Leaves others before)
    (stays : Environment.Stays before after) : watcher.Leaves others after := by
  rw [Leaves, stays.openCount]
  exact leaves

/-- The text of a registration is no descriptor. -/
theorem mark (leaves : watcher.Leaves others before) (text : Option String) :
    Leaves
      { watcher with handles := { watcher.handles with registration := text } }
      others before :=
  leaves

/-- A descriptor that is made is held, in place of the one that is given up for
it. -/
theorem acquire (leaves : watcher.Leaves others before)
    (owns : watcher.Owns before) {made : Descriptor}
    (makes : Host.Makes made before.host after.host) (kind : HandleKind)
    (handles : next.handles = watcher.handles.put kind (some made)) :
    next.Leaves others
      (after.closeHeld (watcher.handles.descriptor? kind)) := by
  have closed : (after.closeHeld
        (watcher.handles.descriptor? kind)).host.openCount +
      (watcher.handles.descriptor? kind).toList.length =
        after.host.openCount := by
    refine Environment.openCount_closeHeld fun descriptor held => ?_
    obtain ⟨position, located⟩ := owns.placed kind descriptor held
    exact ⟨position,
      (makes.keeps descriptor position located).position.trans located⟩
  have count := watcher.handles.count_put kind (some made)
  have more := makes.count
  rw [Leaves] at leaves ⊢
  rw [handles]
  simp only [Option.toList_some, List.length_singleton] at count
  omega

/-- What is given up is not held any more. -/
theorem release (leaves : watcher.Leaves others before)
    (owns : watcher.Owns before) (kind : HandleKind)
    (handles : next.handles = watcher.handles.put kind none) :
    next.Leaves others
      (before.closeHeld (watcher.handles.descriptor? kind)) := by
  have closed := Environment.openCount_closeHeld (owns.placed kind)
  have count := watcher.handles.count_put kind none
  rw [Leaves] at leaves ⊢
  rw [handles]
  simp only [Option.toList_none, List.length_nil] at count
  omega

theorem setup (leaves : watcher.Leaves others before)
    (owns : watcher.Owns before) :
    (watcher.setup before).2.1.Leaves others (watcher.setup before).2.2 := by
  obtain ⟨_, result⟩ | ⟨channel, after, event, free, opens, _, result⟩ :=
    watcher.setup_cases owns.coherent
  · rw [result]
    exact leaves
  · rw [result]
    have acquired : Leaves { watcher with
        handles := watcher.handles.put .channel (some channel) } others
        (after.closeHeld watcher.handles.channel) :=
      leaves.acquire owns opens.makes .channel rfl
    rw [free] at acquired
    exact acquired

theorem opensControls {channel control oomControl : Descriptor}
    (leaves : watcher.Leaves others before) (owns : watcher.Owns before)
    (controls : watcher.OpensControls before channel control oomControl
      after) :
    Leaves { watcher with
      handles :=
        { channel := some channel, eventControl := some control,
          oomControl := some oomControl } } others after := by
  obtain ⟨first, second, firstOpens, secondOpens, rfl⟩ :=
    controls.stages owns.coherent
  have halfway : Owns { watcher with
      handles := watcher.handles.put .eventControl (some control) }
      (first.closeHeld watcher.handles.eventControl) :=
    owns.acquire firstOpens.makes firstOpens.canceller .eventControl rfl rfl
  have left : Leaves { watcher with
      handles := watcher.handles.put .eventControl (some control) } others
      (first.closeHeld watcher.handles.eventControl) :=
    leaves.acquire owns firstOpens.makes .eventControl rfl
  refine left.acquire halfway secondOpens.makes .oomControl ?_
  simp [Handles.put, controls.held, controls.unmarked]

theorem subscribing {result : Except WatchError Unit}
    (leaves : watcher.Leaves others before) (owns : watcher.Owns before)
    (subscribing : watcher.Subscribing before result next after) :
    next.Leaves others after := by
  cases subscribing with
  | refused fault => exact leaves
  | noEventControl cause unmarked => exact leaves
  | noOomControl cause unmarked open_ held =>
      have opens := Environment.opens_openPath owns.coherent open_
      exact leaves.acquire owns opens.makes .eventControl rfl
  | unwritten error controls unnamed =>
      exact leaves.opensControls owns controls
  | rejected controls named writes strict incomplete =>
      exact (leaves.opensControls owns controls).stays writes.stays
  | @accepted _ _ _ _ _ text _ event controls named writes passed =>
      have opened := (leaves.opensControls owns controls).mark (some text)
      exact (opened.stays writes.stays).release
        (controls.owns_of_writes owns writes) .eventControl rfl

end Leaves

/-- Apart from what is written down about it, cleaning up gives up one kind of
handle after the other. -/
theorem host_closeHandles (handles : Handles) (env : Environment) :
    (handles.held.foldl closeHandle env).host =
      (((env.closeHeld handles.channel).closeHeld
        handles.eventControl).closeHeld handles.oomControl).host := by
  obtain ⟨channel, eventControl, oomControl, registration⟩ := handles
  cases channel <;> cases eventControl <;> cases oomControl <;> rfl

namespace Leaves

variable {watcher : Watcher} {others : Nat} {env : Environment}

/-- A watcher that gives up a kind of handle owns the rest. -/
theorem surrender (leaves : watcher.Leaves others env)
    (owns : watcher.Owns env) (kind : HandleKind) :
    let rest : Watcher :=
      { watcher with handles := watcher.handles.put kind none }
    rest.Leaves others (env.closeHeld (watcher.handles.descriptor? kind)) ∧
      rest.Owns (env.closeHeld (watcher.handles.descriptor? kind)) :=
  ⟨leaves.release owns kind rfl, owns.release kind rfl rfl⟩

theorem cleanup (leaves : watcher.Leaves others env)
    (owns : watcher.Owns env) :
    (watcher.cleanup env).2.1.Leaves others (watcher.cleanup env).2.2 := by
  obtain ⟨leaves, owns⟩ := leaves.surrender owns .channel
  obtain ⟨leaves, owns⟩ := leaves.surrender owns .eventControl
  obtain ⟨leaves, _⟩ := leaves.surrender owns .oomControl
  rw [Watcher.cleanup, Leaves]
  dsimp only
  rw [host_closeHandles]
  exact leaves

end Leaves

end Watcher

/-- Each operation of a run keeps the number of descriptors that are not
held. -/
theorem Session.upheld_leaves (others : Nat) :
    Upheld fun session => session.watcher.Owns session.env ∧
      session.watcher.Leaves others session.env where
  setup _ holds := ⟨holds.1.setup, holds.2.setup holds.1⟩
  subscribe session holds :=
    have subscribing := session.watcher.subscribing_subscribe session.env
    ⟨subscribing.owns holds.1, holds.2.subscribing holds.1 subscribing⟩
  watch session holds :=
    ⟨holds.1.stays (session.watcher.stays_watch session.env),
      holds.2.stays (session.watcher.stays_watch session.env)⟩
  cleanup _ holds := ⟨holds.1.cleanup, holds.2.cleanup holds.1⟩
  note _ event holds := ⟨holds.1.note event, holds.2⟩

/-- So a run leaves as many behind as it found, whatever it comes to. -/
theorem Watcher.Leaves.run {watcher : Watcher} {others : Nat}
    {env : Environment} (leaves : watcher.Leaves others env)
    (owns : watcher.Owns env) :
    (watcher.run env).2.1.Leaves others (watcher.run env).2.2 := by
  let session : Session := ⟨watcher, env⟩
  have upheld := Session.upheld_leaves others
  exact (@Upheld.run _ upheld session ⟨owns, leaves⟩).2

end MemoryWatch
