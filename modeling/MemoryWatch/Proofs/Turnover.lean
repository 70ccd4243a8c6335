import MemoryWatch.Proofs.Account
import MemoryWatch.Proofs.Shape
import Mathlib.Data.Finset.Card

/-!
# The turnover of descriptors

The trace tells which descriptors a watcher makes and which it gives up.  The
numbers that are open after some steps are counted from the steps alone, and
between two operations they are exactly those that the watcher holds.  At no step
are there more than three of them, not even while a repeated subscription has
opened a control file anew and still holds the old one.  When the watcher is gone
every descriptor that it has made was given up once.
-/

namespace MemoryWatch

namespace Step

/-- The open numbers after a step, when these were open before. -/
def turn (numbers : Finset Descriptor) : Step → Finset Descriptor
  | opened descriptor => insert descriptor numbers
  | closed descriptor => numbers.erase descriptor
  | registered _ _ | waited _ _ | read _ | delivered _ _ | probed _ | added _
  | interrupted => numbers

/-- The numbers that some steps have made and not given up. -/
def openAfter (steps : List Step) : Finset Descriptor :=
  steps.foldl turn ∅

/-- Some steps neither make a descriptor nor give it up. -/
structure LeaveAlone (descriptor : Descriptor) (steps : List Step) : Prop where
  unopened : .opened descriptor ∉ steps
  unclosed : .closed descriptor ∉ steps

/-- Whatever is made is given up once before it is made again, and nothing else
is given up. -/
structure Paired (steps : List Step) : Prop where
  closed : ∀ earlier descriptor later,
    steps = earlier ++ .opened descriptor :: later →
      ∃ between rest, later = between ++ .closed descriptor :: rest ∧
        LeaveAlone descriptor between
  opened : ∀ earlier descriptor later,
    steps = earlier ++ .closed descriptor :: later →
      ∃ before between, earlier = before ++ .opened descriptor :: between ∧
        LeaveAlone descriptor between

namespace LeaveAlone

variable {descriptor other : Descriptor} {steps : List Step}

theorem nil (descriptor : Descriptor) : LeaveAlone descriptor [] :=
  ⟨by simp, by simp⟩

theorem opened (alone : LeaveAlone descriptor steps)
    (different : descriptor ≠ other) :
    LeaveAlone descriptor (steps ++ [.opened other]) :=
  ⟨by simp [alone.unopened, different], by simp [alone.unclosed]⟩

theorem closed (alone : LeaveAlone descriptor steps)
    (different : descriptor ≠ other) :
    LeaveAlone descriptor (steps ++ [.closed other]) :=
  ⟨by simp [alone.unopened], by simp [alone.unclosed, different]⟩

theorem still (alone : LeaveAlone descriptor steps) {step : Step}
    (quiet : step.isTurnover = false) :
    LeaveAlone descriptor (steps ++ [step]) := by
  constructor
  · intro member
    rcases List.mem_append.mp member with early | late
    · exact alone.unopened early
    · cases List.mem_singleton.mp late
      cases quiet
  · intro member
    rcases List.mem_append.mp member with early | late
    · exact alone.unclosed early
    · cases List.mem_singleton.mp late
      cases quiet

end LeaveAlone

/-- A list that ends in a step is cut at its end, or before that step. -/
theorem cut_append {steps earlier later : List Step} {last : Step}
    (cut : earlier ++ later = steps ++ [last]) :
    earlier = steps ++ [last] ∨ ∃ front, steps = earlier ++ front := by
  rcases List.eq_nil_or_concat later with rfl | ⟨front, final, rfl⟩
  · exact Or.inl (by simpa using cut)
  · rw [List.concat_eq_append, ← List.append_assoc] at cut
    exact Or.inr ⟨front, (List.append_inj' cut rfl).1.symm⟩

theorem turn_of_not_isTurnover (numbers : Finset Descriptor) {step : Step}
    (quiet : step.isTurnover = false) : step.turn numbers = numbers := by
  cases step <;> simp_all [isTurnover, turn]

end Step

/-- Steps that make only numbers that are free, give up only numbers that are
open, and never leave more than three open. -/
inductive Books : List Step → Finset Descriptor → Prop
  | nil : Books [] ∅
  | opened {steps : List Step} {numbers : Finset Descriptor}
      {descriptor : Descriptor} (books : Books steps numbers)
      (free : descriptor ∉ numbers) (room : numbers.card < 3) :
      Books (steps ++ [.opened descriptor]) (insert descriptor numbers)
  | closed {steps : List Step} {numbers : Finset Descriptor}
      {descriptor : Descriptor} (books : Books steps numbers)
      (open_ : descriptor ∈ numbers) :
      Books (steps ++ [.closed descriptor]) (numbers.erase descriptor)
  | still {steps : List Step} {numbers : Finset Descriptor} {step : Step}
      (books : Books steps numbers) (quiet : step.isTurnover = false) :
      Books (steps ++ [step]) numbers

namespace Books

variable {steps : List Step} {numbers : Finset Descriptor}
  {descriptor : Descriptor}

theorem openAfter_eq (books : Books steps numbers) :
    Step.openAfter steps = numbers := by
  induction books with
  | nil => rfl
  | opened _ _ _ ih | closed _ _ ih =>
      rw [Step.openAfter, List.foldl_append, ← Step.openAfter, ih]
      rfl
  | still _ quiet ih =>
      rw [Step.openAfter, List.foldl_append, ← Step.openAfter, ih]
      exact Step.turn_of_not_isTurnover _ quiet

theorem card_le (books : Books steps numbers) : numbers.card ≤ 3 := by
  induction books with
  | nil => simp
  | opened _ free room _ =>
      rw [Finset.card_insert_of_notMem free]
      omega
  | closed _ _ ih => exact le_trans (Finset.card_erase_le) ih
  | still _ _ ih => exact ih

theorem stills (books : Books steps numbers) {more : List Step}
    (quiet : ∀ step ∈ more, step.isTurnover = false) :
    Books (steps ++ more) numbers := by
  induction more generalizing steps with
  | nil => simpa using books
  | cons step rest ih =>
      have first := books.still (quiet step (by simp))
      rw [List.append_cons]
      exact ih first fun later member => quiet later (by simp [member])

/-- The books were in order at every moment before. -/
theorem of_append {earlier later : List Step}
    (books : Books (earlier ++ later) numbers) :
    ∃ before, Books earlier before := by
  generalize whole : earlier ++ later = steps at books
  induction books generalizing later with
  | nil =>
      rw [(List.append_eq_nil_iff.mp whole).1]
      exact ⟨_, .nil⟩
  | opened books free room ih =>
      obtain rfl | ⟨front, rfl⟩ := Step.cut_append whole
      · exact ⟨_, .opened books free room⟩
      · exact ih rfl
  | closed books open_ ih =>
      obtain rfl | ⟨front, rfl⟩ := Step.cut_append whole
      · exact ⟨_, .closed books open_⟩
      · exact ih rfl
  | still books quiet ih =>
      obtain rfl | ⟨front, rfl⟩ := Step.cut_append whole
      · exact ⟨_, .still books quiet⟩
      · exact ih rfl

/-- An open descriptor was made by some step, and left alone since. -/
theorem exists_opened (books : Books steps numbers)
    (member : descriptor ∈ numbers) :
    ∃ before between, steps = before ++ .opened descriptor :: between ∧
      Step.LeaveAlone descriptor between := by
  induction books with
  | nil => cases member
  | @opened steps _ other _ _ _ ih =>
      by_cases same : descriptor = other
      · exact ⟨steps, [], by rw [same], .nil descriptor⟩
      · obtain ⟨before, between, rfl, alone⟩ :=
          ih (Finset.mem_of_mem_insert_of_ne member same)
        exact ⟨before, between ++ [.opened other], by simp,
          alone.opened same⟩
  | @closed _ _ other _ _ ih =>
      obtain ⟨different, present⟩ := Finset.mem_erase.mp member
      obtain ⟨before, between, rfl, alone⟩ := ih present
      exact ⟨before, between ++ [.closed other], by simp,
        alone.closed different⟩
  | @still _ _ step _ quiet ih =>
      obtain ⟨before, between, rfl, alone⟩ := ih member
      exact ⟨before, between ++ [step], by simp, alone.still quiet⟩

/-- A descriptor that was made is still open, or it was given up once. -/
theorem cases_of_opened (books : Books steps numbers)
    {earlier later : List Step}
    (cut : steps = earlier ++ .opened descriptor :: later) :
    (descriptor ∈ numbers ∧ Step.LeaveAlone descriptor later) ∨
      ∃ between rest, later = between ++ .closed descriptor :: rest ∧
        Step.LeaveAlone descriptor between := by
  induction books generalizing later with
  | nil => simp at cut
  | @opened _ numbers other _ free _ ih =>
      obtain ⟨_, last, rfl⟩ | ⟨before, rfl, rfl⟩ :=
        Step.cut_append_singleton cut
      · cases last
        exact Or.inl ⟨Finset.mem_insert_self _ numbers, .nil descriptor⟩
      · obtain ⟨member, alone⟩ | ⟨between, rest, rfl, alone⟩ := ih rfl
        · have different : descriptor ≠ other :=
            fun same => free (same ▸ member)
          exact Or.inl ⟨Finset.mem_insert_of_mem member,
            alone.opened different⟩
        · exact Or.inr ⟨between, rest ++ [.opened other], by simp, alone⟩
  | @closed _ _ other _ _ ih =>
      obtain ⟨_, last, rfl⟩ | ⟨before, rfl, rfl⟩ :=
        Step.cut_append_singleton cut
      · cases last
      · obtain ⟨member, alone⟩ | ⟨between, rest, rfl, alone⟩ := ih rfl
        · by_cases same : descriptor = other
          · exact Or.inr ⟨before, [], by rw [same], alone⟩
          · exact Or.inl ⟨Finset.mem_erase.mpr ⟨same, member⟩,
              alone.closed same⟩
        · exact Or.inr ⟨between, rest ++ [.closed other], by simp, alone⟩
  | @still _ _ step _ quiet ih =>
      obtain ⟨_, last, rfl⟩ | ⟨before, rfl, rfl⟩ :=
        Step.cut_append_singleton cut
      · rw [last] at quiet
        cases quiet
      · obtain ⟨member, alone⟩ | ⟨between, rest, rfl, alone⟩ := ih rfl
        · exact Or.inl ⟨member, alone.still quiet⟩
        · exact Or.inr ⟨between, rest ++ [step], by simp, alone⟩

/-- Only what is open is given up. -/
theorem mem_of_closed {earlier later : List Step}
    (books : Books (earlier ++ .closed descriptor :: later) numbers) :
    ∃ before, Books earlier before ∧ descriptor ∈ before := by
  generalize whole : earlier ++ .closed descriptor :: later = steps at books
  induction books generalizing later with
  | nil => simp at whole
  | opened books free room ih =>
      obtain ⟨_, last, _⟩ | ⟨front, rfl, rfl⟩ :=
        Step.cut_append_singleton whole.symm
      · cases last
      · exact ih rfl
  | closed books open_ ih =>
      obtain ⟨rfl, last, _⟩ | ⟨front, rfl, rfl⟩ :=
        Step.cut_append_singleton whole.symm
      · cases last
        exact ⟨_, books, open_⟩
      · exact ih rfl
  | still books quiet ih =>
      obtain ⟨_, last, _⟩ | ⟨front, rfl, rfl⟩ :=
        Step.cut_append_singleton whole.symm
      · rw [last] at quiet
        cases quiet
      · exact ih rfl

/-- When nothing is open any more, everything made was given up once. -/
theorem paired (books : Books steps ∅) : Step.Paired steps where
  closed earlier descriptor later cut := by
    obtain ⟨member, _⟩ | given := books.cases_of_opened cut
    · cases member
    · exact given
  opened earlier descriptor later cut := by
    rw [cut] at books
    obtain ⟨before, recorded, member⟩ := books.mem_of_closed
    exact recorded.exists_opened member

end Books

namespace Handles

/-- The numbers of the descriptors held. -/
def descriptors (handles : Handles) : Finset Descriptor :=
  (handles.held.map Prod.snd).toFinset

theorem mem_descriptors {handles : Handles} {descriptor : Descriptor} :
    descriptor ∈ handles.descriptors ↔
      ∃ kind, handles.descriptor? kind = some descriptor := by
  simp only [descriptors, List.mem_toFinset, List.mem_map]
  constructor
  · rintro ⟨⟨kind, _⟩, member, rfl⟩
    exact ⟨kind, Watcher.mem_held_iff.mp member⟩
  · rintro ⟨kind, held⟩
    exact ⟨(kind, descriptor), Watcher.mem_held_iff.mpr held, rfl⟩

theorem card_descriptors_lt_three {handles : Handles} {kind : HandleKind}
    (vacant : handles.descriptor? kind = none) :
    handles.descriptors.card < 3 := by
  have counted : handles.held.length < 3 := by
    rcases handles with ⟨_ | _, _ | _, _ | _, _⟩ <;> cases kind <;>
      simp_all [held, descriptor?]
  calc
    handles.descriptors.card ≤ (handles.held.map Prod.snd).length :=
      List.toFinset_card_le _
    _ < 3 := by simpa using counted

theorem descriptors_congr {first second : Handles}
    (same : first.descriptor? = second.descriptor?) :
    first.descriptors = second.descriptors := by
  ext descriptor
  rw [mem_descriptors, mem_descriptors, same]

end Handles

namespace Watcher.Holds

variable {watcher : Watcher} {env : Environment}

/-- Another descriptor of one kind takes the place of the one that was there. -/
theorem mem_descriptors_put (holds : watcher.Holds env) (kind : HandleKind)
    (put : Option Descriptor) (descriptor : Descriptor) :
    descriptor ∈ (watcher.handles.put kind put).descriptors ↔
      put = some descriptor ∨ (descriptor ∈ watcher.handles.descriptors ∧
        watcher.handles.descriptor? kind ≠ some descriptor) := by
  simp only [Handles.mem_descriptors, Handles.descriptor?_put]
  constructor
  · rintro ⟨other, held⟩
    split at held
    · exact Or.inl held
    · next different =>
        exact Or.inr ⟨⟨other, held⟩, fun same =>
          different (holds.distinct other kind descriptor held same)⟩
  · rintro (new | ⟨⟨other, held⟩, apart⟩)
    · exact ⟨kind, by rw [if_pos rfl, new]⟩
    · have different : other ≠ kind := by
        rintro rfl
        exact apart held
      exact ⟨other, by rw [if_neg different, held]⟩

/-- A watcher holds as many numbers as handles. -/
theorem card_descriptors (holds : watcher.Holds env) :
    watcher.handles.descriptors.card = watcher.handles.count := by
  have injective : ∀ first ∈ watcher.handles.held,
      ∀ second ∈ watcher.handles.held, first.2 = second.2 →
        first = second := by
    rintro ⟨kind, descriptor⟩ first ⟨other, _⟩ second rfl
    rw [holds.distinct kind other descriptor (mem_held_iff.mp first)
      (mem_held_iff.mp second)]
  have nodup : watcher.handles.held.Nodup := by
    rcases watcher.handles with ⟨_ | _, _ | _, _ | _, _⟩ <;>
      simp [Handles.held]
  rw [Handles.descriptors, List.toFinset_card_of_nodup
    (List.Nodup.map_on injective nodup), List.length_map, Handles.count]

end Watcher.Holds

/-- The books that a watcher has kept since a start are in order, and at their
end exactly what it holds is open. -/
def Booked (start : Environment) (session : Session) : Prop :=
  ∃ steps, session.env.trace = start.trace ++ steps ∧
    Books steps session.watcher.handles.descriptors

namespace Booked

variable {start : Environment} {before after : Session}

/-- Giving up a descriptor, if there is one, enters it into the books. -/
theorem closeHeld {steps : List Step} {numbers : Finset Descriptor}
    {env : Environment} {next : Watcher} {held : Option Descriptor}
    (shown : env.trace = start.trace ++ steps) (books : Books steps numbers)
    (open_ : ∀ descriptor, held = some descriptor → descriptor ∈ numbers)
    (left : ∀ descriptor, descriptor ∈ next.handles.descriptors ↔
      descriptor ∈ numbers ∧ held ≠ some descriptor) :
    Booked start ⟨next, env.closeHeld held⟩ := by
  cases held with
  | none =>
      have same : next.handles.descriptors = numbers := by
        ext descriptor
        simp [left]
      exact ⟨steps, shown, same ▸ books⟩
  | some closed =>
      have same : next.handles.descriptors = numbers.erase closed := by
        ext descriptor
        rw [left, Finset.mem_erase]
        simp [and_comm, eq_comm]
      refine ⟨steps ++ [.closed closed], ?_, ?_⟩
      · simp [Environment.closeHeld, Environment.close, Environment.record,
          shown]
      · rw [same]
        exact books.closed (open_ closed rfl)

theorem exchange (booked : Booked start before)
    (holds : before.watcher.Holds before.env)
    (exchange : Exchange before after) : Booked start after := by
  obtain ⟨steps, shown, books⟩ := booked
  cases exchange with
  | @take before next env opened made kind opens vacant handles =>
      have free : made ∉ before.handles.descriptors := by
        intro held
        obtain ⟨other, held⟩ := Handles.mem_descriptors.mp held
        obtain ⟨position, located⟩ := holds.placed other made held
        rw [opens.makes.free] at located
        cases located
      have room : before.handles.descriptors.card < 3 :=
        Handles.card_descriptors_lt_three vacant.choose_spec
      have further : opened.trace = start.trace ++ (steps ++ [.opened made]) := by
        rw [opens.trace, shown, List.append_assoc]
      refine closeHeld further (books.opened free room) ?_ ?_
      · intro descriptor held
        exact Finset.mem_insert_of_mem
          (Handles.mem_descriptors.mpr ⟨kind, held⟩)
      · intro descriptor
        rw [Handles.descriptors_congr handles, holds.mem_descriptors_put,
          Finset.mem_insert]
        constructor
        · rintro (new | ⟨member, apart⟩)
          · cases new
            exact ⟨Or.inl rfl, fun held =>
              free (Handles.mem_descriptors.mpr ⟨kind, held⟩)⟩
          · exact ⟨Or.inr member, apart⟩
        · rintro ⟨new | member, apart⟩
          · exact Or.inl (by rw [new])
          · exact Or.inr ⟨member, apart⟩
  | leave kind handles =>
      refine closeHeld shown books ?_ ?_
      · intro descriptor held
        exact Handles.mem_descriptors.mpr ⟨kind, held⟩
      · intro descriptor
        rw [Handles.descriptors_congr handles, holds.mem_descriptors_put]
        simp
  | keep spares handles =>
      obtain ⟨more, further, quiet⟩ := spares.continues
      refine ⟨steps ++ more, ?_, ?_⟩
      · rw [further, shown, List.append_assoc]
      · rw [Handles.descriptors_congr handles]
        exact books.stills quiet

theorem exchanges (booked : Booked start before)
    (holds : before.watcher.Holds before.env)
    (exchanges : Exchanges before after) : Booked start after := by
  induction exchanges with
  | refl => exact booked
  | tail earlier exchange ih =>
      exact ih.exchange (Exchanges.holds earlier holds) exchange

/-- Every operation keeps the books of a well-formed watcher. -/
theorem kept (start : Environment) (settings : Settings) :
    Kept Watcher.Spares fun session =>
      WellFormed settings session ∧ Booked start session where
  setup session := fun ⟨formed, booked⟩ =>
    ⟨(WellFormed.kept settings).setup session formed,
      booked.exchanges formed.holds (Watcher.exchanges_setup formed.holds)⟩
  subscribe _ := fun ⟨formed, booked⟩ =>
    ⟨formed.subscribe,
      booked.exchanges formed.holds formed.exchanges_subscribe⟩
  watch session := fun ⟨formed, booked⟩ =>
    ⟨(WellFormed.kept settings).watch session formed,
      booked.exchange formed.holds (Watcher.exchange_watch formed.holds)⟩
  cleanup session := fun ⟨formed, booked⟩ =>
    ⟨(WellFormed.kept settings).cleanup session formed,
      booked.exchanges formed.holds (Watcher.exchanges_cleanup formed.holds)⟩
  notifier session := fun ⟨formed, booked⟩ =>
    ⟨(WellFormed.kept settings).notifier session formed,
      booked.exchange formed.holds (Watcher.exchange_notifier formed.holds)⟩
  note session event := fun ⟨formed, booked⟩ =>
    ⟨(WellFormed.kept settings).note session event formed,
      booked.exchange formed.holds (formed.holds.note event)⟩
  outside _ after := fun ⟨formed, booked⟩ spares =>
    ⟨(WellFormed.kept settings).outside _ after formed spares,
      booked.exchange formed.holds (.keep spares rfl)⟩

end Booked

namespace Watcher

/-- Giving up handles frees their numbers, and no others. -/
theorem position?_closeHandles (handles : List (HandleKind × Descriptor))
    (env : Environment) (descriptor : Descriptor) :
    (handles.foldl closeHandle env).host.position? descriptor =
      if descriptor ∈ handles.map Prod.snd then none
      else env.host.position? descriptor := by
  induction handles generalizing env with
  | nil => rfl
  | cons handle rest ih =>
      have closed : (closeHandle env handle).host.position? descriptor =
          if descriptor = handle.2 then none
          else env.host.position? descriptor :=
        Host.position?_close env.host handle.2 descriptor
      rw [List.foldl_cons, ih, closed, List.map_cons]
      by_cases later : descriptor ∈ rest.map Prod.snd
      · rw [if_pos later, if_pos (List.mem_cons_of_mem _ later)]
      · by_cases same : descriptor = handle.2 <;> simp [later, same]

/-- Whatever others do during a watch they may also do at other times. -/
theorem Holds.spares_act {watcher : Watcher} {env : Environment}
    (holds : watcher.Holds env) (channel : Descriptor) (action : Action) :
    watcher.Spares env (env.act (some channel) action).2 :=
  holds.spares ((Motions.actAll channel env [action]).continues.mono
    isTurnover_of_not_isHandling) (.act env channel action)

end Watcher

/-- The steps with which handles are given up. -/
def Handles.closings (handles : Handles) : List Step :=
  handles.held.map fun handle => .closed handle.2

theorem WellFormed.vacated {settings : Settings} {start : Environment}
    {session : Session} {steps : List Step}
    (formed : WellFormed settings session)
    (shown : session.env.trace = start.trace ++ steps)
    (books : Books steps session.watcher.handles.descriptors) :
    Books (steps ++ session.watcher.handles.closings) ∅ := by
  obtain ⟨all, traced, closed⟩ := Booked.exchanges ⟨steps, shown, books⟩
    formed.holds (Watcher.exchanges_cleanup formed.holds)
  have given : session.cleanup.env.trace =
      session.env.trace ++ session.watcher.handles.closings :=
    Watcher.trace_closeHandles _ session.env
  have same : all = steps ++ session.watcher.handles.closings := by
    have whole := traced.symm.trans given
    rw [shown, List.append_assoc] at whole
    exact List.append_cancel_left whole
  rwa [same] at closed

/-- What the steps of a watcher since its beginning tell of its descriptors. -/
structure Turnover (origin session : Session) (steps : List Step) : Prop where
  shown : session.env.trace = origin.env.trace ++ steps
  /-- What was made and not given up is what the watcher holds. -/
  held : Step.openAfter steps = session.watcher.handles.descriptors
  counted : (Step.openAfter steps).card = session.watcher.handles.count
  placed : ∀ descriptor ∈ Step.openAfter steps,
    ∃ position, session.env.host.position? descriptor = some position
  bounded : ∀ earlier later, steps = earlier ++ later →
    (Step.openAfter earlier).card ≤ 3
  /-- Cleaning up gives up as many descriptors as it answers. -/
  cleaned :
    (session.watcher.cleanup session.env).1 =
        session.watcher.handles.closings.length ∧
      session.cleanup.env.trace =
        session.env.trace ++ session.watcher.handles.closings ∧
      session.cleanup.watcher.handles.count = 0
  /-- When the watcher is gone, everything it made was given up once. -/
  disposed :
    (session.watcher.dispose session.env).trace =
        origin.env.trace ++ (steps ++ session.watcher.handles.closings) ∧
      Step.openAfter (steps ++ session.watcher.handles.closings) = ∅ ∧
      Step.Paired (steps ++ session.watcher.handles.closings) ∧
      ∀ descriptor ∈ Step.openAfter steps,
        (session.watcher.dispose session.env).host.position? descriptor = none

namespace Course

/-- The descriptors of a new watcher are accounted for after any operations,
whatever they came to. -/
theorem turnover {origin session : Session}
    (empty : origin.watcher.handles = {})
    (coherent : origin.env.host.IsCoherent)
    (course : Course Watcher.Spares origin session) :
    ∃ steps, Turnover origin session steps := by
  have born : Booked origin.env origin :=
    ⟨[], by simp, by rw [empty]; exact .nil⟩
  obtain ⟨formed, steps, shown, books⟩ := course.keeps
    (Booked.kept origin.env origin.watcher.settings)
    ⟨WellFormed.of_empty empty coherent, born⟩
  have given : (session.watcher.dispose session.env).trace =
      session.env.trace ++ session.watcher.handles.closings :=
    Watcher.trace_closeHandles _ session.env
  have vacated := formed.vacated shown books
  refine ⟨steps, shown, books.openAfter_eq, ?_, ?_, ?_, ?_, ?_⟩
  · rw [books.openAfter_eq]
    exact formed.holds.card_descriptors
  · rw [books.openAfter_eq]
    intro descriptor member
    obtain ⟨kind, held⟩ := Handles.mem_descriptors.mp member
    exact formed.holds.placed kind descriptor held
  · rintro earlier later rfl
    obtain ⟨before, recorded⟩ := books.of_append
    rw [recorded.openAfter_eq]
    exact recorded.card_le
  · exact ⟨List.length_map _ |>.symm, given, rfl⟩
  · refine ⟨?_, vacated.openAfter_eq, vacated.paired, ?_⟩
    · rw [given, shown, List.append_assoc]
    · rw [books.openAfter_eq]
      intro descriptor member
      have freed := Watcher.position?_closeHandles
        session.watcher.handles.held session.env descriptor
      rwa [if_pos (List.mem_toFinset.mp member)] at freed

end Course

namespace Session

/-- A cgroup without the file to which a listener is tied. -/
def partialActions : List Action :=
  [.makeDirectories sampleCgroup,
    .writeFile (Cgroup.eventControl sampleCgroup) []]

/-- A subscription has failed at the second control file. -/
def failedSample : Session :=
  (sample partialActions).setup.subscribe

/-- After that the second control file appears. -/
def halfwaySample : Session :=
  failedSample.elapse (failedSample.env.act (some 4)
    (.writeFile (Cgroup.oomControl sampleCgroup) [])).2

/-- The subscription is repeated, which opens the first control file anew. -/
theorem turnover_halfwaySample :
    (sample partialActions).watcher.handles = {} ∧
      (sample partialActions).env.host.IsCoherent ∧
      Course Watcher.Spares (sample partialActions) halfwaySample.subscribe ∧
      halfwaySample.watcher.handles.eventControl = some 5 ∧
      halfwaySample.subscribe.watcher.handles.oomControl = some 5 ∧
      ∃ steps,
        Turnover (sample partialActions) halfwaySample.subscribe steps := by
  have coherent : (sample partialActions).env.host.IsCoherent := by
    decide +kernel
  have failed : Course Watcher.Spares (sample partialActions) failedSample :=
    .perform (.perform .origin .setup) .subscribe
  have formed := failed.keeps (WellFormed.kept _)
    (WellFormed.of_empty rfl coherent)
  have halfway : Course Watcher.Spares (sample partialActions)
      halfwaySample :=
    .outside failed (formed.holds.spares_act 4 _)
  have course := halfway.perform .subscribe
  exact ⟨rfl, coherent, course, by decide +kernel, by decide +kernel,
    course.turnover rfl coherent⟩

end Session

end MemoryWatch
