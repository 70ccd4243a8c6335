import MemoryWatch.Proofs.Holding
import MemoryWatch.Proofs.Registered
import Mathlib.Data.Nat.Digits.Defs

/-!
# The shapes that a watcher can have

Between two operations a watcher holds nothing, its channel, or its channel and
one control file.  Only a registration that the strict policy rejected leaves it
with all three.  The text of a registration always fits into its capacity; so a
watcher that holds the second control file has written the text that names it,
and from then on it keeps that text.
-/

namespace MemoryWatch

namespace Utf8

@[simp]
theorem ofString_append (first second : String) :
    ofString (first ++ second) = ofString first ++ ofString second := by
  simp [ofString, encode]

theorem utf8Size_of_isDigit {character : Char}
    (digit : character.isDigit = true) : character.utf8Size = 1 := by
  simp only [Char.isDigit, Bool.and_eq_true, decide_eq_true_eq] at digit
  have small : character.val ≤ 0x7F :=
    UInt32.le_trans digit.2 (by decide)
  simp [Char.utf8Size, small]

theorem length_encode_of_isDigit {characters : List Char}
    (digits : ∀ character ∈ characters, character.isDigit = true) :
    (encode characters).length = characters.length := by
  induction characters with
  | nil => rfl
  | cons first rest ih =>
      have single := utf8Size_of_isDigit (digits first (by simp))
      have later := ih fun character member =>
        digits character (by simp [member])
      rw [encode] at later ⊢
      rw [List.flatMap_cons, List.length_append, later, List.length_cons,
        String.length_utf8EncodeChar, single]
      omega

/-- A decimal number takes one byte for each of its digits. -/
theorem length_ofString_toString_le {number width : Nat}
    (positive : 0 < width) (below : number < 10 ^ width) :
    (ofString (toString number)).length ≤ width := by
  have digits : ∀ character ∈ Nat.toDigits 10 number,
      character.isDigit = true :=
    fun character member =>
      Nat.isDigit_of_mem_toDigits (by decide) (by decide) member
  rw [ofString, Nat.toString_eq_repr, Nat.toList_repr,
    length_encode_of_isDigit digits]
  exact Nat.toDigits_length 10 number width positive below

end Utf8

namespace Registration

/-- The text of a registration fits, because the number of a descriptor has at
most ten digits. -/
theorem message_eq_ok {channel oomControl : Descriptor}
    (channelBelow : channel < 2 ^ 31) (oomControlBelow : oomControl < 2 ^ 31) :
    message channel oomControl capacity = .ok s!"{channel} {oomControl}" := by
  have first : (Utf8.ofString (toString channel)).length ≤ 10 :=
    Utf8.length_ofString_toString_le (by decide)
      (lt_trans channelBelow (by decide))
  have second : (Utf8.ofString (toString oomControl)).length ≤ 10 :=
    Utf8.length_ofString_toString_le (by decide)
      (lt_trans oomControlBelow (by decide))
  have fits : (Utf8.ofString s!"{channel} {oomControl}").length ≤ capacity := by
    have space : (Utf8.ofString " ").length = 1 := by decide
    calc
      (Utf8.ofString s!"{channel} {oomControl}").length =
          (Utf8.ofString (toString channel)).length + 1 +
            (Utf8.ofString (toString oomControl)).length := by
        rw [show s!"{channel} {oomControl}" =
          toString channel ++ " " ++ toString oomControl from rfl,
          Utf8.ofString_append, Utf8.ofString_append, List.length_append,
          List.length_append, space]
      _ ≤ capacity := by
        rw [capacity]
        omega
  exact if_neg (Nat.not_lt.mpr fits)

end Registration
/-- The handles and the mark that a watcher can have between two operations. -/
inductive Shape (policy : RegistrationPolicy) : Handles → Prop
  | vacant (mark : Option String) : Shape policy { registration := mark }
  | ready (channel : Descriptor) (mark : Option String) :
      Shape policy { channel := some channel, registration := mark }
  | halfway {channel control : Descriptor} (apart : channel ≠ control) :
      Shape policy { channel := some channel, eventControl := some control }
  | subscribed {channel oomControl : Descriptor}
      (apart : channel ≠ oomControl) :
      Shape policy
        { channel := some channel, oomControl := some oomControl,
          registration := some s!"{channel} {oomControl}" }
  | rejected {channel control oomControl : Descriptor}
      (strict : policy = .strict) (apart : channel ≠ oomControl)
      (channelApart : channel ≠ control) (controlsApart : control ≠ oomControl) :
      Shape policy
        { channel := some channel, eventControl := some control,
          oomControl := some oomControl,
          registration := some s!"{channel} {oomControl}" }

/-- Without a mark the second control file is not held. -/
theorem Shape.oomControl_eq_none {policy : RegistrationPolicy}
    {handles : Handles} (shape : Shape policy handles)
    (unmarked : handles.registration = none) : handles.oomControl = none := by
  cases shape with
  | vacant mark | ready channel mark | halfway apart => rfl
  | subscribed apart | rejected strict apart channelApart controlsApart =>
      cases unmarked

namespace Watcher

variable {watcher next : Watcher} {env after : Environment}
  {policy : RegistrationPolicy} {result : Except WatchError Unit}

theorem Holds.apart (holds : watcher.Holds env) (kind other : HandleKind)
    {first second : Descriptor} (different : kind ≠ other)
    (firstHeld : watcher.handles.descriptor? kind = some first)
    (secondHeld : watcher.handles.descriptor? other = some second) :
    first ≠ second := by
  rintro rfl
  exact different (holds.distinct kind other first firstHeld secondHeld)

/-- A subscription leaves one of the shapes.  It never fails for the length of
its text. -/
theorem Subscribing.shape
    (subscribing : Subscribing watcher env result next after)
    (holds : watcher.Holds env)
    (shape : Shape watcher.settings.registration watcher.handles) :
    Shape watcher.settings.registration next.handles := by
  have vacant := shape.oomControl_eq_none
  have holding := (subscribing.exchanges holds vacant).holds holds
  cases subscribing with
  | refused fault | noEventControl cause unmarked => exact shape
  | noOomControl cause unmarked open_ held =>
      obtain ⟨channel, held⟩ := Option.isSome_iff_exists.mp held
      have free := vacant unmarked
      have handles : watcher.handles =
          { channel := some channel,
            eventControl := watcher.handles.eventControl } := by
        rw [← held, ← free, ← unmarked]
      rw [handles] at holding ⊢
      exact .halfway (holding.apart .channel .eventControl (by simp) rfl rfl)
  | @unwritten channel _ oomControl _ _ controls unnamed =>
      have named := Registration.message_eq_ok
        (lt_trans (holding.below .channel channel rfl) (by decide))
        (lt_trans (holding.below .oomControl oomControl rfl) (by decide))
      rw [named] at unnamed
      cases unnamed
  | rejected controls named writes strict incomplete =>
      rw [Registration.eq_of_message named] at holding ⊢
      exact .rejected strict
        (holding.apart .channel .oomControl (by simp) rfl rfl)
        (holding.apart .channel .eventControl (by simp) rfl rfl)
        (holding.apart .eventControl .oomControl (by simp) rfl rfl)
  | accepted event controls named writes passed =>
      rw [Registration.eq_of_message named] at holding ⊢
      exact .subscribed (holding.apart .channel .oomControl (by simp) rfl rfl)

theorem setup_shape (coherent : env.host.IsCoherent)
    (shape : Shape policy watcher.handles) :
    Shape policy (watcher.setup env).2.1.handles := by
  obtain ⟨_, result⟩ | ⟨channel, _, _, free, _, _, result⟩ :=
    watcher.setup_cases coherent
  · rw [result]
    exact shape
  · rw [result]
    generalize watcher.handles = handles at free shape
    cases shape with
    | vacant mark => exact .ready channel mark
    | ready | halfway | subscribed | rejected => cases free

end Watcher

/-- What is true of a watcher with some settings between two operations. -/
structure WellFormed (settings : Settings) (session : Session) : Prop where
  configured : session.watcher.settings = settings
  holds : session.watcher.Holds session.env
  shape : Shape settings.registration session.watcher.handles

namespace WellFormed

variable {settings : Settings} {session : Session}

theorem still (formed : WellFormed settings session) {after : Environment}
    (exchange : Exchange session ⟨session.watcher, after⟩) :
    WellFormed settings ⟨session.watcher, after⟩ :=
  ⟨formed.configured, exchange.holds formed.holds, formed.shape⟩

theorem exchanges_subscribe (formed : WellFormed settings session) :
    Exchanges session session.subscribe :=
  (session.watcher.subscribing_subscribe session.env).exchanges formed.holds
    formed.shape.oomControl_eq_none

theorem subscribe (formed : WellFormed settings session) :
    WellFormed settings session.subscribe := by
  have subscribing := session.watcher.subscribing_subscribe session.env
  refine ⟨subscribing.settings.trans formed.configured,
    formed.exchanges_subscribe.holds formed.holds, ?_⟩
  have shape := formed.shape
  rw [← formed.configured] at shape ⊢
  exact subscribing.shape formed.holds shape

theorem kept (settings : Settings) :
    Kept Watcher.Spares (WellFormed settings) where
  setup session formed :=
    ⟨(session.watcher.setup_handles formed.holds.coherent).1.trans
        formed.configured,
      (Watcher.exchanges_setup formed.holds).holds formed.holds,
      Watcher.setup_shape formed.holds.coherent formed.shape⟩
  subscribe _ formed := formed.subscribe
  watch _ formed := formed.still (Watcher.exchange_watch formed.holds)
  cleanup session formed :=
    ⟨formed.configured,
      (Watcher.exchanges_cleanup formed.holds).holds formed.holds,
      .vacant session.watcher.handles.registration⟩
  notifier _ formed :=
    formed.still (Watcher.exchange_notifier formed.holds)
  note _ event formed := formed.still (formed.holds.note event)
  outside _ _ formed spares := formed.still (.keep spares rfl)

/-- A watcher that holds nothing yet is well formed. -/
theorem of_empty {origin : Session} (empty : origin.watcher.handles = {})
    (coherent : origin.env.host.IsCoherent) :
    WellFormed origin.watcher.settings origin := by
  have free := Handles.descriptor?_of_empty empty
  refine ⟨rfl, ⟨coherent, ?_, ?_, ?_⟩, ?_⟩
  · intro kind descriptor held
    rw [free] at held
    cases held
  · intro kind other descriptor held
    rw [free] at held
    cases held
  · intro kind descriptor held
    rw [free] at held
    cases held
  · rw [empty]
    exact .vacant none

end WellFormed

/-- No operation changes the text of a registration or takes it away. -/
theorem kept_registration
    (allowed : Watcher → Environment → Environment → Prop) (text : String) :
    Kept allowed
      fun session => session.watcher.handles.registration = some text where
  setup session marked := by
    rw [Session.setup, Watcher.setup]
    split
    · exact marked
    · split
      · exact marked
      · exact marked
  subscribe session marked := by
    obtain ⟨fault, result⟩ :=
      Watcher.subscribe_of_registration marked session.env
    rw [Session.subscribe, result]
    exact marked
  watch _ marked := marked
  cleanup _ marked := marked
  notifier _ marked := marked
  note _ _ marked := marked
  outside _ _ marked _ := marked

namespace Course

/-- After any operations of a new watcher, whatever they came to and whatever
others did to the host except taking away what the watcher holds, its handles
have one of the shapes, and a text of a registration that is there stays as it
is. -/
theorem shape_of_empty {origin session : Session}
    (empty : origin.watcher.handles = {})
    (coherent : origin.env.host.IsCoherent)
    (course : Course Watcher.Spares origin session) :
    Shape origin.watcher.settings.registration session.watcher.handles ∧
      ∀ text, session.watcher.handles.registration = some text →
        ∀ later, Course Watcher.Spares session later →
          later.watcher.handles.registration = some text := by
  have formed := course.keeps (WellFormed.kept origin.watcher.settings)
    (WellFormed.of_empty empty coherent)
  refine ⟨formed.shape, ?_⟩
  intro text marked later further
  exact further.keeps (kept_registration Watcher.Spares text) marked

end Course

namespace Session

/-- The registration of the sample is rejected, and after that the handles are
given up. -/
theorem shape_fullSample :
    (sample fullActions).watcher.handles = {} ∧
      (sample fullActions).env.host.IsCoherent ∧
      Course Watcher.Spares (sample fullActions) fullSample.subscribe ∧
      fullSample.subscribe.watcher.handles.registration = some "4 6" ∧
      Shape .strict fullSample.subscribe.watcher.handles ∧
      fullSample.subscribe.cleanup.watcher.handles.registration =
        some "4 6" := by
  have coherent : (sample fullActions).env.host.IsCoherent := by
    decide +kernel
  have course : Course Watcher.Spares (sample fullActions)
      fullSample.subscribe :=
    .perform (.perform .origin .setup) .subscribe
  have marked :
      fullSample.subscribe.watcher.handles.registration = some "4 6" := by
    decide +kernel
  obtain ⟨shape, keeps⟩ := course.shape_of_empty rfl coherent
  exact ⟨rfl, coherent, course, marked, shape,
    keeps _ marked _ (.perform .origin .cleanup)⟩

end Session

end MemoryWatch
