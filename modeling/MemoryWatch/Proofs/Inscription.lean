import MemoryWatch.Proofs.Ancestry
import MemoryWatch.Proofs.Encoding
import MemoryWatch.Proofs.Handshake
import Mathlib.Data.Nat.Log

/-!
# The text of a registration

A registration is two decimal numbers with a blank between them.  A number is
written with its digits and perhaps a minus sign, and so without any blank; the
text is therefore cut at the only blank it has, and the numbers are read back.

How long the text is depends on the sizes of the numbers alone.  Two numbers of
descriptors, which are signed words of 32 bits, always fit: each has ten digits
at most.  So a subscription that has opened both control files goes on to write
the text.
-/

namespace MemoryWatch

namespace Decimal

/-- How many characters a number has: a digit for each power of ten up to it,
and the sign if it is negative. -/
def width (number : Int) : Nat :=
  (if number < 0 then 1 else 0) + (Nat.log 10 number.natAbs + 1)

theorem length_toDigits (number : Nat) :
    (Nat.toDigits 10 number).length = Nat.log 10 number + 1 := by
  refine Nat.le_antisymm ?_ ?_
  · rw [Nat.length_toDigits_le_iff (by decide) (Nat.succ_pos _)]
    exact Nat.lt_pow_succ_log_self (by decide) number
  · rw [Nat.succ_le_iff]
    -- One digit less would not be enough for the highest power of ten.
    by_contra few
    obtain empty | positive := Nat.eq_zero_or_pos (Nat.log 10 number)
    · rw [empty] at few
      exact few Nat.length_toDigits_pos
    · have below := (Nat.length_toDigits_le_iff (by decide) positive).mp
        (Nat.le_of_not_lt few)
      have nonzero : number ≠ 0 := by
        rintro rfl
        simp at positive
      exact absurd (Nat.pow_log_le_self 10 nonzero) (Nat.not_le.mpr below)

/-- A number is written as its sign and its digits. -/
theorem toList_toString (number : Int) :
    (toString number).toList =
      (if number < 0 then ['-'] else []) ++
        Nat.toDigits 10 number.natAbs := by
  rw [Int.toString_eq_repr]
  cases number with
  | ofNat number => simp [Int.repr, Nat.toList_repr]
  | negSucc number => simp [Int.repr, Nat.toList_repr, Int.negSucc_lt_zero]

/-- Read some digits. -/
def natural? (digits : List Char) : Option Nat :=
  if digits.isEmpty = false ∧ digits.all Char.isDigit = true then
    some (Nat.ofDigitChars 10 digits 0)
  else none

/-- Read a number, before which a minus sign may stand. -/
def integer? : List Char → Option Int
  | '-' :: digits => (natural? digits).map fun number : Nat => -(number : Int)
  | digits => (natural? digits).map fun number : Nat => (number : Int)

theorem natural?_toDigits (number : Nat) :
    natural? (Nat.toDigits 10 number) = some number := by
  have some_digits : (Nat.toDigits 10 number).isEmpty = false :=
    List.isEmpty_eq_false_iff.mpr Nat.toDigits_ne_nil
  have digits : (Nat.toDigits 10 number).all Char.isDigit = true :=
    List.all_eq_true.mpr fun _ =>
      Nat.isDigit_of_mem_toDigits (by decide) (by decide)
  rw [natural?, if_pos ⟨some_digits, digits⟩, Nat.ofDigitChars_ten_toDigits]

theorem integer?_toString (number : Int) :
    integer? (toString number).toList = some number := by
  rw [toList_toString]
  split
  · next negative =>
      have magnitude : -(number.natAbs : Int) = number := by omega
      rw [List.singleton_append, integer?, natural?_toDigits,
        Option.map_some, magnitude]
  · next positive =>
      rw [List.nil_append, integer?.eq_def]
      split
      · next signed =>
          -- No digit is a minus sign.
          have digit : '-'.isDigit = true :=
            Nat.isDigit_of_mem_toDigits (by decide) (by decide)
              (signed ▸ List.mem_cons_self)
          exact absurd digit (by decide)
      · have magnitude : (number.natAbs : Int) = number := by omega
        rw [natural?_toDigits, Option.map_some, magnitude]

theorem blank_not_mem_toString (number : Int) :
    ' ' ∉ (toString number).toList := by
  rw [toList_toString, List.mem_append, not_or]
  constructor
  · split <;> decide
  · intro member
    have digit := Nat.isDigit_of_mem_toDigits (by decide) (by decide) member
    exact absurd digit (by decide)

theorem length_ofString_toString (number : Int) :
    (Utf8.ofString (toString number)).length = width number := by
  have digits : ∀ character ∈ Nat.toDigits 10 number.natAbs,
      character.isDigit = true := fun _ =>
    Nat.isDigit_of_mem_toDigits (by decide) (by decide)
  rw [Utf8.ofString, toList_toString, Utf8.encode_append, List.length_append,
    Utf8.length_encode_of_isDigit digits, length_toDigits, width]
  split <;> rfl

/-- The smallest signed word has the most characters. -/
theorem width_toInt_le (number : Int32) : width number.toInt ≤ 11 := by
  have low := number.le_toInt
  have high := number.toInt_lt
  have few : Nat.log 10 number.toInt.natAbs < 10 := by
    refine Nat.log_lt_of_lt_pow' (by decide) ?_
    norm_num
    omega
  rw [width]
  split <;> omega

end Decimal

namespace Registration

open Decimal (width)

/-- Read the numbers of a registration. -/
def numbers? (text : String) : Option (Int × Int) :=
  match Separated.parts ' ' text.toList with
  | [first, second] =>
    (Decimal.integer? first).bind fun channel =>
      (Decimal.integer? second).map fun oomControl => (channel, oomControl)
  | _ => none

variable {channel oomControl : Int} {limit : Nat} {text : String}

theorem toList_text (channel oomControl : Int) :
    s!"{channel} {oomControl}".toList =
      (toString channel).toList ++ ' ' :: (toString oomControl).toList := by
  rw [show s!"{channel} {oomControl}" =
    toString channel ++ " " ++ toString oomControl from rfl,
    String.toList_append, String.toList_append, List.append_assoc]
  rfl

theorem length_text (channel oomControl : Int) :
    (Utf8.ofString s!"{channel} {oomControl}").length =
      width channel + 1 + width oomControl := by
  rw [show s!"{channel} {oomControl}" =
    toString channel ++ " " ++ toString oomControl from rfl,
    Utf8.ofString_append, Utf8.ofString_append, List.length_append,
    List.length_append, Decimal.length_ofString_toString,
    Decimal.length_ofString_toString]
  rfl

/-- Whether there is a registration depends on its length alone, and a refused
text is told with the limit. -/
theorem message_eq (channel oomControl : Int) (limit : Nat) :
    message channel oomControl limit =
      if width channel + 1 + width oomControl ≤ limit then
        .ok s!"{channel} {oomControl}"
      else .error (.messageTooLong s!"{channel} {oomControl}" limit) := by
  rw [message, length_text]
  split
  · next long => rw [if_neg (Nat.not_le.mpr long)]
  · next fits => rw [if_pos (Nat.le_of_not_lt fits)]

theorem message_eq_ok_iff :
    message channel oomControl limit = .ok text ↔
      width channel + 1 + width oomControl ≤ limit ∧
        text = s!"{channel} {oomControl}" := by
  rw [message_eq]
  split
  · next fits => simp [fits, eq_comm]
  · next long => simp [long]

theorem message_eq_error_iff {error : WatchError} :
    message channel oomControl limit = .error error ↔
      limit < width channel + 1 + width oomControl ∧
        error = .messageTooLong s!"{channel} {oomControl}" limit := by
  rw [message_eq]
  split
  · next fits => simp [Nat.not_lt.mpr fits]
  · next long => simp [Nat.not_le.mp long, eq_comm]

/-- The only blank stands between the numbers. -/
theorem parts_text (channel oomControl : Int) :
    Separated.parts ' ' s!"{channel} {oomControl}".toList =
      [(toString channel).toList, (toString oomControl).toList] := by
  rw [toList_text, Separated.parts_append,
    Separated.parts_of_not_mem (Decimal.blank_not_mem_toString channel),
    Separated.parts_of_not_mem (Decimal.blank_not_mem_toString oomControl)]
  rfl

theorem count_blank_text (channel oomControl : Int) :
    s!"{channel} {oomControl}".toList.count ' ' = 1 := by
  rw [toList_text, List.count_append, List.count_cons_self,
    List.count_eq_zero.mpr (Decimal.blank_not_mem_toString channel),
    List.count_eq_zero.mpr (Decimal.blank_not_mem_toString oomControl)]

theorem numbers?_text (channel oomControl : Int) :
    numbers? s!"{channel} {oomControl}" = some (channel, oomControl) := by
  rw [numbers?, parts_text]
  simp only [Decimal.integer?_toString, Option.bind_some, Option.map_some]

/-- Two signed words always fit. -/
theorem message_toInt (channel oomControl : Int32) :
    message channel.toInt oomControl.toInt capacity =
      .ok s!"{channel.toInt} {oomControl.toInt}" := by
  have first := Decimal.width_toInt_le channel
  have second := Decimal.width_toInt_le oomControl
  rw [message_eq, if_pos]
  rw [capacity]
  omega

/-- A text that was written is not refused for its length. -/
theorem judge_ne_messageTooLong {policy : RegistrationPolicy} {path : Path}
    {expected : Nat} {outcome : Except SystemError Nat} :
    (judge policy path expected outcome).1.map (fun _ => ()) ≠
      .error (.messageTooLong text limit) := by
  cases outcome with
  | error cause => cases policy <;> simp [judge, Except.map]
  | ok written =>
      rw [judge]
      split
      · simp [Except.map]
      · cases policy <;> simp [Except.map]

end Registration

namespace Watcher

open Decimal (width)
open Registration (message numbers?)

variable {watcher : Watcher} {env ready : Environment}
  {channel control oomControl : Descriptor}

theorem OpensControls.lt_tableLimit
    (controls : watcher.OpensControls env channel control oomControl ready) :
    oomControl < Host.tableLimit := by
  obtain ⟨_, _, _, opened, _⟩ := controls.opened
  rw [Environment.openPath] at opened
  split at opened
  · cases opened
  · next made =>
      cases opened
      obtain ⟨_, _, _, _, created⟩ := Host.openPath_ok made
      exact Host.lt_tableLimit_of_create created

/-- A subscription for a channel whose number is a signed word is not refused
for its text. -/
theorem subscribe_ne_messageTooLong
    (below : ∀ channel, watcher.handles.channel = some channel →
      channel < 2 ^ 31)
    (env : Environment) (text : String) (limit : Nat) :
    (watcher.subscribe env).1 ≠ .error (.messageTooLong text limit) := by
  have limited : Host.tableLimit < 2 ^ 31 := by decide
  have named {channel control oomControl : Descriptor} {ready : Environment}
      (controls :
        watcher.OpensControls env channel control oomControl ready) :=
    Registration.message_eq_ok (below channel controls.held)
      (controls.lt_tableLimit.trans limited)
  intro refused
  have subscribing := watcher.subscribing_subscribe env
  rw [refused] at subscribing
  generalize (watcher.subscribe env).2 = result at subscribing
  obtain ⟨next, after⟩ := result
  cases subscribing with
  | unwritten error controls unnamed =>
      cases unnamed.symm.trans (named controls)
  | rejected controls _ writes strict incomplete =>
      -- The text was written, and its fate is told by another error.
      rw [controls.result_eq (named controls)] at refused
      exact Registration.judge_ne_messageTooLong refused

/-- The text of a registration is told exactly if it is not too long, and a
refusal shows it with its limit.  It is one decimal number, a blank and the
other number, is read back as these two, and no other two have the same text.
Signed words always fit, and no subscription is ever refused for its text. -/
theorem registration_text (channel oomControl : Int) (limit : Nat) :
    ((∃ text, message channel oomControl limit = .ok text) ↔
        width channel + 1 + width oomControl ≤ limit) ∧
      (∀ error, message channel oomControl limit = .error error →
        error = .messageTooLong s!"{channel} {oomControl}" limit) ∧
      (∀ text, message channel oomControl limit = .ok text →
        text.toList = (toString channel).toList ++
            ' ' :: (toString oomControl).toList ∧
          text.toList.count ' ' = 1 ∧
          numbers? text = some (channel, oomControl) ∧
          ∀ first second other, message first second other = .ok text →
            first = channel ∧ second = oomControl) ∧
      (∀ first second : Int32,
        ∃ text, message first.toInt second.toInt Registration.capacity =
          .ok text) ∧
      ∀ watcher : Watcher,
        (∀ held, watcher.handles.channel = some held → held < 2 ^ 31) →
        ∀ env text most,
          (watcher.subscribe env).1 ≠ .error (.messageTooLong text most) := by
  refine ⟨?_, ?_, ?_, ?_, fun _ => subscribe_ne_messageTooLong⟩
  · simp [Registration.message_eq_ok_iff]
  · intro error refused
    exact (Registration.message_eq_error_iff.mp refused).2
  · intro text named
    obtain ⟨_, rfl⟩ := Registration.message_eq_ok_iff.mp named
    have read := Registration.numbers?_text channel oomControl
    refine ⟨Registration.toList_text channel oomControl,
      Registration.count_blank_text channel oomControl, read, ?_⟩
    intro first second other namedToo
    obtain ⟨_, same⟩ := Registration.message_eq_ok_iff.mp namedToo
    rw [same, Registration.numbers?_text] at read
    simpa using read
  · intro first second
    exact ⟨_, Registration.message_toInt first second⟩

/-- The lowest signed word has a sign and ten digits, and with another digit and
the blank the text has just one byte too many for twelve. -/
theorem registration_text_lowestSample :
    ∃ text, message (-2147483648) 7 13 = .ok text ∧
      text.toList.count ' ' = 1 ∧
      numbers? text = some (-2147483648, 7) ∧
      message (-2147483648) 7 12 = .error (.messageTooLong text 12) ∧
      Session.readySample.watcher.handles.channel = some 4 ∧
      (Session.readySample.watcher.subscribe Session.readySample.env).1 ≠
        .error (.messageTooLong text 12) := by
  obtain ⟨long, refused, told, _, subscribed⟩ :=
    registration_text (-2147483648) 7 13
  obtain ⟨text, named⟩ := long.mpr (by decide +kernel)
  obtain ⟨_, blanks, read, _⟩ := told text named
  obtain ⟨short, refusedShort, _⟩ := registration_text (-2147483648) 7 12
  have held : Session.readySample.watcher.handles.channel = some 4 := by
    decide +kernel
  refine ⟨text, named, blanks, read, ?_, held, ?_⟩
  · rcases briefly : message (-2147483648) 7 12 with error | other
    · obtain ⟨_, rfl⟩ := Registration.message_eq_ok_iff.mp named
      rw [refusedShort error briefly]
    · exact absurd (short.mp ⟨other, briefly⟩) (by decide +kernel)
  · refine subscribed _ (fun channel same => ?_) _ text 12
    cases held.symm.trans same
    decide

end Watcher

end MemoryWatch
