import MemoryWatch.Record
import MemoryWatch.Text.Decimal
import Mathlib.Tactic.SplitIfs

/-!
# Reading JSON objects

A reader for JSON objects whose members are texts and whole numbers.  It goes
through the characters one by one, gathers tokens, and then reads the members
of the object from them.  It accepts what JSON allows in such objects, except
that a pair of surrogates is refused.

The reader gets from a quoted text the text itself, and from the decimal digits
of a counter the counter.
-/

namespace MemoryWatch

namespace Decimal

/-- The number that is written with some digits.  No zero may stand before the
other digits. -/
def numeral? : List Char → Option UInt64
  | [] => none
  | '0' :: _ :: _ => none
  | digits => (readDigits 0 digits).toOption

theorem le_ofDigitChars (digits : List Char) (value : Nat) :
    value ≤ Nat.ofDigitChars 10 digits value := by
  induction digits generalizing value with
  | nil => simp
  | cons first rest ih =>
      rw [Nat.ofDigitChars_cons]
      exact Nat.le_trans (by omega) (ih _)

/-- Digits are read as the number that they stand for, if it fits. -/
theorem readDigits_eq {digits : List Char} {value : Nat}
    (isDigit : ∀ character ∈ digits, character.isDigit = true)
    (fits : Nat.ofDigitChars 10 digits value < wordCount) :
    readDigits value digits =
      .ok (UInt64.ofNat (Nat.ofDigitChars 10 digits value)) := by
  induction digits generalizing value with
  | nil => rfl
  | cons first rest ih =>
      have next : digit? first = some (first.toNat - '0'.toNat) :=
        if_pos (isDigit first (by simp))
      rw [Nat.ofDigitChars_cons, Nat.mul_comm 10 value] at fits ⊢
      have small := Nat.lt_of_le_of_lt (le_ofDigitChars rest _) fits
      rw [readDigits, next]
      dsimp only
      rw [if_neg (Nat.not_le.mpr small)]
      exact ih (fun character member => isDigit character (by simp [member]))
        fits

/-- Only zero is written with a zero in front. -/
theorem toDigits_of_zero {number : Nat} {rest : List Char}
    (shown : Nat.toDigits 10 number = '0' :: rest) : rest = [] := by
  induction number using Nat.strongRecOn generalizing rest with
  | ind number ih =>
      rw [Nat.toDigits_eq_if (by decide)] at shown
      split at shown
      · exact (List.cons.inj shown).2.symm
      · cases front : Nat.toDigits 10 (number / 10) with
        | nil => exact absurd front Nat.toDigits_ne_nil
        | cons first others =>
            rw [front, List.cons_append] at shown
            obtain ⟨rfl, rfl⟩ := List.cons.inj shown
            cases ih _ (by omega) front
            have zero := Nat.ofDigitChars_ten_toDigits (n := number / 10)
            rw [front] at zero
            have none : Nat.ofDigitChars 10 ['0'] 0 = 0 := rfl
            omega

/-- A counter is read back from its digits. -/
theorem numeral?_decimal (counter : UInt64) :
    numeral? (Record.decimal counter) = some counter := by
  have isDigit : ∀ character ∈ Record.decimal counter,
      character.isDigit = true := fun _ =>
    Nat.isDigit_of_mem_toDigits (by decide) (by decide)
  have number : Nat.ofDigitChars 10 (Record.decimal counter) 0 =
      counter.toNat := Nat.ofDigitChars_ten_toDigits
  have fits : Nat.ofDigitChars 10 (Record.decimal counter) 0 < wordCount := by
    rw [number]
    exact counter.toNat_lt_size
  have read := readDigits_eq isDigit fits
  rw [number, UInt64.ofNat_toNat] at read
  rw [numeral?.eq_def]
  split
  · next empty => exact absurd empty Nat.toDigits_ne_nil
  · next shown => cases toDigits_of_zero shown
  · rw [read]
    rfl

end Decimal

namespace Json

/-- The marks that hold an object together. -/
inductive Mark where
  | opening
  | closing
  | colon
  | comma
  deriving DecidableEq, Repr

/-- The value of a member. -/
inductive Value where
  | text (content : List Char)
  | number (value : UInt64)
  deriving DecidableEq, Repr

inductive Token where
  | mark (mark : Mark)
  | value (value : Value)
  deriving DecidableEq, Repr

/-- Where the reader stands between two characters. -/
inductive State where
  | between
  | number (digits : List Char)
  | text (content : List Char)
  /-- Behind the backslash of an escape. -/
  | escape (content : List Char)
  /-- Inside a code point that still owes some hexadecimal digits. -/
  | code (content : List Char) (owed value : Nat)
  deriving DecidableEq, Repr

/-- What an escape of one letter stands for. -/
def escaped? : Char → Option Char
  | '"' => some '"'
  | '\\' => some '\\'
  | '/' => some '/'
  | 'b' => some (Char.ofNat 0x08)
  | 'f' => some (Char.ofNat 0x0C)
  | 'n' => some '\n'
  | 'r' => some '\r'
  | 't' => some '\t'
  | _ => none

/-- Read the first character of a token, or one that separates tokens. -/
def begin (character : Char) : Option (List Token × State) :=
  if character = '\x7b' then some ([.mark .opening], .between)
  else if character = '\x7d' then some ([.mark .closing], .between)
  else if character = ':' then some ([.mark .colon], .between)
  else if character = ',' then some ([.mark .comma], .between)
  else if character = '"' then some ([], .text [])
  else if character.isDigit then some ([], .number [character])
  else if [' ', '\t', '\n', '\r'].contains character then some ([], .between)
  else none

/-- Read one character.  A character that is no digit ends a number and is then
read as the first of a token. -/
def step : State → Char → Option (List Token × State)
  | .between, character => begin character
  | .number digits, character =>
    if character.isDigit then some ([], .number (digits ++ [character]))
    else
      match Decimal.numeral? digits, begin character with
      | some value, some (tokens, next) =>
        some (.value (.number value) :: tokens, next)
      | _, _ => none
  | .text content, character =>
    if character = '"' then some ([.value (.text content)], .between)
    else if character = '\\' then some ([], .escape content)
    else if character.toNat < 0x20 then none
    else some ([], .text (content ++ [character]))
  | .escape content, character =>
    if character = 'u' then some ([], .code content 4 0)
    else (escaped? character).map fun meant => ([], .text (content ++ [meant]))
  | .code content owed value, character =>
    match Hexadecimal.digit? character with
    | none => none
    | some digit =>
      let value := 16 * value + digit
      if 1 < owed then some ([], .code content (owed - 1) value)
      else if Nat.isValidChar value then
        some ([], .text (content ++ [Char.ofNat value]))
      else none

/-- The tokens of the remaining characters. -/
def tokensFrom : State → List Char → Option (List Token)
  | .between, [] => some []
  | .number digits, [] =>
    (Decimal.numeral? digits).map fun value => [.value (.number value)]
  | _, [] => none
  | state, character :: rest =>
    match step state character with
    | none => none
    | some (tokens, next) => (tokensFrom next rest).map (tokens ++ ·)

/-- The members of an object behind its opening mark. -/
def members? : List Token → Option (List (List Char × Value))
  | [.value (.text name), .mark .colon, .value value, .mark .closing] =>
    some [(name, value)]
  | .value (.text name) :: .mark .colon :: .value value :: .mark .comma ::
      rest =>
    (members? rest).map ((name, value) :: ·)
  | _ => none

/-- Read an object. -/
def object? (text : List Char) : Option (List (List Char × Value)) :=
  match tokensFrom .between text with
  | some [.mark .opening, .mark .closing] => some []
  | some (.mark .opening :: tokens) => members? tokens
  | _ => none

theorem tokensFrom_cons {state next : State} {character : Char}
    {tokens : List Token} (rest : List Char)
    (read : step state character = some (tokens, next)) :
    tokensFrom state (character :: rest) =
      (tokensFrom next rest).map (tokens ++ ·) := by
  rw [tokensFrom.eq_def]
  simp only [read]

/-- A character inside a token. -/
theorem tokensFrom_go {state next : State} {character : Char}
    (rest : List Char) (read : step state character = some ([], next)) :
    tokensFrom state (character :: rest) = tokensFrom next rest := by
  rw [tokensFrom_cons rest read]
  simp

/-- A character that completes a token. -/
theorem tokensFrom_token (state : State) {next : State} {character : Char}
    {token : Token} (rest : List Char)
    (read : step state character = some ([token], next)) :
    tokensFrom state (character :: rest) =
      (tokensFrom next rest).map (token :: ·) :=
  tokensFrom_cons rest read

/-- A hexadecimal digit is read as its value. -/
theorem digit?_digitChar (value : Nat) (small : value < 16) :
    Hexadecimal.digit? (Nat.digitChar value) = some value := by
  revert value
  decide

/-- An escaped character is read as the character. -/
theorem tokensFrom_escape (content : List Char) (character : Char)
    (rest : List Char) :
    tokensFrom (.text content) (Record.escape character ++ rest) =
      tokensFrom (.text (content ++ [character])) rest := by
  have short {letter meant : Char} (unlike : letter ≠ 'u')
      (means : escaped? letter = some meant) :
      tokensFrom (.text content) ('\\' :: letter :: rest) =
        tokensFrom (.text (content ++ [meant])) rest := by
    rw [tokensFrom_go _ rfl, tokensFrom_go]
    rw [step, if_neg unlike, means]
    rfl
  rw [Record.escape]
  split_ifs with quote backslash backspace feed line carriage tab control
  · rw [quote]
    exact short (by decide) rfl
  · rw [backslash]
    exact short (by decide) rfl
  · rw [backspace]
    exact short (by decide) rfl
  · rw [feed]
    exact short (by decide) rfl
  · rw [line]
    exact short (by decide) rfl
  · rw [carriage]
    exact short (by decide) rfl
  · rw [tab]
    exact short (by decide) rfl
  · have high := digit?_digitChar (character.toNat / 16 % 16) (by omega)
    have low := digit?_digitChar (character.toNat % 16) (by omega)
    have number : 16 * (character.toNat / 16 % 16) + character.toNat % 16 =
        character.toNat := by omega
    have valid : Nat.isValidChar character.toNat := Or.inl (by omega)
    have coded : step (.code content 2 0)
        (Nat.digitChar (character.toNat / 16 % 16)) =
          some ([], .code content 1 (character.toNat / 16 % 16)) := by
      simp [step, high]
    have completed : step (.code content 1 (character.toNat / 16 % 16))
        (Nat.digitChar (character.toNat % 16)) =
          some ([], .text (content ++ [character])) := by
      simp only [step, low, number, valid, Char.ofNat_toNat]
      rfl
    calc
      tokensFrom (.text content) ('\\' :: 'u' :: '0' :: '0' ::
            Nat.digitChar (character.toNat / 16 % 16) ::
            Nat.digitChar (character.toNat % 16) :: rest) =
          tokensFrom (.code content 2 0)
            (Nat.digitChar (character.toNat / 16 % 16) ::
              Nat.digitChar (character.toNat % 16) :: rest) := by
        rw [tokensFrom_go _ rfl, tokensFrom_go _ rfl, tokensFrom_go _ rfl,
          tokensFrom_go _ rfl]
        rfl
      _ = tokensFrom (.code content 1 (character.toNat / 16 % 16))
            (Nat.digitChar (character.toNat % 16) :: rest) :=
        tokensFrom_go _ coded
      _ = tokensFrom (.text (content ++ [character])) rest :=
        tokensFrom_go _ completed
  · rw [List.singleton_append, tokensFrom_go]
    rw [step, if_neg quote, if_neg backslash, if_neg control]

theorem tokensFrom_text (content text rest : List Char) :
    tokensFrom (.text content) (text.flatMap Record.escape ++ '"' :: rest) =
      (tokensFrom .between rest).map
        (.value (.text (content ++ text)) :: ·) := by
  induction text generalizing content with
  | nil =>
      rw [List.append_nil]
      exact tokensFrom_token (.text content) rest rfl
  | cons first others ih =>
      rw [List.flatMap_cons, List.append_assoc, tokensFrom_escape, ih,
        List.append_assoc, List.singleton_append]

/-- A quoted text is one token. -/
theorem tokensFrom_quote (text rest : List Char) :
    tokensFrom .between (Record.quote text ++ rest) =
      (tokensFrom .between rest).map (.value (.text text) :: ·) := by
  rw [Record.quote, List.append_assoc, List.cons_append, List.singleton_append,
    tokensFrom_go _ rfl]
  exact tokensFrom_text [] text rest

theorem begin_of_isDigit {character : Char}
    (digit : character.isDigit = true) :
    begin character = some ([], .number [character]) := by
  have unlike (mark : Char) (other : mark.isDigit = false) :
      character ≠ mark := by
    rintro rfl
    rw [digit] at other
    cases other
  rw [begin, if_neg (unlike _ rfl), if_neg (unlike _ rfl),
    if_neg (unlike _ rfl), if_neg (unlike _ rfl), if_neg (unlike _ rfl),
    if_pos digit]

theorem tokensFrom_digits (digits more rest : List Char)
    (isDigit : ∀ character ∈ more, character.isDigit = true) :
    tokensFrom (.number digits) (more ++ rest) =
      tokensFrom (.number (digits ++ more)) rest := by
  induction more generalizing digits with
  | nil => simp
  | cons first others ih =>
      have read : step (.number digits) first =
          some ([], .number (digits ++ [first])) :=
        if_pos (isDigit first (by simp))
      rw [List.cons_append, tokensFrom_go _ read, ih _
        fun character member => isDigit character (by simp [member])]
      simp

/-- A character that is no digit ends a number. -/
theorem tokensFrom_number {digits : List Char} {value : UInt64} {next : Char}
    (read : Decimal.numeral? digits = some value)
    (other : next.isDigit = false) (rest : List Char) :
    tokensFrom (.number digits) (next :: rest) =
      (tokensFrom .between (next :: rest)).map
        (.value (.number value) :: ·) := by
  have ended : step (.number digits) next = (begin next).map fun begun =>
      (.value (.number value) :: begun.1, begun.2) := by
    rw [step, if_neg (by simp [other]), read]
    cases begin next <;> rfl
  cases begun : step .between next with
  | none =>
      rw [show begin next = none from begun] at ended
      rw [tokensFrom.eq_def, tokensFrom.eq_def (.between)]
      simp only [ended, begun]
      rfl
  | some tokens =>
      rw [show begin next = some tokens from begun] at ended
      rw [tokensFrom_cons rest ended, tokensFrom_cons rest begun,
        Option.map_map]
      rfl

/-- The digits of a counter are one token if no digit follows. -/
theorem tokensFrom_decimal (counter : UInt64) {next : Char}
    (other : next.isDigit = false) (rest : List Char) :
    tokensFrom .between (Record.decimal counter ++ next :: rest) =
      (tokensFrom .between (next :: rest)).map
        (.value (.number counter) :: ·) := by
  have isDigit : ∀ character ∈ Record.decimal counter,
      character.isDigit = true := fun _ =>
    Nat.isDigit_of_mem_toDigits (by decide) (by decide)
  have read := Decimal.numeral?_decimal counter
  cases shown : Record.decimal counter with
  | nil => exact absurd shown Nat.toDigits_ne_nil
  | cons first others =>
      rw [shown] at isDigit read
      have begun : step .between first = some ([], .number [first]) :=
        begin_of_isDigit (isDigit first (by simp))
      rw [List.cons_append, tokensFrom_go _ begun, tokensFrom_digits _ _ _
        fun character member => isDigit character (by simp [member])]
      exact tokensFrom_number read other rest

/-- A line with a JSON object is read as the object. -/
theorem object?_jsonLine (cgroup : List Char) (counter : UInt64) :
    object? (Record.jsonLine cgroup counter) =
      some [("event".toList, .text "oom".toList),
        ("cgroup".toList, .text cgroup),
        ("counter".toList, .number counter)] := by
  have mark (character : Char) (rest : List Char) {found : Mark}
      (read : begin character = some ([.mark found], .between)) :
      tokensFrom .between (character :: rest) =
        (tokensFrom .between rest).map (.mark found :: ·) :=
    tokensFrom_token .between rest read
  have shown : Record.jsonLine cgroup counter =
      '\x7b' :: (Record.quote "event".toList ++ ':' ::
        (Record.quote "oom".toList ++ ',' ::
          (Record.quote "cgroup".toList ++ ':' ::
            (Record.quote cgroup ++ ',' ::
              (Record.quote "counter".toList ++ ':' ::
                (Record.decimal counter ++ ['\x7d', '\n'])))))) := by
    have first : "\x7b\"event\":\"oom\",\"cgroup\":".toList =
        '\x7b' :: (Record.quote "event".toList ++ ':' ::
          (Record.quote "oom".toList ++ ',' ::
            (Record.quote "cgroup".toList ++ [':']))) := by
      decide +kernel
    have second : ",\"counter\":".toList =
        ',' :: (Record.quote "counter".toList ++ [':']) := by decide +kernel
    -- A rewrite would unfold the literals.
    refine (congr (congrArg (fun front middle => front ++ Record.quote cgroup ++
      middle ++ Record.decimal counter ++ ['\x7d', '\n']) first) second).trans
      ?_
    simp only [List.append_assoc, List.cons_append, List.nil_append]
  have ending : tokensFrom .between ['\x7d', '\n'] =
      some [.mark .closing] := rfl
  rw [object?, shown, mark _ _ rfl, tokensFrom_quote, mark _ _ rfl,
    tokensFrom_quote, mark _ _ rfl, tokensFrom_quote, mark _ _ rfl,
    tokensFrom_quote, mark _ _ rfl, tokensFrom_quote, mark _ _ rfl,
    tokensFrom_decimal counter (by decide), ending]
  rfl

end Json

end MemoryWatch
