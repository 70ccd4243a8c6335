import MemoryWatch.Proofs.Exit
import MemoryWatch.Proofs.Interval
import MemoryWatch.Proofs.Json
import MemoryWatch.Proofs.Sentence

/-!
# What a command line can express

The sayings of an invocation name its cgroup and whatever is not at its default.
A parser that understands sayings takes them one after the other.  In whatever
order and with whatever words they are said, it gives the invocation back:
different parameters do not get in each other's way.  A sentence that speaks of
one parameter twice is refused.  The path of an invocation is never empty,
whether its words made a sentence or not, so its settings can only be refused
for a probe interval of zero.

The reader of command lines is such a parser.
-/

namespace MemoryWatch

namespace CommandLine

/-! ## Values and what they are read as -/

theorem readFormat_name (format : RecordFormat) :
    readFormat (Utf8.ofString format.name) = .ok format := by
  have named : RecordFormat.ofName? false format.name = some format := by
    cases format <;> decide
  rw [readFormat, Utf8.ofString, Utf8.decode?_encode, Option.bind_some,
    String.ofList_toList, named]

/-- A number is read from its decimal digits. -/
theorem readInterval_decimal (milliseconds : UInt64) :
    readInterval (Utf8.encode (Record.decimal milliseconds)) =
      .ok milliseconds := by
  have isDigit : ∀ character ∈ Record.decimal milliseconds,
      character.isDigit = true := fun _ =>
    Nat.isDigit_of_mem_toDigits (by decide) (by decide)
  have number : Nat.ofDigitChars 10 (Record.decimal milliseconds) 0 =
      milliseconds.toNat := Nat.ofDigitChars_ten_toDigits
  have read := Decimal.readDigits_eq isDigit (by
    rw [number]
    exact milliseconds.toNat_lt_size)
  rw [number, UInt64.ofNat_toNat] at read
  have word : Decimal.readWord (Record.decimal milliseconds) =
      .ok milliseconds := by
    rw [Decimal.readWord.eq_def]
    split
    · next empty => exact absurd empty Nat.toDigits_ne_nil
    · next shown =>
        have plus := isDigit '+' (by simp [shown])
        simp at plus
    · next shown =>
        have plus := isDigit '+' (by simp [shown])
        simp at plus
    · exact read
  rw [readInterval, Utf8.decode?_encode]
  dsimp only
  rw [word]

/-- What is said to make a choice. -/
def Choice.saying : Choice → Saying
  | cgroup path => .cgroup path
  | switch given => .switch given
  | format given => .valued .format (Utf8.ofString given.name)
  | probeInterval milliseconds =>
    .valued .probeInterval (Utf8.encode (Record.decimal milliseconds))

/-- A choice is understood, unless it is of an empty path. -/
theorem choice?_saying {choice : Choice}
    (named : ∀ path, choice = .cgroup path → path.isEmpty = false) :
    choice.saying.choice? = some choice := by
  cases choice with
  | cgroup path =>
      rw [Choice.saying, Saying.choice?, if_neg (by simp [named path rfl])]
  | switch given => rfl
  | format given =>
      rw [Choice.saying, Saying.choice?, readFormat_name]
      rfl
  | probeInterval milliseconds =>
      rw [Choice.saying, Saying.choice?, readInterval_decimal]
      rfl

/-! ## The order of the sayings -/

theorem parameter_of_choice? {saying : Saying} {choice : Choice}
    (chosen : saying.choice? = some choice) :
    choice.parameter = saying.parameter := by
  cases saying with
  | cgroup path =>
      rw [Saying.choice?] at chosen
      split at chosen
      · cases chosen
      · cases chosen
        rfl
  | switch given =>
      cases chosen
      rfl
  | valued option value =>
      cases option with
      | format | probeInterval =>
          obtain ⟨_, _, rfl⟩ := Option.map_eq_some_iff.mp chosen
          rfl

/-- A choice concerns its own parameter and no other. -/
theorem has_apply (reading : Reading) (choice : Choice)
    (parameter : Parameter) :
    has (choice.apply reading) parameter =
      (has reading parameter || decide (parameter = choice.parameter)) := by
  rcases choice with path | (_ | _) | format | milliseconds <;>
    rcases parameter with _ | (_ | _) | (_ | _) | _ | _ <;>
    simp [Choice.apply, Choice.parameter, has, ofSwitch, ofValued]

theorem apply_comm (reading : Reading) {first second : Choice}
    (apart : first.parameter ≠ second.parameter) :
    second.apply (first.apply reading) =
      first.apply (second.apply reading) := by
  rcases first with path | (_ | _) | format | milliseconds <;>
    rcases second with other | (_ | _) | other | other <;>
    simp [Choice.parameter, ofSwitch, ofValued] at apart
  all_goals rfl

/-- What is found after some choices. -/
def choose (reading : Reading) (choices : List Choice) : Reading :=
  choices.foldl Choice.apply reading

/-- The order of choices of different parameters does not matter. -/
theorem choose_perm {choices others : List Choice}
    (same : choices.Perm others)
    (distinct : (choices.map Choice.parameter).Nodup) (reading : Reading) :
    choose reading choices = choose reading others := by
  refine same.foldl_eq' ?_ reading
  intro first firstIn second secondIn between
  by_cases equal : first = second
  · rw [equal]
  · refine apply_comm between fun clash => equal ?_
    exact List.inj_on_of_nodup_map distinct firstIn secondIn clash

/-- Choices of different parameters that are all new can be said one after the
other. -/
theorem foldlM_tell {choices : List Choice}
    (chosen : ∀ choice ∈ choices, choice.saying.choice? = some choice)
    (distinct : (choices.map Choice.parameter).Nodup) {reading : Reading}
    (new : ∀ choice ∈ choices, has reading choice.parameter = false) :
    (choices.map Choice.saying).foldlM tell reading =
      some (choose reading choices) := by
  induction choices generalizing reading with
  | nil => rfl
  | cons choice others ih =>
      obtain ⟨absent, apart⟩ := List.nodup_cons.mp distinct
      have first := chosen choice (by simp)
      have told : tell reading choice.saying = some (choice.apply reading) := by
        rw [tell, ← parameter_of_choice? first, new choice (by simp), first]
        rfl
      rw [List.map_cons, List.foldlM_cons, told]
      refine ih (fun other member => chosen other (by simp [member])) apart
        fun other member => ?_
      rw [has_apply, new other (by simp [member]), Bool.false_or,
        decide_eq_false_iff_not]
      intro clash
      exact absent (List.mem_map.mpr ⟨other, member, clash⟩)

/-- Sayings that make sense together speak of different parameters, none of
which was found before. -/
theorem distinct_of_foldlM_tell {sayings : List Saying}
    {reading last : Reading}
    (told : sayings.foldlM tell reading = some last) :
    (sayings.map Saying.parameter).Nodup ∧
      ∀ saying ∈ sayings, has reading saying.parameter = false := by
  induction sayings generalizing reading with
  | nil => simp
  | cons saying rest ih =>
      obtain ⟨next, first, later⟩ := Option.bind_eq_some_iff.mp told
      rw [tell] at first
      split at first
      · cases first
      · next new =>
          obtain ⟨choice, chosen, rfl⟩ := Option.map_eq_some_iff.mp first
          obtain ⟨distinct, absent⟩ := ih later
          simp only [has_apply, Bool.or_eq_false_iff,
            decide_eq_false_iff_not, parameter_of_choice? chosen] at absent
          refine ⟨?_, ?_⟩
          · rw [List.map_cons, List.nodup_cons]
            refine ⟨fun again => ?_, distinct⟩
            obtain ⟨other, member, clash⟩ := List.mem_map.mp again
            exact (absent other member).2 clash
          · intro other member
            rcases List.mem_cons.mp member with rfl | further
            · simpa using new
            · exact (absent other further).1

theorem has_empty (parameter : Parameter) : has {} parameter = false := by
  rcases parameter with _ | (_ | _) | (_ | _) | _ | _ <;> rfl

/-! ## The end of a sentence -/

/-- The invocation that was found, once there is a path. -/
def invocation? (reading : Reading) : Option Invocation :=
  reading.cgroup.map fun cgroup =>
    { cgroup
      verbose := reading.verbose
      format := reading.format.getD .text
      probeInterval := reading.probeInterval
      lenient := reading.lenient }

theorem conclude_of_stands {escaped : Bool}
    {outcome : Except Refusal Reading} {view : Option Reading}
    (stands : Stands escaped outcome view) :
    (∀ invocation, view.bind invocation? = some invocation →
        outcome.bind conclude = .ok invocation) ∧
      (view.bind invocation? = none →
        ∃ error, outcome.bind conclude = .error (.misuse error)) := by
  cases stands with
  | refused error => exact ⟨nofun, fun _ => ⟨error, rfl⟩⟩
  | @reading reading _ mode whole finds =>
      subst finds
      have plain := isPlain_settle reading
      change (∀ invocation, _ → conclude reading = .ok invocation) ∧
        (_ → ∃ error, conclude reading = .error (.misuse error))
      rw [conclude]
      cases done : settle reading with
      | error refusal =>
          obtain ⟨error, rfl⟩ := plain.misused refusal done
          exact ⟨nofun, fun _ => ⟨error, rfl⟩⟩
      | ok settled =>
          dsimp only [Except.toOption, Option.map_some, Option.bind_some]
          cases path : settled.cgroup with
          | none =>
              have missing : invocation? (found settled) = none := by
                rw [invocation?, found, path]
                rfl
              rw [missing]
              exact ⟨nofun, fun _ => ⟨_, rfl⟩⟩
          | some cgroup =>
              have given : invocation? (found settled) = some
                  { cgroup
                    verbose := settled.verbose
                    format := settled.format.getD .text
                    probeInterval := settled.probeInterval
                    lenient := settled.lenient } := by
                rw [invocation?, found, path]
                rfl
              rw [given]
              refine ⟨fun invocation same => ?_, nofun⟩
              exact congrArg Except.ok (Option.some.inj same)

/-- A sentence is read as the invocation that its sayings come to, or is
refused. -/
theorem read_of_sentence {sayings : List Saying} {words : List Path}
    (sentence : Sentence sayings words) (program : Path) :
    (∀ invocation,
        (sayings.foldlM tell {}).bind invocation? = some invocation →
          read (program :: words) = .ok invocation) ∧
      ((sayings.foldlM tell {}).bind invocation? = none →
        ∃ error, read (program :: words) = .error (.misuse error)) := by
  have begun : Stands false (.ok {}) (some {}) := .reading rfl (by simp) rfl
  obtain ⟨escaped, stands⟩ := stands_sentence sentence begun
  have whole : read (program :: words) =
      (readArguments {} words).bind conclude := by
    rw [read, List.tail_cons]
    cases readArguments {} words <;> rfl
  rw [whole]
  exact conclude_of_stands stands

/-! ## The choices of an invocation -/

/-- What an invocation chooses.  The usual format may be spared. -/
def choices (invocation : Invocation) (sparing : Bool) : List Choice :=
  (if invocation.verbose then [.switch .verbose] else []) ++
    (if sparing && invocation.format = .text then []
      else [.format invocation.format]) ++
    (invocation.probeInterval.map .probeInterval).toList ++
    (if invocation.lenient then [.switch .lenient] else []) ++
    [.cgroup invocation.cgroup]

/-- An invocation chooses nothing twice. -/
theorem distinct_choices (invocation : Invocation) (sparing : Bool) :
    ((choices invocation sparing).map Choice.parameter).Nodup := by
  have verbose : ((if invocation.verbose then [Choice.switch .verbose]
      else []).map Choice.parameter).Sublist [ofSwitch .verbose] := by
    split <;> simp [Choice.parameter]
  have format : ((if sparing && invocation.format = .text then []
      else [Choice.format invocation.format]).map
        Choice.parameter).Sublist [ofValued .format] := by
    split <;> simp [Choice.parameter]
  have interval : ((invocation.probeInterval.map
      Choice.probeInterval).toList.map Choice.parameter).Sublist
        [ofValued .probeInterval] := by
    cases invocation.probeInterval <;> simp [Choice.parameter]
  have lenient : ((if invocation.lenient then [Choice.switch .lenient]
      else []).map Choice.parameter).Sublist [ofSwitch .lenient] := by
    split <;> simp [Choice.parameter]
  have inTurn := (((verbose.append format).append interval).append
    lenient).append (List.Sublist.refl [Parameter.cgroup])
  simp only [choices, List.map_append]
  exact inTurn.nodup (by decide)

theorem cgroup_mem_choices_iff {invocation : Invocation} {sparing : Bool}
    {path : Path} :
    .cgroup path ∈ choices invocation sparing ↔ path = invocation.cgroup := by
  simp only [choices, List.mem_append, Option.mem_toList,
    Option.map_eq_some_iff]
  constructor
  · rintro ((((on | format) | ⟨_, _, other⟩) | on) | last)
    · split at on <;> simp at on
    · split at format <;> simp at format
    · cases other
    · split at on <;> simp at on
    · simpa using last
  · rintro rfl
    exact Or.inr (by simp)

/-- All its choices together come to the invocation. -/
theorem invocation?_choose (invocation : Invocation) (sparing : Bool) :
    invocation? (choose {} (choices invocation sparing)) =
      some invocation := by
  obtain ⟨cgroup, verbose, format, probeInterval, lenient⟩ := invocation
  rw [choices]
  dsimp only
  by_cases spared : (sparing && format = .text) = true
  · obtain ⟨_, rfl⟩ : sparing = true ∧ format = .text := by simpa using spared
    rw [if_pos spared]
    cases verbose <;> cases lenient <;> cases probeInterval <;> rfl
  · rw [if_neg spared]
    cases verbose <;> cases lenient <;> cases probeInterval <;> rfl

theorem choice?_of_perm {invocation : Invocation} {sparing : Bool}
    {order : List Choice} (named : invocation.cgroup.isEmpty = false)
    (same : order.Perm (choices invocation sparing)) :
    ∀ choice ∈ order, choice.saying.choice? = some choice := by
  intro choice member
  refine choice?_saying fun path given => ?_
  rw [given, same.mem_iff, cgroup_mem_choices_iff] at member
  rwa [member]

/-- A parser of command lines understands sayings if it takes them one after the
other, as each makes sense by itself and says something new. -/
structure Understands (parse : List Path → Except Notice Invocation) :
    Prop where
  /-- What makes sense together is accepted, once it names a path. -/
  accepts : ∀ (program : Path) (sayings : List Saying) (words : List Path)
    (reading : Reading) (invocation : Invocation), Sentence sayings words →
      sayings.foldlM tell {} = some reading →
        invocation? reading = some invocation →
          parse (program :: words) = .ok invocation
  /-- What does not make sense together is a fault. -/
  refuses : ∀ (program : Path) (sayings : List Saying) (words : List Path),
    Sentence sayings words → sayings.foldlM tell {} = none →
      ∃ text, parse (program :: words) = .error ⟨true, text⟩
  /-- A path was chosen by a saying, whatever the words. -/
  chosen : ∀ (words : List Path) (invocation : Invocation),
    parse words = .ok invocation →
      ∃ saying : Saying, saying.choice? = some (.cgroup invocation.cgroup)

namespace Understands

variable {parse : List Path → Except Notice Invocation}

/-- In any order and any words an invocation is parsed as it is. -/
theorem parse_of_perm (understands : Understands parse)
    {invocation : Invocation} {sparing : Bool} {order : List Choice}
    {words : List Path} (named : invocation.cgroup.isEmpty = false)
    (same : order.Perm (choices invocation sparing))
    (sentence : Sentence (order.map Choice.saying) words) (program : Path) :
    parse (program :: words) = .ok invocation := by
  have distinct := distinct_choices invocation sparing
  have ordered := (same.map Choice.parameter).nodup_iff.mpr distinct
  have unsettled : ∀ choice ∈ order, has {} choice.parameter = false :=
    fun choice _ => has_empty choice.parameter
  have told := foldlM_tell (choice?_of_perm named same) ordered unsettled
  refine understands.accepts program _ words _ invocation sentence told ?_
  rw [choose_perm same ordered, invocation?_choose]

/-- A sentence that speaks of a parameter twice is refused. -/
theorem parse_of_repeated (understands : Understands parse)
    {said : List Saying} {words : List Path} (sentence : Sentence said words)
    (repeated : ¬ (said.map Saying.parameter).Nodup) (program : Path) :
    ∃ text, parse (program :: words) = .error ⟨true, text⟩ := by
  refine understands.refuses program said words sentence ?_
  cases told : said.foldlM tell {} with
  | none => rfl
  | some last => exact absurd (distinct_of_foldlM_tell told).1 repeated

/-- No saying chooses an empty path. -/
theorem isEmpty_of_parse (understands : Understands parse)
    {words : List Path} {invocation : Invocation}
    (accepted : parse words = .ok invocation) :
    invocation.cgroup.isEmpty = false := by
  obtain ⟨saying, chosen⟩ := understands.chosen words invocation accepted
  cases saying with
  | cgroup path =>
      rw [Saying.choice?] at chosen
      split at chosen
      · cases chosen
      · next filled =>
          cases chosen
          simpa using filled
  | switch given => cases chosen
  | valued option value =>
      cases option with
      | format | probeInterval =>
          obtain ⟨_, _, other⟩ := Option.map_eq_some_iff.mp chosen
          cases other

end Understands

/-! ## Words for every order -/

theorem exists_wording {saying : Saying}
    (plain : ∀ path, saying = .cgroup path →
      path.bytes.head? ≠ some dash) : ∃ words, Wording saying words := by
  cases saying with
  | cgroup path => exact ⟨_, .path (plain path rfl)⟩
  | switch given => exact ⟨_, .long given⟩
  | valued option value => exact ⟨_, .joined option value⟩

/-- Only a path that begins with a dash has to wait for the two dashes. -/
theorem exists_sentence {said : List Saying} {paths : List Path}
    (plain : ∀ path, .cgroup path ∈ said → path.bytes.head? ≠ some dash) :
    ∃ words, Sentence (said ++ paths.map .cgroup) words := by
  induction said with
  | nil => exact ⟨_, .escaped paths⟩
  | cons saying rest ih =>
      obtain ⟨words, wording⟩ := @exists_wording saying fun path given =>
        plain path (by simp [given])
      obtain ⟨more, sentence⟩ := ih fun path member =>
        plain path (by simp [member])
      exact ⟨_, .next wording sentence⟩

/-- The choices of an invocation can be said in every order, if its path can
stand anywhere or is said last. -/
theorem exists_sentence_of_perm {invocation : Invocation} {sparing : Bool}
    {order : List Choice} (same : order.Perm (choices invocation sparing))
    (placed : invocation.cgroup.bytes.head? ≠ some dash ∨
      order.getLast? = some (.cgroup invocation.cgroup)) :
    ∃ words, Sentence (order.map Choice.saying) words := by
  have path_eq : ∀ choice ∈ order, ∀ path, choice.saying = .cgroup path →
      choice = .cgroup invocation.cgroup ∧ path = invocation.cgroup := by
    intro choice member path said
    cases choice with
    | cgroup other =>
        have given := cgroup_mem_choices_iff.mp (same.mem_iff.mp member)
        cases said
        exact ⟨by rw [given], given⟩
    | switch given | format given | probeInterval given => cases said
  rcases placed with plain | last
  · obtain ⟨words, sentence⟩ :=
      @exists_sentence (order.map Choice.saying) [] fun path member => by
        obtain ⟨choice, chosen, said⟩ := List.mem_map.mp member
        rw [(path_eq choice chosen path said).2]
        exact plain
    exact ⟨words, by simpa using sentence⟩
  · -- What stands before the path speaks of other parameters.
    obtain ⟨front, rfl⟩ := List.getLast?_eq_some_iff.mp last
    have distinct := (same.map Choice.parameter).nodup_iff.mpr
      (distinct_choices invocation sparing)
    rw [List.map_append] at distinct ⊢
    refine @exists_sentence _ [invocation.cgroup] fun path member => ?_
    obtain ⟨choice, chosen, said⟩ := List.mem_map.mp member
    have given := (path_eq choice (by simp [chosen]) path said).1
    have apart := List.disjoint_of_nodup_append distinct
      (List.mem_map.mpr ⟨choice, chosen, rfl⟩)
    exact absurd (by simp [given]) apart

/-! ## The reader -/

/-- The path that was found, if there is one, is not empty. -/
def Names (outcome : Except Refusal Reading) : Prop :=
  ∀ next, outcome = .ok next → ∀ path, next.cgroup = some path →
    path.isEmpty = false

namespace Names

variable {reading : Reading}

theorem error (refusal : Refusal) : Names (.error refusal) := by
  intro next went
  cases went

theorem settle (names : Names (.ok reading)) :
    Names (settle reading) := by
  intro settled done path found
  rw [CommandLine.settle] at done
  dsimp only at done
  split at done
  · cases done
    exact names reading rfl path found
  · split at done
    · cases done
    · next filled =>
        cases done
        cases found
        simpa using filled
  · cases done
  · rw [cgroup_assign done] at found
    exact names reading rfl path found

/-- What settles the last word first, and leaves the path alone then. -/
theorem of_settle (names : Names (.ok reading))
    {outcome : Except Refusal Reading}
    (proceed : Reading → Except Refusal Reading)
    (settles : outcome = (CommandLine.settle reading).bind proceed)
    (keeps : ∀ settled next, proceed settled = .ok next →
      next.cgroup = settled.cgroup) : Names outcome := by
  have settling := names.settle
  rw [settles]
  cases done : CommandLine.settle reading with
  | error refusal => exact error refusal
  | ok settled =>
      intro next went path found
      rw [keeps settled next went] at found
      exact settling settled done path found

theorem expectValue (names : Names (.ok reading)) (option : ValuedOption) :
    Names (expectValue reading option) := by
  refine names.of_settle
    (fun settled => .ok { settled with pending := .valued option none }) ?_ ?_
  · rw [CommandLine.expectValue]
    cases CommandLine.settle reading <;> rfl
  · intro settled next went
    cases went
    rfl

theorem takeValue (names : Names (.ok reading)) (option : ValuedOption)
    (value : List UInt8) : Names (takeValue reading option value) := by
  refine names.of_settle (assign · value option) ?_
    fun settled next => cgroup_assign
  rw [CommandLine.takeValue]
  cases CommandLine.settle reading <;> rfl

theorem takeSwitch (names : Names (.ok reading)) (switch : Switch) :
    Names (takeSwitch reading switch) := by
  refine names.of_settle (turnOn · switch) ?_ fun settled next went => ?_
  · rw [CommandLine.takeSwitch]
    cases CommandLine.settle reading <;> rfl
  · cases switch with
    | verbose | lenient =>
        rw [turnOn] at went
        split at went <;> cases went
        rfl

/-- A request for information is never granted. -/
theorem request (reading : Reading) (refusal : Refusal) :
    Names (request reading refusal) := by
  rw [CommandLine.request]
  cases CommandLine.settle reading <;> exact error _

theorem readPath (names : Names (.ok reading)) (argument : List UInt8) :
    Names (readPath reading argument) := by
  rw [CommandLine.readPath]
  split
  · exact error _
  · refine names.of_settle
      (fun settled => .ok { settled with pending := .cgroup ⟨argument⟩ }) ?_ ?_
    · cases CommandLine.settle reading <;> rfl
    · intro settled next went
      cases went
      rfl

theorem readPlain (names : Names (.ok reading)) (argument : List UInt8) :
    Names (readPlain reading argument) := by
  rw [CommandLine.readPlain]
  split
  · intro next went
    cases went
    exact names reading rfl
  · exact names.readPath argument
  · exact names.readPath argument
  · exact names.readPath argument

theorem readLong (names : Names (.ok reading)) (name : List UInt8)
    (value : Option (List UInt8)) : Names (readLong reading name value) := by
  rw [CommandLine.readLong.eq_def]
  dsimp only
  split
  · exact error _
  · exact names.expectValue _
  · exact names.takeValue _ _
  · exact error _
  · exact names.takeSwitch _
  · exact request _ _
  · exact request _ _

theorem readLetters (illFormed : List UInt8) (letters : List Char)
    (names : Names (.ok reading)) :
    Names (readLetters illFormed letters reading) := by
  induction letters generalizing reading with
  | nil =>
      rw [CommandLine.readLetters]
      split
      · exact names
      · exact error _
  | cons letter letters ih =>
      rw [CommandLine.readLetters]
      split
      · exact error _
      · next switch _ =>
          have taken := names.takeSwitch switch
          cases done : CommandLine.takeSwitch reading switch with
          | error refusal => exact error refusal
          | ok next =>
              rw [done] at taken
              exact ih taken
      · exact request _ _
      · exact request _ _
      · dsimp only
        split
        · exact names.expectValue _
        · exact names.takeValue _ _

theorem readArgument (names : Names (.ok reading)) (argument : List UInt8) :
    Names (readArgument reading argument) := by
  rw [CommandLine.readArgument.eq_def]
  split
  · exact names.readPath argument
  · split
    · exact names.readPlain _
    · split
      · exact names.readPlain _
      · split
        · intro next went
          cases went
          exact names reading rfl
        · split
          · exact names.readLong _ _
          · exact names.readLetters _ _

theorem readArguments (names : Names (.ok reading)) (words : List Path) :
    Names (readArguments reading words) := by
  induction words generalizing reading with
  | nil => exact names
  | cons word rest ih =>
      have first := names.readArgument word.bytes
      rw [readArguments_cons]
      cases done : CommandLine.readArgument reading word.bytes with
      | error refusal => exact error refusal
      | ok next =>
          rw [done] at first
          exact ih first

end Names

/-- No command line is read as an invocation with an empty path. -/
theorem isEmpty_of_read {words : List Path} {invocation : Invocation}
    (accepted : read words = .ok invocation) :
    invocation.cgroup.isEmpty = false := by
  have begun : Names (.ok {}) := by
    rintro _ ⟨⟩ path found
    cases found
  have names := begun.readArguments words.tail
  rw [read] at accepted
  cases done : readArguments {} words.tail with
  | error refusal =>
      rw [done] at accepted
      cases accepted
  | ok reading =>
      rw [done] at accepted names
      have settling := names.settle
      simp only [conclude] at accepted
      cases settled : settle reading with
      | error refusal =>
          rw [settled] at accepted
          cases accepted
      | ok last =>
          rw [settled] at accepted
          dsimp only at accepted
          split at accepted
          · cases accepted
          · next path found =>
              cases accepted
              exact settling last settled path found

/-- The reader takes the sayings of a sentence one after the other. -/
theorem understands_parse : Understands parse where
  accepts program sayings words reading invocation sentence told whole := by
    have read := (read_of_sentence sentence program).1 invocation (by
      rw [told, Option.bind_some, whole])
    rw [parse, read]
    rfl
  refuses program sayings words sentence mistaken := by
    obtain ⟨error, read⟩ := (read_of_sentence sentence program).2 (by
      rw [mistaken, Option.bind_none])
    rw [parse, read]
    exact ⟨_, rfl⟩
  chosen words invocation accepted := by
    rw [parse] at accepted
    cases done : read words with
    | error refusal =>
        rw [done] at accepted
        cases accepted
    | ok other =>
        rw [done] at accepted
        cases accepted
        refine ⟨.cgroup invocation.cgroup, ?_⟩
        rw [Saying.choice?, isEmpty_of_read done]
        rfl

/-! ## The settings of an invocation -/

theorem exists_settings_iff {invocation : Invocation}
    (named : invocation.cgroup.isEmpty = false) :
    (∃ settings, invocation.settings = .ok settings) ↔
      invocation.probeInterval ≠ some 0 := by
  have usable : (∃ settings, invocation.settings = .ok settings) ↔
      invocation.request.validate = .ok () := by
    rw [Invocation.settings]
    cases invocation.request.validate <;> simp
  rw [usable, Settings.validate_eq_ok_iff]
  constructor
  · rintro ⟨_, positive⟩ zero
    have told : invocation.request.probeInterval = some ⟨0⟩ := by
      rw [Invocation.request, zero]
      rfl
    exact Nat.lt_irrefl 0 (positive ⟨0⟩ told)
  · intro other
    refine ⟨named, fun interval told => ?_⟩
    obtain ⟨milliseconds, given, rfl⟩ := Option.map_eq_some_iff.mp told
    have positive : 0 < milliseconds.toNat := by
      refine Nat.pos_of_ne_zero fun zero => other ?_
      rw [given, UInt64.toNat_inj.mp (zero.trans UInt64.toNat_zero.symm)]
    exact Nat.mul_pos positive (by decide)

theorem settings_ne_emptyCgroup {invocation : Invocation}
    (named : invocation.cgroup.isEmpty = false) :
    invocation.settings ≠ .error (.misuse .emptyCgroup) := by
  have filled : ¬ invocation.request.cgroup.isEmpty = true := by
    rw [show invocation.request.cgroup = invocation.cgroup from rfl, named]
    decide
  rw [Invocation.settings, Settings.validate, if_neg filled]
  split
  · next refused =>
      split at refused
      · cases refused
        simp
      · cases refused
  · simp

/-- A command line can express every invocation with a path, in every order.
Whatever the order and the words, a parser that understands sayings gives the
invocation back.  Its settings are what it says, and they are refused only for a
probe interval of zero.  Whoever speaks of a parameter twice is refused, and no
path that was accepted is empty. -/
theorem expresses_every_invocation
    {parse : List Path → Except Notice Invocation}
    (understands : Understands parse) :
    (∀ (invocation : Invocation) (sparing : Bool) (order : List Choice),
      order.Perm (choices invocation sparing) →
        invocation.cgroup.bytes.head? ≠ some dash ∨
            order.getLast? = some (.cgroup invocation.cgroup) →
          ∃ words, Sentence (order.map Choice.saying) words) ∧
      (∀ (invocation : Invocation) (sparing : Bool) (order : List Choice)
        (words : List Path) (program : Path),
        invocation.cgroup.isEmpty = false →
          order.Perm (choices invocation sparing) →
            Sentence (order.map Choice.saying) words →
              parse (program :: words) = .ok invocation) ∧
      (∀ invocation : Invocation, invocation.cgroup.isEmpty = false →
        ((∃ settings, invocation.settings = .ok settings) ↔
          invocation.probeInterval ≠ some 0)) ∧
      (∀ (invocation : Invocation) (settings : Settings),
        invocation.settings = .ok settings →
          settings.cgroup = invocation.cgroup ∧
            settings.format = invocation.format ∧
            settings.probeInterval = invocation.probeInterval.map
              (fun milliseconds =>
                Duration.ofMilliseconds milliseconds.toNat) ∧
            (settings.registration = .lenient ↔ invocation.lenient = true)) ∧
      (∀ (said : List Saying) (words : List Path) (program : Path),
        Sentence said words → ¬ (said.map Saying.parameter).Nodup →
          ∃ text, parse (program :: words) = .error ⟨true, text⟩) ∧
      ∀ (words : List Path) (invocation : Invocation),
        parse words = .ok invocation →
          invocation.settings ≠ .error (.misuse .emptyCgroup) := by
  refine ⟨?_, ?_, ?_, ?_, ?_, ?_⟩
  · intro invocation sparing order
    exact exists_sentence_of_perm
  · intro invocation sparing order words program named same sentence
    exact understands.parse_of_perm named same sentence program
  · intro invocation
    exact exists_settings_iff
  · intro invocation settings usable
    obtain rfl := Program.settings_eq_ok usable
    refine ⟨rfl, rfl, rfl, ?_⟩
    rw [Invocation.request]
    cases invocation.lenient <;> simp
  · intro said words program sentence repeated
    exact understands.parse_of_repeated sentence repeated program
  · intro words invocation accepted
    exact settings_ne_emptyCgroup (understands.isEmpty_of_parse accepted)

/-- The path begins with a dash. -/
def dashedSample : Invocation where
  cgroup := ⟨Utf8.ofString "-v"⟩
  verbose := true
  format := .json
  probeInterval := some 18446744073709551615
  lenient := true

/-- Its choices, in another order. -/
def dashedOrder : List Choice :=
  [.probeInterval 18446744073709551615, .switch .lenient, .format .json,
    .switch .verbose, .cgroup dashedSample.cgroup]

def dashedWords : List Path :=
  ["--probe-interval-ms=18446744073709551615", "--lenient-registration", "-f",
    "json", "-v", "--", "-v"].map fun word => ⟨Utf8.ofString word⟩

theorem expresses_every_invocation_dashedSample :
    Understands parse ∧ dashedSample.cgroup.isEmpty = false ∧
      dashedOrder.Perm (choices dashedSample true) ∧
      Sentence (dashedOrder.map Choice.saying) dashedWords ∧
      parse (⟨Utf8.ofString "oomwatch"⟩ :: dashedWords) = .ok dashedSample ∧
      (∃ settings, dashedSample.settings = .ok settings) ∧
      ∃ text, parse (⟨Utf8.ofString "oomwatch"⟩ ::
        ⟨Utf8.ofString "--verbose"⟩ :: dashedWords) =
          .error ⟨true, text⟩ := by
  have same : dashedOrder.Perm (choices dashedSample true) := by
    decide +kernel
  have sentence : Sentence (dashedOrder.map Choice.saying) dashedWords := by
    have spelled : dashedWords =
        [⟨longWord (.valued .probeInterval) ++ equals ::
          Utf8.encode (Record.decimal 18446744073709551615)⟩] ++
        ([⟨longWord (.switch .lenient)⟩] ++
        ([⟨letterWord 'f'⟩, ⟨Utf8.ofString "json"⟩] ++
        ([⟨letterWord 'v'⟩] ++
        (⟨[dash, dash]⟩ :: [dashedSample.cgroup])))) := by decide +kernel
    rw [spelled]
    exact .next (.joined _ _) (.next (.long _) (.next
      (.letterApart rfl (by decide)) (.next (.letter rfl)
        (.escaped [dashedSample.cgroup]))))
  obtain ⟨_, reads, usable, _, refuses, _⟩ :=
    expresses_every_invocation understands_parse
  refine ⟨understands_parse, rfl, same, sentence, reads _ true _ _ _ rfl same sentence,
    (usable _ rfl).mpr (by decide), ?_⟩
  exact refuses (.switch .verbose :: dashedOrder.map Choice.saying) _ _
    (.next (.long .verbose) sentence) (by decide +kernel)

end CommandLine

end MemoryWatch
