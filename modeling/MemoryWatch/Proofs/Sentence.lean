import MemoryWatch.CommandLine.Reader
import MemoryWatch.Proofs.Encoding
import Mathlib.Data.List.TakeWhile

/-!
# Sentences on the command line

A command line says which cgroup to watch, that switches are on, and what the
values of options are.  Each of these can be worded in several ways, and after
two dashes alone every word is a path.  A sentence relates what is said to the
words for it.

The reader looks at a path or a value of its own only when it comes to the next
word, so where one saying ends it has not settled what it has read.  What it
finds once that is settled depends on the sayings alone: each adds its parameter
to what was found before, and is refused if the parameter was found already.
-/

namespace MemoryWatch

namespace CommandLine

/-- One thing that a command line says. -/
inductive Saying where
  | cgroup (path : Path)
  | switch (switch : Switch)
  | valued (option : ValuedOption) (value : List UInt8)
  deriving DecidableEq, Repr

/-- The parameter that is spoken of. -/
def Saying.parameter : Saying → Parameter
  | cgroup _ => .cgroup
  | switch given => ofSwitch given
  | valued option _ => ofValued option

/-- The word for an option by its long name. -/
def longWord (option : CommandOption) : List UInt8 :=
  dash :: dash :: Utf8.ofString option.longName

/-- The word for an option by its letter. -/
def letterWord (letter : Char) : List UInt8 :=
  dash :: Utf8.encode [letter]

/-- The ways to say one thing. -/
inductive Wording : Saying → List Path → Prop
  | path {path : Path} (plain : path.bytes.head? ≠ some dash) :
      Wording (.cgroup path) [path]
  | long (switch : Switch) :
      Wording (.switch switch) [⟨longWord (.switch switch)⟩]
  | letter {switch : Switch} {letter : Char}
      (short : (CommandOption.switch switch).letter? = some letter) :
      Wording (.switch switch) [⟨letterWord letter⟩]
  | apart (option : ValuedOption) {value : List UInt8}
      (plain : value.head? ≠ some dash) :
      Wording (.valued option value) [⟨longWord (.valued option)⟩, ⟨value⟩]
  | joined (option : ValuedOption) (value : List UInt8) :
      Wording (.valued option value)
        [⟨longWord (.valued option) ++ equals :: value⟩]
  | letterApart {option : ValuedOption} {letter : Char} {value : List UInt8}
      (short : (CommandOption.valued option).letter? = some letter)
      (plain : value.head? ≠ some dash) :
      Wording (.valued option value) [⟨letterWord letter⟩, ⟨value⟩]

/-- What a command line says, one thing after the other. -/
inductive Sentence : List Saying → List Path → Prop
  | nothing : Sentence [] []
  | escaped (paths : List Path) :
      Sentence (paths.map .cgroup) (⟨[dash, dash]⟩ :: paths)
  | next {saying : Saying} {sayings : List Saying} {words more : List Path}
      (wording : Wording saying words) (rest : Sentence sayings more) :
      Sentence (saying :: sayings) (words ++ more)

/-! ## What is found -/

/-- What a reading has found, wherever the reader stands. -/
def found (reading : Reading) : Reading :=
  { reading with pending := .nothing, escaped := false }

/-- Whether a parameter has been found. -/
def has (reading : Reading) : Parameter → Bool
  | .cgroup => reading.cgroup.isSome
  | .option (.switch .verbose) => reading.verbose
  | .option (.switch .lenient) => reading.lenient
  | .option (.valued .format) => reading.format.isSome
  | .option (.valued .probeInterval) => reading.probeInterval.isSome
  | .option .help | .option .version => false

/-- What a saying sets a parameter to. -/
inductive Choice where
  | cgroup (path : Path)
  | switch (switch : Switch)
  | format (format : RecordFormat)
  | probeInterval (milliseconds : UInt64)
  deriving DecidableEq

namespace Choice

/-- The parameter that is set. -/
def parameter : Choice → Parameter
  | cgroup _ => .cgroup
  | switch given => ofSwitch given
  | format _ => ofValued .format
  | probeInterval _ => ofValued .probeInterval

/-- What is found once the parameter is set. -/
def apply (reading : Reading) : Choice → Reading
  | cgroup path => { reading with cgroup := some path }
  | switch .verbose => { reading with verbose := true }
  | switch .lenient => { reading with lenient := true }
  | format given => { reading with format := some given }
  | probeInterval milliseconds =>
    { reading with probeInterval := some milliseconds }

end Choice

/-- What a saying chooses, if it makes sense by itself. -/
def Saying.choice? : Saying → Option Choice
  | cgroup path => if path.isEmpty then none else some (.cgroup path)
  | switch given => some (.switch given)
  | valued .format value => (readFormat value).toOption.map .format
  | valued .probeInterval value =>
    (readInterval value).toOption.map .probeInterval

/-- What is found after a saying.  Nothing is chosen twice. -/
def tell (reading : Reading) (saying : Saying) : Option Reading :=
  if has reading saying.parameter then none
  else saying.choice?.map (Choice.apply reading)

theorem found_of_turnOn (reading : Reading) (switch : Switch) :
    (turnOn reading switch).toOption.map found =
      tell (found reading) (.switch switch) := by
  cases switch with
  | verbose =>
      change _ = if reading.verbose then none else _
      rw [turnOn]
      split <;> rfl
  | lenient =>
      change _ = if reading.lenient then none else _
      rw [turnOn]
      split <;> rfl

theorem tell_cgroup (reading : Reading) (path : Path) :
    tell reading (.cgroup path) =
      if reading.cgroup.isSome then none
      else if path.isEmpty then none
      else some { reading with cgroup := some path } := by
  rw [tell, Saying.choice?]
  change (if reading.cgroup.isSome then none else _) = _
  split
  · rfl
  · split <;> rfl

theorem found_of_assign (reading : Reading) (option : ValuedOption)
    (value : List UInt8) :
    (assign reading value option).toOption.map found =
      tell (found reading) (.valued option value) := by
  cases option with
  | format =>
      change _ = if reading.format.isSome then none else _
      rw [assign, Saying.choice?]
      split
      · rfl
      · cases readFormat value <;> rfl
  | probeInterval =>
      change _ = if reading.probeInterval.isSome then none else _
      rw [assign, Saying.choice?]
      split
      · rfl
      · cases readInterval value <;> rfl

/-! ## What is refused -/

/-- A failure is a misuse, and a success leaves the reader where it stood. -/
structure IsPlain (reading : Reading) (outcome : Except Refusal Reading) :
    Prop where
  misused : ∀ refusal, outcome = .error refusal →
    ∃ error, refusal = .misuse error
  stays : ∀ next, outcome = .ok next →
    next.pending = reading.pending ∧ next.escaped = reading.escaped

namespace IsPlain

variable {reading next : Reading}

theorem refused (error : UsageError) :
    IsPlain reading (CommandLine.misused error) :=
  ⟨fun _ failed => ⟨error, (Except.error.inj failed).symm⟩,
    fun _ told => by cases told⟩

theorem failed {refusal : Refusal} (misuse : ∃ error, refusal = .misuse error) :
    IsPlain reading (.error refusal) := by
  obtain ⟨error, rfl⟩ := misuse
  exact refused error

theorem done (pending : next.pending = reading.pending)
    (mode : next.escaped = reading.escaped) : IsPlain reading (.ok next) :=
  ⟨nofun, fun _ told => Except.ok.inj told ▸ ⟨pending, mode⟩⟩

end IsPlain

theorem isPlain_turnOn (reading : Reading) (switch : Switch) :
    IsPlain reading (turnOn reading switch) := by
  cases switch with
  | verbose | lenient =>
      rw [turnOn]
      split
      · exact .refused _
      · exact .done rfl rfl

theorem misused_of_readFormat {value : List UInt8} {refusal : Refusal}
    (failed : readFormat value = .error refusal) :
    ∃ error, refusal = .misuse error := by
  rw [readFormat] at failed
  split at failed
  · cases failed
  · split at failed <;> exact ⟨_, (Except.error.inj failed).symm⟩

theorem misused_of_readInterval {value : List UInt8} {refusal : Refusal}
    (failed : readInterval value = .error refusal) :
    ∃ error, refusal = .misuse error := by
  rw [readInterval] at failed
  split at failed
  · exact ⟨_, (Except.error.inj failed).symm⟩
  · split at failed
    · cases failed
    · exact ⟨_, (Except.error.inj failed).symm⟩

theorem isPlain_assign (reading : Reading) (option : ValuedOption)
    (value : List UInt8) : IsPlain reading (assign reading value option) := by
  cases option with
  | format =>
      rw [assign]
      split
      · exact .refused _
      · split
        · exact .done rfl rfl
        · next failed => exact .failed (misused_of_readFormat failed)
  | probeInterval =>
      rw [assign]
      split
      · exact .refused _
      · split
        · exact .done rfl rfl
        · next failed => exact .failed (misused_of_readInterval failed)

theorem cgroup_assign {reading next : Reading} {option : ValuedOption}
    {value : List UInt8} (told : assign reading value option = .ok next) :
    next.cgroup = reading.cgroup := by
  cases option with
  | format | probeInterval =>
      rw [assign] at told
      split at told
      · cases told
      · split at told
        · cases told
          rfl
        · cases told

/-- Settling what was read last ends in a misuse, or with nothing pending. -/
theorem isPlain_settle (reading : Reading) :
    IsPlain { reading with pending := .nothing } (settle reading) := by
  rw [settle]
  dsimp only
  split
  · exact .done rfl rfl
  · split
    · exact .refused _
    · exact .done rfl rfl
  · exact .refused _
  · exact isPlain_assign _ _ _

theorem settle_of_nothing {reading : Reading}
    (settled : reading.pending = .nothing) : settle reading = .ok reading := by
  rw [settle, settled]
  dsimp only
  rw [← settled]

/-- What is found once the last word is settled. -/
theorem found_settle (reading : Reading) :
    (settle reading).toOption.map found =
      match reading.pending with
      | .nothing => some (found reading)
      | .cgroup path =>
        if path.isEmpty then none
        else some { found reading with cgroup := some path }
      | .valued _ none => none
      | .valued option (some value) =>
        tell (found reading) (.valued option value) := by
  rw [settle]
  cases reading.pending with
  | nothing => rfl
  | cgroup path =>
      dsimp only
      split <;> rfl
  | valued option value =>
      cases value with
      | none => rfl
      | some value => exact found_of_assign _ option value

theorem isSome_cgroup_settle {reading settled : Reading}
    (done : settle reading = .ok settled) :
    settled.cgroup.isSome = hasCgroup reading := by
  rw [settle] at done
  rw [hasCgroup]
  cases pending : reading.pending with
  | nothing =>
      rw [pending] at done
      cases done
      rfl
  | cgroup path =>
      rw [pending] at done
      dsimp only at done
      split at done
      · cases done
      · cases done
        rfl
  | valued option value =>
      rw [pending] at done
      cases value with
      | none => cases done
      | some value => rw [cgroup_assign done]

/-! ## Reading a sentence -/

/-- What reading some words has come to.  Either they were refused and nothing
is found, or the reader goes on, with no value missing, and finds what it finds
once the last word is settled. -/
inductive Stands (escaped : Bool) :
    Except Refusal Reading → Option Reading → Prop
  | refused (error : UsageError) : Stands escaped (misused error) none
  | reading {reading : Reading} {view : Option Reading}
      (mode : reading.escaped = escaped)
      (whole : ∀ option, reading.pending ≠ .valued option none)
      (finds : (settle reading).toOption.map found = view) :
      Stands escaped (.ok reading) view

namespace Stands

variable {reading settled : Reading} {escaped : Bool}

/-- An outcome that leaves nothing pending stands for what it has found. -/
theorem of_isPlain {outcome : Except Refusal Reading}
    (plain : IsPlain settled outcome) (nothing : settled.pending = .nothing) :
    Stands settled.escaped outcome (outcome.toOption.map found) := by
  cases outcome with
  | error refusal =>
      obtain ⟨error, rfl⟩ := plain.misused refusal rfl
      exact .refused error
  | ok next =>
      obtain ⟨pending, mode⟩ := plain.stays next rfl
      rw [nothing] at pending
      refine .reading mode (by simp [pending]) ?_
      rw [settle_of_nothing pending]

/-- If each settled reading goes on to what a saying makes of it, then so does
an unsettled one. -/
theorem of_settle {saying : Saying} {outcome : Except Refusal Reading}
    (proceed : Reading → Except Refusal Reading)
    (settles : outcome = (settle reading).bind proceed)
    (stands : ∀ settled, settle reading = .ok settled →
      Stands reading.escaped (proceed settled)
        (tell (found settled) saying)) :
    Stands reading.escaped outcome
      (((settle reading).toOption.map found).bind (tell · saying)) := by
  have plain := isPlain_settle reading
  rw [settles]
  cases done : settle reading with
  | error refusal =>
      obtain ⟨error, rfl⟩ := plain.misused refusal done
      exact .refused error
  | ok settled => exact stands settled done

theorem takeSwitch (reading : Reading) (switch : Switch) :
    Stands reading.escaped (takeSwitch reading switch)
      (((settle reading).toOption.map found).bind
        (tell · (.switch switch))) := by
  refine of_settle (turnOn · switch) ?_ ?_
  · rw [CommandLine.takeSwitch]
    cases settle reading <;> rfl
  · intro settled done
    obtain ⟨nothing, mode⟩ := (isPlain_settle reading).stays settled done
    rw [← found_of_turnOn]
    exact mode ▸ of_isPlain (isPlain_turnOn settled switch) nothing

theorem takeValue (reading : Reading) (option : ValuedOption)
    (value : List UInt8) :
    Stands reading.escaped (takeValue reading option value)
      (((settle reading).toOption.map found).bind
        (tell · (.valued option value))) := by
  refine of_settle (assign · value option) ?_ ?_
  · rw [CommandLine.takeValue]
    cases settle reading <;> rfl
  · intro settled done
    obtain ⟨nothing, mode⟩ := (isPlain_settle reading).stays settled done
    rw [← found_of_assign]
    exact mode ▸ of_isPlain (isPlain_assign settled option value) nothing

/-- A path of its own is looked at later, but a second one is refused at
once. -/
theorem readPath (reading : Reading) (path : Path) :
    Stands reading.escaped (readPath reading path.bytes)
      (((settle reading).toOption.map found).bind
        (tell · (.cgroup path))) := by
  rw [CommandLine.readPath]
  have plain := isPlain_settle reading
  have pathFound := @isSome_cgroup_settle reading
  cases done : settle reading with
  | error refusal =>
      obtain ⟨error, rfl⟩ := plain.misused refusal done
      split <;> exact .refused _
  | ok settled =>
      obtain ⟨nothing, mode⟩ := plain.stays settled done
      have same : tell (found settled) (.cgroup path) =
          if hasCgroup reading then none
          else if path.isEmpty then none
          else some { found settled with cgroup := some path } := by
        rw [← pathFound done]
        exact tell_cgroup (found settled) path
      dsimp only [Except.toOption, Option.map_some, Option.bind_some]
      rw [same]
      split
      · exact .refused _
      · refine .reading mode (by simp) ?_
        rw [found_settle]
        rfl

/-- What the words after some others come to. -/
theorem bind {later : Bool} {outcome : Except Refusal Reading}
    {view : Option Reading} {words : List Path}
    {further : Reading → Option Reading} (stands : Stands escaped outcome view)
    (goesOn : ∀ reading, Stands escaped (.ok reading) view →
      Stands later (readArguments reading words) (view.bind further)) :
    Stands later (outcome.bind (readArguments · words))
      (view.bind further) := by
  cases stands with
  | refused error => exact .refused error
  | reading mode whole finds => exact goesOn _ (.reading mode whole finds)

end Stands

theorem readArguments_cons (reading : Reading) (word : Path)
    (rest : List Path) :
    readArguments reading (word :: rest) =
      (readArgument reading word.bytes).bind (readArguments · rest) := by
  rw [readArguments]
  cases readArgument reading word.bytes <;> rfl

theorem readArguments_singleton (reading : Reading) (word : Path) :
    readArguments reading [word] = readArgument reading word.bytes := by
  rw [readArguments_cons]
  cases readArgument reading word.bytes <;> rfl

theorem readArguments_append (reading : Reading) (words more : List Path) :
    readArguments reading (words ++ more) =
      (readArguments reading words).bind (readArguments · more) := by
  induction words generalizing reading with
  | nil => rfl
  | cons word rest ih =>
      rw [List.cons_append, readArguments_cons, readArguments_cons]
      cases readArgument reading word.bytes with
      | error refusal => rfl
      | ok next => exact ih next

/-- After two dashes alone every word is a path. -/
theorem stands_escaped (paths : List Path) {reading : Reading}
    {view : Option Reading} (stands : Stands true (.ok reading) view) :
    Stands true (readArguments reading paths)
      (view.bind fun settled => (paths.map .cgroup).foldlM tell settled) := by
  induction paths generalizing reading view with
  | nil => simpa [readArguments] using stands
  | cons path rest ih =>
      cases stands with
      | reading mode whole finds =>
          subst finds
          have first := Stands.readPath reading path
          rw [mode] at first
          have escaped : readArgument reading path.bytes =
              readPath reading path.bytes := by
            rw [readArgument.eq_def, if_pos mode]
          rw [readArguments_cons, escaped]
          simp only [List.map_cons, List.foldlM_cons, Option.bind_eq_bind,
            ← Option.bind_assoc]
          exact first.bind fun next => ih

section Words

variable {reading : Reading}

theorem readArgument_of_plain (mode : reading.escaped = false)
    {argument : List UInt8} (plain : argument.head? ≠ some dash) :
    readArgument reading argument = readPlain reading argument := by
  rw [readArgument.eq_def, if_neg (by simp [mode])]
  cases argument with
  | nil => rfl
  | cons first rest =>
      have other : first ≠ dash := fun same => plain (congrArg some same)
      dsimp only
      rw [if_pos (Or.inl other)]

theorem readArgument_dashes (mode : reading.escaped = false)
    {rest : List UInt8} (named : rest ≠ []) :
    readArgument reading (dash :: dash :: rest) =
      readLong reading (splitLong rest).1 (splitLong rest).2 := by
  rw [readArgument.eq_def, if_neg (by simp [mode])]
  simp [named]

theorem equals_not_mem_longName (option : CommandOption) :
    equals ∉ Utf8.ofString option.longName := by
  cases option with
  | switch switch => cases switch <;> decide
  | valued option => cases option <;> decide
  | help | version => decide

theorem longName_ne_nil (option : CommandOption) :
    Utf8.ofString option.longName ≠ [] := by
  cases option with
  | switch switch => cases switch <;> decide
  | valued option => cases option <;> decide
  | help | version => decide

/-- The name of an option ends with its word, or before an equals sign. -/
theorem splitLong_longName (option : CommandOption) :
    splitLong (Utf8.ofString option.longName) =
        (Utf8.ofString option.longName, none) ∧
      ∀ value, splitLong (Utf8.ofString option.longName ++ equals :: value) =
        (Utf8.ofString option.longName, some value) := by
  have clean : ∀ byte ∈ Utf8.ofString option.longName,
      decide (byte ≠ equals) = true := by
    intro byte member
    exact decide_eq_true fun same =>
      equals_not_mem_longName option (same ▸ member)
  constructor
  · rw [splitLong, List.takeWhile_eq_self_iff.mpr clean,
      List.dropWhile_eq_nil_iff.mpr clean]
  · intro value
    rw [splitLong, List.takeWhile_append_of_pos clean,
      List.dropWhile_append_of_pos clean]
    simp

/-- An option is found again by its long name. -/
theorem ofLongName?_longName (option : CommandOption) :
    (Utf8.decode? (Utf8.ofString option.longName)).bind (fun text =>
      CommandOption.ofLongName? (String.ofList text)) = some option := by
  rw [Utf8.ofString, Utf8.decode?_encode, Option.bind_some,
    String.ofList_toList]
  cases option with
  | switch switch => cases switch <;> decide
  | valued option => cases option <;> decide
  | help | version => decide

theorem splitText_encode (text : List Char) :
    splitText (Utf8.encode text) = (text, []) := by
  have whole : ((Utf8.pieces (Utf8.encode text)).takeWhile
      Option.isSome).filterMap id = text := by
    rw [Utf8.pieces_encode, List.takeWhile_eq_self_iff.mpr (by simp)]
    simp
  rw [splitText, whole, List.drop_length]

theorem ofLetter?_letter? {option : CommandOption} {letter : Char}
    (short : option.letter? = some letter) :
    CommandOption.ofLetter? letter = some option := by
  rcases option with (_ | _) | (_ | _) | _ | _ <;> cases short
  all_goals decide

theorem readArgument_letterWord (mode : reading.escaped = false)
    {option : CommandOption} {letter : Char}
    (short : option.letter? = some letter) :
    readArgument reading (letterWord letter) =
      readLetters [] [letter] reading := by
  have one : ∃ byte, Utf8.encode [letter] = [byte] ∧ byte ≠ dash := by
    rcases option with (_ | _) | (_ | _) | _ | _ <;> cases short
    all_goals exact ⟨_, rfl, by decide⟩
  obtain ⟨byte, single, other⟩ := one
  have split := splitText_encode [letter]
  rw [single] at split
  rw [letterWord, single, readArgument.eq_def, if_neg (by simp [mode])]
  simp [other, split]

end Words

variable {reading : Reading}

/-- A switch that is read is turned on. -/
theorem readArgument_switch (mode : reading.escaped = false)
    (switch : Switch) :
    readArgument reading (longWord (.switch switch)) =
        takeSwitch reading switch ∧
      ∀ letter, (CommandOption.switch switch).letter? = some letter →
        readArgument reading (letterWord letter) =
          takeSwitch reading switch := by
  constructor
  · rw [longWord, readArgument_dashes mode (longName_ne_nil _),
      (splitLong_longName _).1, readLong.eq_def, ofLongName?_longName]
  · intro letter short
    rw [readArgument_letterWord mode short, readLetters,
      ofLetter?_letter? short]
    dsimp only
    cases takeSwitch reading switch with
    | error refusal => rfl
    | ok next => rfl

/-- The name of an option lets the reader expect its value. -/
theorem readArgument_expect (mode : reading.escaped = false)
    (option : ValuedOption) :
    readArgument reading (longWord (.valued option)) =
        expectValue reading option ∧
      ∀ letter, (CommandOption.valued option).letter? = some letter →
        readArgument reading (letterWord letter) =
          expectValue reading option := by
  constructor
  · rw [longWord, readArgument_dashes mode (longName_ne_nil _),
      (splitLong_longName _).1, readLong.eq_def, ofLongName?_longName]
  · intro letter short
    rw [readArgument_letterWord mode short, readLetters,
      ofLetter?_letter? short]
    rfl

/-- A value after an equals sign is taken at once. -/
theorem readArgument_joined (mode : reading.escaped = false)
    (option : ValuedOption) (value : List UInt8) :
    readArgument reading (longWord (.valued option) ++ equals :: value) =
      takeValue reading option value := by
  rw [longWord, List.cons_append, List.cons_append,
    readArgument_dashes mode (by simp), (splitLong_longName _).2 value,
    readLong.eq_def, ofLongName?_longName]

/-- A value that is a word of its own is taken later. -/
theorem stands_apart (mode : reading.escaped = false) (option : ValuedOption)
    {value : List UInt8} (plain : value.head? ≠ some dash) :
    Stands false
      ((expectValue reading option).bind (readArguments · [⟨value⟩]))
      (((settle reading).toOption.map found).bind
        (tell · (.valued option value))) := by
  rw [← mode]
  refine Stands.of_settle (fun settled =>
    .ok { settled with pending := .valued option (some value) }) ?_ ?_
  · rw [expectValue]
    cases done : settle reading with
    | error refusal => rfl
    | ok settled =>
        have told := ((isPlain_settle reading).stays settled done).2.trans mode
        have expecting := @readArgument_of_plain
          { settled with pending := .valued option none } told value plain
        dsimp only [Except.bind]
        rw [readArguments_singleton, expecting]
        rfl
  · intro settled done
    obtain ⟨nothing, told⟩ := (isPlain_settle reading).stays settled done
    refine .reading told (by simp) ?_
    rw [found_settle]
    rfl

/-- A saying adds to what is found, however it is worded. -/
theorem stands_wording {saying : Saying} {words : List Path}
    (wording : Wording saying words) {view : Option Reading}
    (stands : Stands false (.ok reading) view) :
    Stands false (readArguments reading words) (view.bind (tell · saying)) := by
  cases stands with
  | reading mode whole finds =>
      subst finds
      cases wording with
      | @path path plain =>
          rw [readArguments_singleton, readArgument_of_plain mode plain]
          have read : readPlain reading path.bytes =
              readPath reading path.bytes := by
            rw [readPlain]
            split
            · next option pending => exact absurd pending (whole option)
            · rfl
            · rfl
            · rfl
          rw [read, ← mode]
          exact .readPath reading path
      | long switch =>
          rw [readArguments_singleton, (readArgument_switch mode switch).1,
            ← mode]
          exact .takeSwitch reading switch
      | @letter switch letter short =>
          rw [readArguments_singleton,
            (readArgument_switch mode switch).2 letter short, ← mode]
          exact .takeSwitch reading switch
      | joined option value =>
          rw [readArguments_singleton, readArgument_joined mode option value,
            ← mode]
          exact .takeValue reading option value
      | apart option plain =>
          rw [readArguments_cons, (readArgument_expect mode option).1]
          exact stands_apart mode option plain
      | @letterApart option letter value short plain =>
          rw [readArguments_cons,
            (readArgument_expect mode option).2 letter short]
          exact stands_apart mode option plain

/-- A sentence is read as what it says, one thing after the other. -/
theorem stands_sentence {sayings : List Saying} {words : List Path}
    (sentence : Sentence sayings words) {reading : Reading}
    {view : Option Reading} (stands : Stands false (.ok reading) view) :
    ∃ escaped, Stands escaped (readArguments reading words)
      (view.bind fun settled => sayings.foldlM tell settled) := by
  induction sentence generalizing reading view with
  | nothing => exact ⟨false, by simpa [readArguments] using stands⟩
  | escaped paths =>
      cases stands with
      | reading mode whole finds =>
          refine ⟨true, ?_⟩
          have dashes : readArgument reading [dash, dash] =
              .ok { reading with escaped := true } := by
            rw [readArgument.eq_def, if_neg (by simp [mode])]
            simp
          rw [readArguments_cons, dashes]
          refine stands_escaped paths (.reading rfl whole ?_)
          rw [← finds, found_settle, found_settle]
          rfl
  | @next saying sayings words more wording rest ih =>
      have first := stands_wording wording stands
      rw [readArguments_append]
      simp only [List.foldlM_cons, Option.bind_eq_bind, ← Option.bind_assoc]
      generalize readArguments reading words = outcome at first ⊢
      generalize view.bind (tell · saying) = between at first ⊢
      cases first with
      | refused error => exact ⟨false, .refused error⟩
      | reading mode whole finds => exact ih (.reading mode whole finds)

end CommandLine

end MemoryWatch
