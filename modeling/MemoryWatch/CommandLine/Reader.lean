import MemoryWatch.CommandLine.Help
import MemoryWatch.CommandLine.Refusal
import MemoryWatch.Packages

/-!
# Reading a command line

Arguments are read from left to right.  An argument with two dashes is an
option by its long name, one with a single dash is a cluster of letters, and
anything else is the value of the option before it or the path of the cgroup.
After two dashes alone everything is a path.

A value that is an argument of its own is only looked at when the next option
or path settles it, and so is the path.  What is wrong with an argument in
itself is therefore found before what is wrong with a value before it, except
where the next argument is in order.
-/

namespace MemoryWatch

namespace CommandLine

/-- What has been read but not been looked at yet. -/
inductive Pending where
  | nothing
  | cgroup (path : Path)
  | valued (option : ValuedOption) (value : Option (List UInt8))
  deriving DecidableEq, Repr

/-- What has been read of a command line. -/
structure Reading where
  verbose : Bool := false
  lenient : Bool := false
  format : Option RecordFormat := none
  probeInterval : Option UInt64 := none
  cgroup : Option Path := none
  pending : Pending := .nothing
  /-- Whether two dashes alone were read. -/
  escaped : Bool := false
  deriving DecidableEq, Repr

/-- The parameter of a switch. -/
def ofSwitch (switch : Switch) : Parameter :=
  .option (.switch switch)

/-- The parameter of an option with a value. -/
def ofValued (option : ValuedOption) : Parameter :=
  .option (.valued option)

/-- The misuse of a parameter as a refusal. -/
def misused {α : Type} (error : UsageError) : Except Refusal α :=
  .error (.misuse error)

/-- Read the value of the format option. -/
def readFormat (value : List UInt8) : Except Refusal RecordFormat :=
  let text := Utf8.lossy value
  match (Utf8.decode? value).bind fun text =>
      RecordFormat.ofName? false (String.ofList text) with
  | some format => .ok format
  | none =>
    if value = [] then misused (.missingValue (ofValued .format))
    else misused (.unknownValue (ofValued .format) text)

/-- Read the value of the option for the probe interval. -/
def readInterval (value : List UInt8) : Except Refusal UInt64 :=
  match Utf8.decode? value with
  | none => misused .illFormedText
  | some text =>
    match Decimal.readWord text with
    | .ok milliseconds => .ok milliseconds
    | .error fault =>
      misused
        (.malformedValue (ofValued .probeInterval) (String.ofList text) fault)

/-- Give an option its value.  No option takes two. -/
def assign (reading : Reading) (value : List UInt8) :
    ValuedOption → Except Refusal Reading
  | .format =>
    if reading.format.isSome then misused (.repeated (ofValued .format))
    else
      match readFormat value with
      | .ok format => .ok { reading with format := some format }
      | .error refusal => .error refusal
  | .probeInterval =>
    if reading.probeInterval.isSome then
      misused (.repeated (ofValued .probeInterval))
    else
      match readInterval value with
      | .ok milliseconds =>
        .ok { reading with probeInterval := some milliseconds }
      | .error refusal => .error refusal

/-- Turn a switch on.  No switch is turned on twice. -/
def turnOn (reading : Reading) : Switch → Except Refusal Reading
  | .verbose =>
    if reading.verbose then misused (.repeated (ofSwitch .verbose))
    else .ok { reading with verbose := true }
  | .lenient =>
    if reading.lenient then misused (.repeated (ofSwitch .lenient))
    else .ok { reading with lenient := true }

/-- Look at what was read last. -/
def settle (reading : Reading) : Except Refusal Reading :=
  let settled := { reading with pending := .nothing }
  match reading.pending with
  | .nothing => .ok settled
  | .cgroup path =>
    if path.isEmpty then misused (.missingValue .cgroup)
    else .ok { settled with cgroup := some path }
  | .valued option none => misused (.missingValue (ofValued option))
  | .valued option (some value) => assign settled value option

/-- Settle what was read last and wait for the value of an option. -/
def expectValue (reading : Reading) (option : ValuedOption) :
    Except Refusal Reading :=
  match settle reading with
  | .error refusal => .error refusal
  | .ok settled => .ok { settled with pending := .valued option none }

/-- Settle what was read last and give an option its value. -/
def takeValue (reading : Reading) (option : ValuedOption)
    (value : List UInt8) : Except Refusal Reading :=
  match settle reading with
  | .error refusal => .error refusal
  | .ok settled => assign settled value option

/-- Settle what was read last and turn a switch on. -/
def takeSwitch (reading : Reading) (switch : Switch) :
    Except Refusal Reading :=
  match settle reading with
  | .error refusal => .error refusal
  | .ok settled => turnOn settled switch

/-- Settle what was read last and answer with a request for information. -/
def request (reading : Reading) (refusal : Refusal) :
    Except Refusal Reading :=
  match settle reading with
  | .error other => .error other
  | .ok _ => .error refusal

/-- Whether the path of the cgroup has been read. -/
def hasCgroup (reading : Reading) : Bool :=
  match reading.pending with
  | .cgroup _ => true
  | .nothing | .valued _ _ => reading.cgroup.isSome

/-- Read a path.  There is only one. -/
def readPath (reading : Reading) (argument : List UInt8) :
    Except Refusal Reading :=
  if hasCgroup reading then
    misused (.unexpectedArgument (Utf8.lossy argument))
  else
    match settle reading with
    | .error refusal => .error refusal
    | .ok settled => .ok { settled with pending := .cgroup ⟨argument⟩ }

/-- The byte of a dash. -/
def dash : UInt8 := 0x2D

/-- The byte of an equals sign. -/
def equals : UInt8 := 0x3D

/-- Split a long option into its name and the value after an equals sign. -/
def splitLong (argument : List UInt8) : List UInt8 × Option (List UInt8) :=
  (argument.takeWhile (· ≠ equals),
   match argument.dropWhile (· ≠ equals) with
   | [] => none
   | _ :: value => some value)

/-- Read an option by its long name, perhaps with a value. -/
def readLong (reading : Reading) (name : List UInt8)
    (value : Option (List UInt8)) : Except Refusal Reading :=
  let known :=
    (Utf8.decode? name).bind fun text =>
      CommandOption.ofLongName? (String.ofList text)
  match known, value with
  | none, _ => misused (.unexpectedArgument s!"--{Utf8.lossy name}")
  | some (.valued option), none => expectValue reading option
  | some (.valued option), some value => takeValue reading option value
  | some option, some value =>
    misused (.surplusValue (.option option) (Utf8.lossy value))
  | some (.switch switch), none => takeSwitch reading switch
  | some .help, none => request reading .helpRequested
  | some .version, none => request reading .versionRequested

/-- The characters at the beginning of a byte string, and the bytes from its
first ill-formed part on. -/
def splitText (bytes : List UInt8) : List Char × List UInt8 :=
  let text := ((Utf8.pieces bytes).takeWhile Option.isSome).filterMap id
  (text, bytes.drop (Utf8.encode text).length)

/-- The value that is attached to a letter.  It may stand after an equals
sign. -/
def attached (bytes : List UInt8) : List UInt8 :=
  match bytes with
  | [] => []
  | byte :: rest => if byte = equals then rest else bytes

/-- Read a cluster of letters.  What follows the letter of an option with a
value is that value. -/
def readLetters (illFormed : List UInt8) :
    List Char → Reading → Except Refusal Reading
  | [], reading =>
    if illFormed = [] then .ok reading
    else misused (.unexpectedArgument s!"-{Utf8.lossy illFormed}")
  | letter :: letters, reading =>
    match CommandOption.ofLetter? letter with
    | none =>
      misused (.unexpectedArgument (String.ofList ['-', letter]))
    | some (.switch switch) =>
      match takeSwitch reading switch with
      | .error refusal => .error refusal
      | .ok reading => readLetters illFormed letters reading
    | some .help => request reading .summaryRequested
    | some .version => request reading .versionRequested
    | some (.valued option) =>
      let rest := Utf8.encode letters ++ illFormed
      if rest = [] then expectValue reading option
      else takeValue reading option (attached rest)

/-- Read an argument that is no option. -/
def readPlain (reading : Reading) (argument : List UInt8) :
    Except Refusal Reading :=
  match reading.pending with
  | .valued option none =>
    .ok { reading with pending := .valued option (some argument) }
  | .nothing | .cgroup _ | .valued _ (some _) => readPath reading argument

/-- Read one argument. -/
def readArgument (reading : Reading) (argument : List UInt8) :
    Except Refusal Reading :=
  if reading.escaped then readPath reading argument
  else
    match argument with
    | [] => readPlain reading argument
    | first :: rest =>
      if first ≠ dash ∨ rest = [] then readPlain reading argument
      else if rest = [dash] then .ok { reading with escaped := true }
      else if rest.head? = some dash then
        let (name, value) := splitLong rest.tail
        readLong reading name value
      else
        let (letters, illFormed) := splitText rest
        readLetters illFormed letters reading

/-- The invocation at the end of a command line. -/
def conclude (reading : Reading) : Except Refusal Invocation :=
  match settle reading with
  | .error refusal => .error refusal
  | .ok settled =>
    match settled.cgroup with
    | none => misused .missingCgroup
    | some cgroup =>
      .ok
        { cgroup
          verbose := settled.verbose
          format := settled.format.getD .text
          probeInterval := settled.probeInterval
          lenient := settled.lenient }

/-- Read some arguments one after the other. -/
def readArguments (reading : Reading) :
    List Path → Except Refusal Reading
  | [] => .ok reading
  | argument :: rest =>
    match readArgument reading argument.bytes with
    | .error refusal => .error refusal
    | .ok reading => readArguments reading rest

/-- What there is to tell when a command line is not turned into an
invocation. -/
def notice (words : List Path) : Refusal → Notice
  | .misuse error => ⟨true, error.printed⟩
  | .summaryRequested => ⟨false, summaryText (calledName .stream words)⟩
  | .helpRequested => ⟨false, helpText (calledName .stream words)⟩
  | .versionRequested => ⟨false, versionText⟩

/-- Read a command line, the first word of which is the program's name. -/
def read (words : List Path) : Except Refusal Invocation :=
  match readArguments {} words.tail with
  | .error refusal => .error refusal
  | .ok reading => conclude reading

/-- Read a command line, and say what there is to tell about it. -/
def parse (words : List Path) : Except Notice Invocation :=
  (read words).mapError (notice words)

end CommandLine

end MemoryWatch
