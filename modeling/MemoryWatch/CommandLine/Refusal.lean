import MemoryWatch.Text.Decimal
import MemoryWatch.Text.Plain

/-!
# Refused command lines

A command line is not turned into an invocation when it misuses a parameter,
or when it asks for help or for the version instead.  `UsageError.message` is
the only place that words a misuse.
-/

namespace MemoryWatch

/-- An option without a value that is on or off. -/
inductive Switch where
  | verbose
  | lenient
  deriving DecidableEq, Repr

/-- An option with a value. -/
inductive ValuedOption where
  | format
  | probeInterval
  deriving DecidableEq, Repr

/-- An option. -/
inductive CommandOption where
  | switch (switch : Switch)
  | valued (option : ValuedOption)
  | help
  | version
  deriving DecidableEq, Repr

namespace CommandOption

/-- The options of the program. -/
def all : List CommandOption :=
  [.switch .verbose, .valued .format, .valued .probeInterval,
   .switch .lenient, .help, .version]

/-- The long name of an option, without its dashes. -/
def longName : CommandOption → String
  | .switch .verbose => "verbose"
  | .switch .lenient => "lenient-registration"
  | .valued .format => "format"
  | .valued .probeInterval => "probe-interval-ms"
  | .help => "help"
  | .version => "version"

/-- The letter of an option that has one. -/
def letter? : CommandOption → Option Char
  | .switch .verbose => some 'v'
  | .switch .lenient => none
  | .valued .format => some 'f'
  | .valued .probeInterval => none
  | .help => some 'h'
  | .version => some 'V'

/-- The name for the value of an option that has one. -/
def valueName? : CommandOption → Option String
  | .valued .format => some "FORMAT"
  | .valued .probeInterval => some "MS"
  | .switch _ | .help | .version => none

/-- The option with a long name. -/
def ofLongName? (name : String) : Option CommandOption :=
  all.find? fun option => option.longName = name

/-- The option with a letter. -/
def ofLetter? (letter : Char) : Option CommandOption :=
  all.find? fun option => option.letter? = some letter

end CommandOption

/-- Something that a command line can set. -/
inductive Parameter where
  | cgroup
  | option (option : CommandOption)
  deriving DecidableEq, Repr

namespace Parameter

/-- How a parameter is shown in a message. -/
def display : Parameter → String
  | cgroup => "<CGROUP>"
  | option given =>
    match given.valueName? with
    | some value => s!"--{given.longName} <{value}>"
    | none => s!"--{given.longName}"

end Parameter

/-- How a command line misuses the parameters. -/
inductive UsageError where
  | missingCgroup
  | unexpectedArgument (text : String)
  | missingValue (parameter : Parameter)
  | unknownValue (parameter : Parameter) (value : String)
  | malformedValue (parameter : Parameter) (value : String)
      (fault : Decimal.Fault)
  | illFormedText
  | repeated (parameter : Parameter)
  | surplusValue (parameter : Parameter) (value : String)
  deriving DecidableEq, Repr

namespace UsageError

/-- What a misuse is about.  What it quotes from the command line is made
plain, so that a value cannot hide the words after it. -/
def description (manner : Plain.Manner) : UsageError → String
  | missingCgroup => "the following required arguments were not provided:"
  | unexpectedArgument text =>
    s!"unexpected argument '{Plain.ofString manner text}' found"
  | missingValue parameter =>
    s!"a value is required for '{parameter.display}' but none was supplied"
  | unknownValue parameter value =>
    s!"invalid value '{Plain.ofString manner value}' for " ++
      s!"'{parameter.display}'"
  | malformedValue parameter value fault =>
    s!"invalid value '{Plain.ofString manner value}' for " ++
      s!"'{parameter.display}': {fault.message}"
  | illFormedText => "invalid UTF-8 was detected in one or more arguments"
  | repeated parameter =>
    s!"the argument '{parameter.display}' cannot be used multiple times"
  | surplusValue parameter value =>
    s!"unexpected value '{Plain.ofString manner value}' for " ++
      s!"'{parameter.display}' found; no more were expected"

/-- The message for a misuse, in plain text. -/
def message (error : UsageError) : String :=
  s!"error: {error.description .whole}"

/-- The message for a misuse as the program prints it. -/
def printed (error : UsageError) : String :=
  s!"error: {error.description .stream}"

end UsageError

/-- Why a command line is not turned into an invocation. -/
inductive Refusal where
  | misuse (error : UsageError)
  | summaryRequested
  | helpRequested
  | versionRequested
  deriving DecidableEq, Repr

end MemoryWatch
