import MemoryWatch.Path
import MemoryWatch.Text.Plain

/-!
# What the program says about itself

These are the texts for those who ask for help or for the version.  The help
texts show the program under the name by which it was called.
-/

namespace MemoryWatch

namespace CommandLine

/-- The name of the program. -/
def programName : String := "oomwatch"

/-- The version of the program. -/
def version : String := "0.1.0"

/-- The text with the name and the version. -/
def versionText : String := s!"{programName} {version}\n"

/-- The name that the words of a command line call the program by, in plain
text: what the first word ends in, if that is the name of a file and
well-formed. -/
def calledName (manner : Plain.Manner) (words : List Path) : String :=
  match (words.head?.bind Path.fileName?).bind Utf8.decode? with
  | some name => Plain.ofString manner (String.ofList name)
  | none => programName

/-- The lines with which both help texts begin. -/
def opening (name : String) : List String :=
  ["Report kernel out-of-memory notifications for a memory cgroup",
   "",
   s!"Usage: {name} [OPTIONS] <CGROUP>",
   "",
   "Arguments:"]

/-- A text of some lines, each ended by a line feed. -/
def ofLines (lines : List String) : String :=
  String.join (lines.map (· ++ "\n"))

/-- The help text with one line for each parameter. -/
def summaryText (name : String) : String :=
  ofLines (opening name ++
    ["  <CGROUP>  Memory cgroup directory to watch",
     "",
     "Options:",
     "  -v, --verbose                 Enable verbose logging",
     "  -f, --format <FORMAT>         Notification output format " ++
       "[default: text] [possible values: text, json, binary]",
     "      --probe-interval-ms <MS>  " ++
       "Re-check that the cgroup exists this often while idle",
     "      --lenient-registration    " ++
       "Keep watching when the registration write is short or fails",
     "  -h, --help                    " ++
       "Print help (see more with '--help')",
     "  -V, --version                 Print version"])

/-- The help text with a paragraph for each parameter. -/
def helpText (name : String) : String :=
  ofLines (opening name ++
    ["  <CGROUP>",
     "          Memory cgroup directory to watch",
     "",
     "Options:",
     "  -v, --verbose",
     "          Enable verbose logging",
     "",
     "  -f, --format <FORMAT>",
     "          Notification output format",
     "",
     "          Possible values:",
     "          - text:   `oom <counter>` per line",
     "          - json:   One JSON object per line",
     "          - binary: Raw 8-byte native-endian counter",
     "          ",
     "          [default: text]",
     "",
     "      --probe-interval-ms <MS>",
     "          Re-check that the cgroup exists this often while idle",
     "",
     "      --lenient-registration",
     "          Keep watching when the registration write is short or fails",
     "",
     "  -h, --help",
     "          Print help (see a summary with '-h')",
     "",
     "  -V, --version",
     "          Print version"])

end CommandLine

end MemoryWatch
