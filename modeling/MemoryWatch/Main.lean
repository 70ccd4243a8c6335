import MemoryWatch.Rehearsal

/-!
# The command line

The program is rehearsed with the arguments it is given.  The cgroup is there
if its control files can be read, and the script comes from standard input.
-/

namespace MemoryWatch

namespace Rehearsal

/-- Whether a file can be read. -/
def canRead (path : Path) : IO Bool := do
  try
    let _ ← IO.FS.readBinFile path.display
    return true
  catch _ =>
    return false

/-- Whether both control files of a cgroup can be read. -/
def isCgroup (path : Path) : IO Bool := do
  if ← canRead (Cgroup.eventControl path) then
    canRead (Cgroup.oomControl path)
  else return false

/-- The cgroup that a command line names, if it is there. -/
def presentCgroup (words : List Path) : IO (Option Path) := do
  match cgroup? words with
  | none => return none
  | some path => return if ← isCgroup path then some path else none

/-- The exit code of a program that has broken off. -/
def brokenOff : UInt32 := 101

/-- Rehearse the program. -/
def rehearse (arguments : List String) : IO UInt32 := do
  let words := (CommandLine.programName :: arguments).map Path.ofString
  let logSetting := (← IO.getEnv "OOMWATCH_LOG").map Utf8.ofString
  let cgroup ← presentCgroup words
  let script ← (← IO.getStdin).readToEnd
  let lines := (Separated.parts '\n' script.toList).map String.ofList
  match Program.run packages words logSetting (environment cgroup lines) with
  | .exited exit =>
    (← IO.getStdout).write ⟨exit.output.toArray⟩
    for diagnostic in exit.diagnostics do
      IO.eprintln diagnostic.text
    return exit.exitCode.toUInt32
  | .panicked => return brokenOff
  | .endless => return 1

end Rehearsal

end MemoryWatch

/-- The program. -/
def main (arguments : List String) : IO UInt32 :=
  MemoryWatch.Rehearsal.rehearse arguments
