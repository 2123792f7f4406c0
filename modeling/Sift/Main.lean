import Sift.Command

/-!
# The program

Reads the registry file that a command needs, and writes what the command gives: its answer to
standard output, or the reason why there is none to standard error.
-/

namespace Sift

/-- The text of a file, if it can be read. -/
def readText? (path : String) : IO (Option String) := do
  try
    return some (← IO.FS.readFile path)
  catch _ =>
    return none

/-- Runs a command and returns the status of the program. -/
def Command.execute (command : Command) : IO UInt32 := do
  let file ← match command.registryPath? with
    | some path => readText? path
    | none => pure none
  match command.run file with
  | .ok output =>
    IO.print output
    return 0
  | .error failure =>
    IO.eprint failure.notice
    IO.eprintln ("Error: " ++ failure.message)
    return 1

end Sift

/-- The program.  Its status is 1 if a command fails and 2 if there is no command to run. -/
def main (args : List String) : IO UInt32 :=
  match Sift.Command.parse args with
  | .ok command => command.execute
  | .error error => do
    IO.eprintln ("error: " ++ error.message)
    return 2
