import SignatureForms.Console.Workspace
import Std.Time.Format

/-!
# The program

Reads the command line, reads the document, and carries out the plan of the command on the disk.
-/

namespace SignatureForms.Console

/-- Ends the program with a message. -/
def fail (message : String) : IO UInt32 := do
  IO.eprint programGrammar.help
  IO.eprintln ("paramflow: error: " ++ message)
  return 2

/-- The text of a file, if it can be read. -/
def readText (path : String) : IO (Option String) := do
  try return some (← IO.FS.readFile path) catch _ => return none

/-- Carries out one action. A file that cannot be written is reported by its path. -/
def perform : Action → IO (Option Fault)
  | .makeDirectory path => do
    IO.FS.createDirAll path
    return none
  | .print text => do
    IO.print text
    return none
  | .write path text => do
    try
      IO.FS.writeFile path text
      return none
    catch _ => return some (.missingFile path)

/-- Carries out actions in order, up to the first that fails. -/
def performAll : List Action → IO (Option Fault)
  | [] => return none
  | action :: rest => do
    match ← perform action with
    | some fault => return some fault
    | none => performAll rest

/-- The time of day, to the second. -/
def timeStamp : IO String := do
  return (← Std.Time.PlainDateTime.now).format "uuuu-MM-dd HH:mm:ss"

end SignatureForms.Console

open SignatureForms Console in
/-- Runs the program and gives its exit code. -/
def main (words : List String) : IO UInt32 := do
  match understand words with
  | .error error => fail error.message
  | .ok (.help text) =>
    IO.print text
    return 0
  | .ok (.command command) =>
    let plan := command.plan (← readText command.input) (← timeStamp)
    match (← performAll plan.actions).or plan.fault with
    | none => return 0
    | some fault =>
      if fault.category.isReported then fail fault.message
      else throw (IO.userError fault.message)
