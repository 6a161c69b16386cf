import RuleMachine.Report.Command
import RuleMachine.Report.Invocation

/-!
# The command line

Reads the files that the arguments name, runs the command and writes its output.
Problems go to the standard error output.
-/

namespace RuleMachine.CommandLine

open RuleMachine.Command

/-- A file with its text, if it can be read. -/
def openFile (name : String) : IO TextFile := do
  try
    return { name, contents := some (← IO.FS.readFile name) }
  catch _ =>
    return { name, contents := none }

/-- What is reported of a problem that has no text of its own. -/
def tooLarge : String := "too large to report"

/-- Report a problem. -/
def report (text : String) : IO UInt32 := do
  IO.eprintln text
  return 1

/-- Write the output of a command, or report its problem. -/
def conclude {Output : Type} (outcome : Except Problem Output) (write : Output → IO Unit) :
    IO UInt32 := do
  match outcome with
  | .ok output =>
      write output
      return 0
  | .error problem => report ("Error: " ++ problem.message?.getD tooLarge)

/-- The rows of a table as text, the cells of a row separated by tabs. -/
def tableText (rows : List (List String)) : String :=
  String.join (rows.map fun row => String.intercalate "\t" row ++ "\n")

/-- Carry out what the command line asks for. -/
def execute : Invocation → IO UInt32
  | .table grammar rule => do
      conclude (table (← openFile grammar) rule) fun rows => IO.print (tableText rows)
  | .graph grammar rule output => do
      conclude (graph (← openFile grammar) rule) fun text =>
        match output with
        | some file => IO.FS.writeFile file text
        | none => IO.println text
  | .parse grammar source start => do
      conclude (tree (← openFile grammar) (← openFile source) start) IO.print

end RuleMachine.CommandLine

/-- Run the command that the arguments name. -/
def main (arguments : List String) : IO UInt32 :=
  match RuleMachine.Invocation.ofArguments? arguments with
  | some invocation => RuleMachine.CommandLine.execute invocation
  | none => RuleMachine.CommandLine.report RuleMachine.Invocation.usage
