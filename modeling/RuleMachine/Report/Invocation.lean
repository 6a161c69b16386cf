/-!
# Invocations

The arguments of the command line name a command, its files and its options:

```text
table GRAMMAR [--rule RULE]
graph GRAMMAR [--rule RULE] [--output FILE]
parse GRAMMAR SOURCE [--start RULE]
```
-/

namespace RuleMachine

/-- What the command line asks for. -/
inductive Invocation where
  /-- Show the states of the rules of a grammar. -/
  | table (grammar : String) (rule : Option String)
  /-- Draw the automata of a grammar, into a file or on the standard output. -/
  | graph (grammar : String) (rule output : Option String)
  /-- Parse a source and show its tree. -/
  | parse (grammar source : String) (start : Option String)
  deriving DecidableEq, Repr

namespace Invocation

/-- How the command line is used. -/
def usage : String :=
  "usage: table GRAMMAR [--rule RULE]\n" ++
  "       graph GRAMMAR [--rule RULE] [--output FILE]\n" ++
  "       parse GRAMMAR SOURCE [--start RULE]"

/-- Arguments sorted into files and options with their values. -/
structure Arguments where
  files : List String
  options : List (String × String)

/-- Sort arguments: an option of the given names takes the argument behind it. -/
def sortArguments (names : List String) : List String → Option Arguments
  | [] => some ⟨[], []⟩
  | [argument] => if argument ∈ names then none else some ⟨[argument], []⟩
  | argument :: value :: later =>
      if argument ∈ names then
        (sortArguments names later).map fun sorted =>
          { sorted with options := (argument, value) :: sorted.options }
      else
        (sortArguments names (value :: later)).map fun sorted =>
          { sorted with files := argument :: sorted.files }

/-- The value of the option with one of the given names. -/
def Arguments.option? (arguments : Arguments) (names : List String) : Option String :=
  (arguments.options.find? fun entry => names.contains entry.1).map Prod.snd

/-- Read the arguments of the command line. -/
def ofArguments? : List String → Option Invocation
  | "table" :: later =>
      match sortArguments ["--rule"] later with
      | some arguments =>
          match arguments.files with
          | [grammar] => some (.table grammar (arguments.option? ["--rule"]))
          | _ => none
      | none => none
  | "graph" :: later =>
      match sortArguments ["--rule", "--output", "-o"] later with
      | some arguments =>
          match arguments.files with
          | [grammar] =>
              some (.graph grammar (arguments.option? ["--rule"])
                (arguments.option? ["--output", "-o"]))
          | _ => none
      | none => none
  | "parse" :: later =>
      match sortArguments ["--start"] later with
      | some arguments =>
          match arguments.files with
          | [grammar, source] => some (.parse grammar source (arguments.option? ["--start"]))
          | _ => none
      | none => none
  | _ => none

end Invocation

end RuleMachine
