import RuleMachine.Grammar.Compile
import RuleMachine.Parsing.Parse
import RuleMachine.Report.Graph
import RuleMachine.Report.Problem
import RuleMachine.Report.StateTable
import RuleMachine.Vocabulary.Standard

/-!
# Commands

The commands of the tool as functions of the files that they are given: the state
table and the graph of a grammar, and the tree of a source.  Grammars are compiled
against the vocabulary of Python.
-/

namespace RuleMachine.Command

/-- A file by name, with its text if it exists. -/
structure TextFile where
  name : String
  contents : Option String

/-- The text of a file. -/
def readText (file : TextFile) : Except Problem String :=
  match file.contents with
  | some text => .ok text
  | none => .error .missingFile

/-- The grammar in a file. -/
def loadGrammar (file : TextFile) (start : Option String) : Except Problem Grammar :=
  match readText file with
  | .error problem => .error problem
  | .ok source =>
      match Grammar.compile source .python start .reject with
      | .error (.refused error) => .error (.grammar file.name error)
      | .error .outOfSymbols => .error .outOfSymbols
      | .ok grammar => .ok grammar

/-- The rules to show: all of them, or the one asked for. -/
def selectRules (grammar : Grammar) (rule : Option String) :
    Except Problem (List RuleAutomaton) :=
  match rule with
  | none => .ok grammar.automata
  | some name =>
      match (grammar.symbol? name).bind grammar.automaton? with
      | some automaton => .ok [automaton]
      | none => .error (.unknownRule name)

/-- Compile the grammar in a file and show the selected rules. -/
def showRules {Output : Type} (file : TextFile) (rule : Option String)
    (display : Grammar → List RuleAutomaton → Output) : Except Problem Output :=
  match loadGrammar file none with
  | .error problem => .error problem
  | .ok grammar =>
      match selectRules grammar rule with
      | .error problem => .error problem
      | .ok automata => .ok (display grammar automata)

/-- The state table of the grammar in a file. -/
def table (file : TextFile) (rule : Option String) : Except Problem (List (List String)) :=
  showRules file rule StateTable.rows

/-- The graph of the grammar in a file. -/
def graph (file : TextFile) (rule : Option String) : Except Problem String :=
  showRules file rule Graph.render

/-- The tree of a source, as the start rule of a grammar matches it. -/
def parseSource (grammar : Grammar) (name source : String) : Except Problem Tree :=
  match Lexer.lex .python source with
  | .error error => .error (.lex name error)
  | .ok tokens =>
      match parse grammar grammar.start tokens with
      | .error (.unknownRule refusal) => .error (.unknownRule (toString refusal.symbol))
      | .error (.outOfColumns _) => .error .outOfColumns
      | .error (.refused error) => .error (.parse name error (error.expectedNames grammar))
      | .ok tree => .ok tree

/-- The tree of the source in a file as text.  The grammar is loaded before the source is
read. -/
def tree (grammarFile sourceFile : TextFile) (start : Option String) :
    Except Problem String :=
  match loadGrammar grammarFile start with
  | .error problem => .error problem
  | .ok grammar =>
      match readText sourceFile with
      | .error problem => .error problem
      | .ok source =>
          match parseSource grammar sourceFile.name source with
          | .error problem => .error problem
          | .ok tree =>
              match tree.dump? grammar with
              | some text => .ok text
              | none => .error .tooDeep

end RuleMachine.Command
