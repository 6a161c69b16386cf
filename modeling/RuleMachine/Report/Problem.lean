import RuleMachine.GrammarText.Error
import RuleMachine.Lexer.Lex
import RuleMachine.Parsing.Error
import RuleMachine.Text.Blank
import RuleMachine.Text.Padding

/-!
# Problems

What the commands report when they fail.  A problem at a place in a file names
the file, the line and the column, shows the line and points at the column with a
caret.  Problems of size have no text, nor has a problem whose caret would stand
too far to the right.
-/

namespace RuleMachine

/-- Why a command failed. -/
inductive Problem where
  /-- A file does not exist. -/
  | missingFile
  /-- The grammar in a file is refused. -/
  | grammar (file : String) (error : GrammarError)
  /-- The grammar in a file has more rules than there are symbols. -/
  | outOfSymbols
  /-- The grammar has no rule of the name asked for. -/
  | unknownRule (name : String)
  /-- The source in a file cannot be cut into tokens. -/
  | lex (file : String) (error : LexError)
  /-- The source in a file cannot be parsed; the expected labels are given by name. -/
  | parse (file : String) (error : ParseError) (expected : List String)
  /-- A token of the source reaches beyond the last column. -/
  | outOfColumns
  /-- The tree of the source is too deep for a report. -/
  | tooDeep

namespace Problem

/-- A line and below it a caret at a column, both indented. -/
def pointAt? (line : String) (column : Nat) : Option String :=
  (Text.padding? column).map fun padding => "\n    " ++ line ++ "\n    " ++ padding ++ "^"

/-- A file and a place in it. -/
def placeIn (file : String) (line column : Nat) : String :=
  file ++ ":" ++ toString line ++ ":" ++ toString column

/-- A text without the blank space at its end. -/
def trimEnd (text : String) : String :=
  String.ofList (text.toList.reverse.dropWhile Text.isBlank).reverse

/-- The text of a refused grammar. -/
def grammarMessage? (file : String) (error : GrammarError) : Option String :=
  match error.location with
  | some location =>
      (pointAt? (trimEnd location.text) location.startColumn).map fun pointer =>
        placeIn file location.line location.startColumn ++ ": " ++ error.message ++ pointer
  | none => some (file ++ ": " ++ error.message)

/-- The text of a failed parse. -/
def parseMessage? (file : String) (error : ParseError) (expected : List String) :
    Option String :=
  let place := error.token.position
  let alternatives :=
    if expected.isEmpty then ""
    else "\n    expected one of: " ++ String.intercalate ", " expected
  let pointer? :=
    if error.token.sourceLine.isEmpty then some ""
    else pointAt? error.token.sourceLine place.column
  pointer?.map fun pointer =>
    placeIn file place.line place.column ++ ": " ++ error.message ++ alternatives ++ pointer

/-- The text of a problem that has one. -/
def message? : Problem → Option String
  | .missingFile => some "No such file or directory (os error 2)"
  | .grammar file error => grammarMessage? file error
  | .outOfSymbols => none
  | .unknownRule name => some s!"The grammar has no rule named '{name}'"
  | .lex file error => some (file ++ ": " ++ error.message)
  | .parse file error expected => parseMessage? file error expected
  | .outOfColumns => none
  | .tooDeep => none

end Problem

end RuleMachine
