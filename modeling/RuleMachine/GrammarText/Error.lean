import RuleMachine.GrammarText.Lexeme
import RuleMachine.Text.Quoted

/-!
# What can be wrong with a grammar

A grammar is refused for one cause.  Causes that lie at a place in the text come
with their location.
-/

namespace RuleMachine

/-- Ways in which grammar text does not follow the form of a grammar. -/
inductive Malformation where
  | unexpectedCharacter (character : Char)
  | unterminatedString
  | unexpectedKind (wanted found : LexemeKind)
  | unexpectedOperator (wanted found : String)
  | missingAtom (found : String)
  | noRules
  deriving DecidableEq, Repr

/-- Causes for refusing a grammar. -/
inductive GrammarFault where
  | malformed (reason : Malformation)
  | noSuchRule (name : String)
  | noSuchOperator (literal : String)
  | duplicateRule (name : String)
  | leftRecursion (rule : String)
  | ambiguous (rule label first second : String)
  | tooManyStates (rule : String) (states : Nat)
  | emptyRule (rule sub : String)
  deriving DecidableEq, Repr

/-- The cause for refusing a grammar and, if it has one, its place in the text. -/
structure GrammarError where
  fault : GrammarFault
  location : Option Location
  deriving DecidableEq, Repr

/-- The text of a malformation. -/
def Malformation.message : Malformation → String
  | .unexpectedCharacter character => s!"unexpected character '{character}'"
  | .unterminatedString => "unterminated string"
  | .unexpectedKind wanted found =>
      "expected token " ++ wanted.display ++ " but got " ++ found.display
  | .unexpectedOperator wanted found => s!"expected '{wanted}' but got '{found}'"
  | .missingAtom found =>
      "expected '(', NAME or STRING but got '" ++ Text.asciiEscaped found ++ "'"
  | .noRules => "grammar defines no rules"

/-- The text of a fault. -/
def GrammarFault.message : GrammarFault → String
  | .malformed reason => reason.message
  | .noSuchRule name => s!"no such rule: '{name}'"
  | .noSuchOperator literal => s!"no such operator: '{literal}'"
  | .duplicateRule name => s!"duplicate rule: '{name}'"
  | .leftRecursion rule => s!"left recursion for rule '{rule}'"
  | .ambiguous rule label first second =>
      s!"rule '{rule}' is ambiguous; {label} is in the first sets of {first} as well as {second}"
  | .tooManyStates rule states =>
      s!"rule '{rule}' compiles to {states} states, more than a transition table can address"
  | .emptyRule rule sub => s!"rule '{rule}' descends into '{sub}', which can match nothing"

namespace GrammarError

/-- The text of an error; its place is not part of it. -/
def message (error : GrammarError) : String :=
  error.fault.message

/-- An error without a place. -/
def unplaced (fault : GrammarFault) : GrammarError :=
  ⟨fault, none⟩

/-- An error at a place. -/
def placed (fault : GrammarFault) (location : Location) : GrammarError :=
  ⟨fault, some location⟩

end GrammarError

end RuleMachine
