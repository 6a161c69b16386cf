import RuleMachine.Grammar.Basic
import RuleMachine.Text.Quoted

/-!
# Parse errors

A parse fails at a token.  The error tells which terminal labels could have gone
on instead, and whether the innermost rule could have ended there.
-/

namespace RuleMachine

/-- Why a token cannot be parsed. -/
inductive ParseFault where
  /-- No label of the grammar matches the token. -/
  | badToken
  /-- The token does not fit here. -/
  | badInput
  /-- The parse was complete before the token. -/
  | tooMuchInput
  /-- The input ends before the parse is complete. -/
  | incompleteInput
  deriving DecidableEq, Repr

/-- The words for a fault. -/
def ParseFault.message : ParseFault → String
  | .badToken => "bad token"
  | .badInput => "bad input"
  | .tooMuchInput => "too much input"
  | .incompleteInput => "incomplete input"

/-- A parse failed at a token. -/
structure ParseError where
  fault : ParseFault
  token : Token
  /-- The terminal labels that could have gone on. -/
  expected : NatSet
  /-- Whether the innermost rule could have ended. -/
  accepting : Bool
  deriving DecidableEq

namespace ParseError

/-- The expected labels as they would be written in a grammar. -/
def expectedNames (error : ParseError) (grammar : Grammar) : List String :=
  error.expected.elements.map grammar.labelName

/-- The text of an error. -/
def message (error : ParseError) : String :=
  error.fault.message ++ " at line " ++ toString error.token.position.line ++
    ", column " ++ toString error.token.position.column ++ ": " ++
    Text.quoted error.token.value

end ParseError

end RuleMachine
