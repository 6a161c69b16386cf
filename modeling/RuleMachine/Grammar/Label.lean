import RuleMachine.Dictionary
import RuleMachine.Roster
import RuleMachine.Symbol

/-!
# Labels

A label says what an arc of a rule's automaton matches.  Labels are numbered in
the order in which the rules first use them, and three indices lead from the
parts of a token to the labels that may match it.
-/

namespace RuleMachine

/-- What an arc matches. -/
inductive Label where
  /-- A reserved word, spelled like an identifier. -/
  | keyword (text : String)
  /-- An operator literal, and the kind of the tokens that spell it. -/
  | operator (literal : String) (kind : TokenKind)
  /-- Any token of a kind. -/
  | token (kind : TokenKind)
  /-- Whatever another rule matches. -/
  | rule (symbol : SymbolId)
  deriving DecidableEq, Repr

/-- The number of a label; also a column of the transition tables. -/
abbrev LabelId := Nat

namespace Label

/-- Whether a label matches a single token. -/
def isTerminal : Label → Bool
  | .rule _ => false
  | .keyword _ | .operator _ _ | .token _ => true

/-- A label without the names that a grammar knows. -/
def display : Label → String
  | .keyword text => s!"'{text}'"
  | .operator literal _ => s!"'{literal}'"
  | .token kind => s!"token {kind}"
  | .rule symbol => s!"rule {symbol}"

/-- The kind of the tokens that a label matches, where the keyword token is given. -/
def tokenKind? (keywordToken : TokenKind) : Label → Option TokenKind
  | .keyword _ => some keywordToken
  | .operator _ kind => some kind
  | .token kind => some kind
  | .rule _ => none

end Label

/-- Numbered labels with their indices. -/
structure LabelTable where
  roster : Roster Label
  /-- Token kinds to the labels of all their tokens. -/
  tokenIds : Dictionary TokenKind LabelId
  /-- Keywords to their labels. -/
  keywordIds : Dictionary String LabelId
  /-- Operator literals to their labels. -/
  operatorIds : Dictionary String LabelId

namespace LabelTable

/-- The table without labels. -/
def empty : LabelTable where
  roster := .empty
  tokenIds := .empty
  keywordIds := .empty
  operatorIds := .empty

/-- The labels in the order of their numbers. -/
def labels (table : LabelTable) : List Label :=
  table.roster.items

/-- The label with the given number. -/
def get? (table : LabelTable) (label : LabelId) : Option Label :=
  table.roster.get? label

/-- Enter a label into the index that it belongs to. -/
def index (table : LabelTable) (label : Label) (number : LabelId) : LabelTable :=
  match label with
  | .keyword text => { table with keywordIds := table.keywordIds.insert text number }
  | .operator literal _ => { table with operatorIds := table.operatorIds.insert literal number }
  | .token kind => { table with tokenIds := table.tokenIds.insert kind number }
  | .rule _ => table

/-- The number of a label, which is entered if it is new. -/
def intern (table : LabelTable) (label : Label) : LabelId × LabelTable :=
  match table.roster.numberOf? label with
  | some number => (number, table)
  | none =>
      let number := table.roster.size
      (number, { table with roster := table.roster.enroll label }.index label number)

end LabelTable

end RuleMachine
