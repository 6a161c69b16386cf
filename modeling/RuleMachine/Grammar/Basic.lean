import RuleMachine.Grammar.RuleAutomaton
import RuleMachine.Token

/-!
# Grammars

A grammar is a list of rule automata over a common table of labels, with the
names that reports use.
-/

namespace RuleMachine

/-- A compiled grammar. -/
structure Grammar where
  /-- Rule names to their symbols. -/
  symbolIds : Dictionary String SymbolId
  labelTable : LabelTable
  /-- The automata of the rules in the order of their declaration. -/
  automata : List RuleAutomaton
  /-- The rule that a parse begins with, unless another one is asked for. -/
  start : SymbolId
  keywordToken : TokenKind
  endMarker : TokenKind
  /-- The names of the token kinds that the grammar uses. -/
  tokenNames : Dictionary TokenKind String

namespace Grammar

/-- The labels in the order of their numbers. -/
def labels (grammar : Grammar) : List Label :=
  grammar.labelTable.labels

/-- The automaton of a rule symbol. -/
def automaton? (grammar : Grammar) (symbol : SymbolId) : Option RuleAutomaton :=
  if symbol.isRule then grammar.automata[symbol.ruleIndex]? else none

/-- The automaton that a label descends into. -/
def subAutomaton? (grammar : Grammar) (label : LabelId) : Option RuleAutomaton :=
  match grammar.labelTable.get? label with
  | some (.rule symbol) => grammar.automaton? symbol
  | _ => none

/-- The symbol of the rule with the given name. -/
def symbol? (grammar : Grammar) (name : String) : Option SymbolId :=
  grammar.symbolIds.get? name

/-- The name of a rule or of a token kind. -/
def symbolName? (grammar : Grammar) (symbol : SymbolId) : Option String :=
  match grammar.automaton? symbol with
  | some automaton => some automaton.name
  | none => grammar.tokenNames.get? symbol

/-- A label as it would be written in a grammar. -/
def labelName (grammar : Grammar) (label : LabelId) : String :=
  match grammar.labelTable.get? label with
  | some (.keyword text) => s!"'{text}'"
  | some (.operator literal _) => s!"'{literal}'"
  | some (.token kind) => (grammar.symbolName? kind).getD (toString kind)
  | some (.rule symbol) => (grammar.symbolName? symbol).getD (toString symbol)
  | none => s!"<label {label}>"

/-- The label of the operator that a token spells, if it has the operator's kind. -/
def operatorLabel? (grammar : Grammar) (token : Token) : Option LabelId :=
  (grammar.labelTable.operatorIds.get? token.value).filter fun label =>
    match grammar.labelTable.get? label with
    | some (.operator _ kind) => kind == token.kind
    | _ => false

/-- The label of the keyword that a token spells. -/
def keywordLabel? (grammar : Grammar) (token : Token) : Option LabelId :=
  if token.kind = grammar.keywordToken then
    grammar.labelTable.keywordIds.get? token.value
  else
    none

/-- The labels that may match a token, the most specific one first.  Keywords are
reserved: they match nothing but themselves.  An operator may also be matched by the
label of its kind. -/
def classify (grammar : Grammar) (token : Token) : List LabelId :=
  match grammar.keywordLabel? token with
  | some label => [label]
  | none =>
      (grammar.operatorLabel? token).toList ++
        (grammar.labelTable.tokenIds.get? token.kind).toList

/-- The terminal labels that an arc can begin with: its own label, or those that the
rule it descends into can begin with. -/
def reachable (grammar : Grammar) (label : LabelId) : List LabelId :=
  match grammar.labelTable.get? label with
  | some (.rule symbol) =>
      match grammar.automaton? symbol with
      | some sub => sub.first.elements
      | none => []
  | _ => [label]

end Grammar

end RuleMachine
