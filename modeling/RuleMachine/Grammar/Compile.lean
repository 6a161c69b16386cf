import RuleMachine.Automaton.Subset
import RuleMachine.Grammar.Ambiguity
import RuleMachine.Grammar.First
import RuleMachine.GrammarText.Rule
import RuleMachine.Vocabulary.Basic

/-!
# Compiling grammars

The terms of the rules are resolved to labels against a vocabulary, rule by rule
and from left to right; each rule becomes an automaton; then the first sets are
computed and, if asked for, ambiguous grammars are refused.  All this needs a symbol
for every rule, so the rules are counted first.
-/

namespace RuleMachine

/-- Why there is no grammar. -/
inductive CompileFailure where
  /-- The rules are refused. -/
  | refused (error : GrammarError)
  /-- There are more rules than symbols. -/
  | outOfSymbols
  deriving DecidableEq, Repr

namespace Term

/-- The literal between the quotes of a quoted term. -/
def literal (term : Term) : String :=
  String.ofList (term.text.toList.drop 1).dropLast

end Term

namespace Grammar

/-- Whether a literal is a keyword: it begins like a name. -/
def isKeyword (literal : String) : Bool :=
  match literal.toList with
  | [] => false
  | first :: _ => GrammarText.isNameStart first

/-- The label of a term.  A quoted literal is a keyword or an operator of the
vocabulary; a bare name is a rule or, if there is no such rule, a token. -/
def labelOf
    (symbolIds : Dictionary String SymbolId) (vocabulary : Vocabulary) (term : Term) :
    Except GrammarError Label :=
  if term.isQuoted then
    if isKeyword term.literal then
      .ok (.keyword term.literal)
    else
      match vocabulary.operatorKind? term.literal with
      | some kind => .ok (.operator term.literal kind)
      | none => .error (.placed (.noSuchOperator term.literal) term.location)
  else
    match symbolIds.get? term.text with
    | some symbol => .ok (.rule symbol)
    | none =>
        match vocabulary.tokenKind? term.text with
        | some kind => .ok (.token kind)
        | none => .error (.placed (.noSuchRule term.text) term.location)

/-- Replace the terms of an expression by the numbers of their labels, from left to
right. -/
def resolve
    (symbolIds : Dictionary String SymbolId) (vocabulary : Vocabulary) :
    Expr Term → LabelTable → Except GrammarError (Expr LabelId × LabelTable)
  | .term term, table =>
      match labelOf symbolIds vocabulary term with
      | .error error => .error error
      | .ok label =>
          let (number, extended) := table.intern label
          .ok (.term number, extended)
  | .seq left right, table =>
      match resolve symbolIds vocabulary left table with
      | .error error => .error error
      | .ok (resolvedLeft, afterLeft) =>
          match resolve symbolIds vocabulary right afterLeft with
          | .error error => .error error
          | .ok (resolvedRight, afterRight) =>
              .ok (.seq resolvedLeft resolvedRight, afterRight)
  | .alt left right, table =>
      match resolve symbolIds vocabulary left table with
      | .error error => .error error
      | .ok (resolvedLeft, afterLeft) =>
          match resolve symbolIds vocabulary right afterLeft with
          | .error error => .error error
          | .ok (resolvedRight, afterRight) =>
              .ok (.alt resolvedLeft resolvedRight, afterRight)
  | .opt body, table =>
      match resolve symbolIds vocabulary body table with
      | .error error => .error error
      | .ok (resolved, extended) => .ok (.opt resolved, extended)
  | .plus body, table =>
      match resolve symbolIds vocabulary body table with
      | .error error => .error error
      | .ok (resolved, extended) => .ok (.plus resolved, extended)
  | .star body, table =>
      match resolve symbolIds vocabulary body table with
      | .error error => .error error
      | .ok (resolved, extended) => .ok (.star resolved, extended)

/-- The automaton of a rule with the given index. -/
def automatonOf
    (symbolIds : Dictionary String SymbolId) (vocabulary : Vocabulary)
    (index : Nat) (rule : Rule) (table : LabelTable) :
    Except GrammarError (RuleAutomaton × LabelTable) :=
  match resolve symbolIds vocabulary rule.body table with
  | .error error => .error error
  | .ok (body, extended) =>
      let states := Dfa.ofExpr body
      if RuleAutomaton.maxStates < states.length then
        .error (.unplaced (.tooManyStates rule.name states.length))
      else
        .ok (.ofStates rule.name (SymbolId.ofRuleIndex index) states, extended)

/-- The automata of rules, the first of which has the given index. -/
def automataOf
    (symbolIds : Dictionary String SymbolId) (vocabulary : Vocabulary) (index : Nat) :
    List Rule → LabelTable → Except GrammarError (List RuleAutomaton × LabelTable)
  | [], table => .ok ([], table)
  | rule :: later, table =>
      match automatonOf symbolIds vocabulary index rule table with
      | .error error => .error error
      | .ok (automaton, extended) =>
          match automataOf symbolIds vocabulary (index + 1) later extended with
          | .error error => .error error
          | .ok (automata, final) => .ok (automaton :: automata, final)

/-- The symbols of rules by name. -/
def symbolsOf (rules : List Rule) : Dictionary String SymbolId :=
  .ofList (rules.zipIdx.map fun entry => (entry.1.name, SymbolId.ofRuleIndex entry.2))

/-- The symbol of the start rule: of the rule asked for, or else of the first rule. -/
def startSymbol (symbolIds : Dictionary String SymbolId) (start : Option String) :
    Except GrammarError SymbolId :=
  match start with
  | none => .ok SymbolId.ruleOffset
  | some name =>
      match symbolIds.get? name with
      | some symbol => .ok symbol
      | none => .error (.unplaced (.noSuchRule name))

/-- The names of the token kinds in a list. -/
def namesOf (vocabulary : Vocabulary) (kinds : List TokenKind) : Dictionary TokenKind String :=
  .ofList (kinds.filterMap fun kind => (vocabulary.tokenName? kind).map fun name => (kind, name))

/-- The grammar of rules, as it is before ambiguity is considered. -/
def assemble (rules : List Rule) (vocabulary : Vocabulary) (start : Option String) :
    Except GrammarError Grammar :=
  let symbolIds := symbolsOf rules
  match startSymbol symbolIds start with
  | .error error => .error error
  | .ok startSymbol =>
      match automataOf symbolIds vocabulary 0 rules .empty with
      | .error error => .error error
      | .ok (automata, labelTable) =>
          match First.firstSets automata labelTable.labels with
          | .error error => .error error
          | .ok firstSets =>
              let usedKinds :=
                labelTable.labels.filterMap (Label.tokenKind? vocabulary.keywordToken)
              .ok
                { symbolIds
                  labelTable
                  automata := automata.zipWith
                    (fun automaton first => { automaton with first }) firstSets
                  start := startSymbol
                  keywordToken := vocabulary.keywordToken
                  endMarker := vocabulary.endMarker
                  tokenNames := namesOf vocabulary
                    (usedKinds ++ [vocabulary.keywordToken, vocabulary.endMarker]) }

/-- The grammar of rules, unless the policy refuses it. -/
def assembleUnder (policy : AmbiguityPolicy) (rules : List Rule) (vocabulary : Vocabulary)
    (start : Option String) : Except GrammarError Grammar :=
  match assemble rules vocabulary start with
  | .error error => .error error
  | .ok grammar =>
      match policy with
      | .firstWins => .ok grammar
      | .reject =>
          match Ambiguity.check grammar with
          | .error error => .error error
          | .ok () => .ok grammar

/-- Compile rules against a vocabulary. -/
def build (rules : List Rule) (vocabulary : Vocabulary)
    (start : Option String) (policy : AmbiguityPolicy) : Except CompileFailure Grammar :=
  if SymbolId.ruleCapacity < rules.length then
    .error .outOfSymbols
  else
    match assembleUnder policy rules vocabulary start with
    | .error error => .error (.refused error)
    | .ok grammar => .ok grammar

/-- Compile grammar text against a vocabulary. -/
def compile (source : String) (vocabulary : Vocabulary)
    (start : Option String) (policy : AmbiguityPolicy) : Except CompileFailure Grammar :=
  match GrammarText.readRules source with
  | .error error => .error (.refused error)
  | .ok rules => build rules vocabulary start policy

end Grammar

end RuleMachine
