import RuleMachine.Grammar.Compile
import RuleMachine.Proofs.SubsetConstruction

/-!
# What a compiled grammar consists of

Compiling goes through the rules from the first to the last.  The table of labels
only ever grows, so the number that a term was given stands for its label in the
final table as well.  `Compiled` says what is known of a grammar that was compiled
from rules: each rule has its own automaton, which is the deterministic automaton
of the rule's expression with its terms replaced by the numbers of their labels.
-/

namespace RuleMachine

/-! ## Tables of labels -/

namespace LabelTable

variable {table extended : LabelTable} {label : Label} {number : LabelId}

/-- One table has all labels of another one, under the same numbers. -/
def Extends (table extended : LabelTable) : Prop :=
  table.roster.items <+: extended.roster.items

/-- The three indices of a table lead to labels with the parts they are looked up by. -/
structure Indexed (table : LabelTable) : Prop where
  token : ∀ kind number, table.tokenIds.get? kind = some number →
    table.get? number = some (.token kind)
  keyword : ∀ text number, table.keywordIds.get? text = some number →
    table.get? number = some (.keyword text)
  operator : ∀ literal number, table.operatorIds.get? literal = some number →
    ∃ kind, table.get? number = some (.operator literal kind)

theorem Extends.get? (grows : table.Extends extended) (found : table.get? number = some label) :
    extended.get? number = some label := by
  obtain ⟨added, grown⟩ := grows
  obtain ⟨inRange, _⟩ := List.getElem?_eq_some_iff.mp found
  rw [LabelTable.get?, Roster.get?, ← grown, List.getElem?_append_left inRange]
  exact found

theorem number_unique {other : LabelId} (found : table.get? number = some label)
    (otherFound : table.get? other = some label) : number = other := by
  obtain ⟨inRange, _⟩ := List.getElem?_eq_some_iff.mp found
  exact (List.getElem?_inj inRange table.roster.distinct).mp (found.trans otherFound.symm)

theorem roster_index (table : LabelTable) (label : Label) (number : LabelId) :
    (table.index label number).roster = table.roster := by
  cases label <;> rfl

theorem roster_intern (table : LabelTable) (label : Label) :
    (table.intern label).2.roster = (table.roster.number label).2 := by
  unfold intern Roster.number
  cases table.roster.numberOf? label with
  | some number => rfl
  | none => exact roster_index _ label _

theorem number_intern (table : LabelTable) (label : Label) :
    (table.intern label).1 = (table.roster.number label).1 := by
  unfold intern Roster.number
  cases table.roster.numberOf? label <;> rfl

theorem extends_intern (table : LabelTable) (label : Label) :
    table.Extends (table.intern label).2 := by
  rw [Extends, roster_intern]
  exact table.roster.number_extends label

theorem get?_intern (table : LabelTable) (label : Label) :
    (table.intern label).2.get? (table.intern label).1 = some label := by
  rw [LabelTable.get?, roster_intern, number_intern]
  exact table.roster.get?_number label

theorem indexed_empty : LabelTable.empty.Indexed := by
  constructor
  · intro kind number found
    cases found
  · intro text number found
    cases found
  · intro literal number found
    cases found

theorem Indexed.index (indexed : table.Indexed) {enrolled : LabelTable}
    (sameTokens : enrolled.tokenIds = table.tokenIds)
    (sameKeywords : enrolled.keywordIds = table.keywordIds)
    (sameOperators : enrolled.operatorIds = table.operatorIds)
    (grows : table.Extends enrolled) (newest : enrolled.get? number = some label) :
    (enrolled.index label number).Indexed := by
  have same : ∀ tested, (enrolled.index label number).get? tested = enrolled.get? tested := by
    intro tested
    rw [LabelTable.get?, roster_index, LabelTable.get?]
  constructor
  · intro kind found isFound
    rw [same]
    cases label with
    | token newKind =>
        rcases Dictionary.eq_or_get?_of_get?_insert isFound with ⟨rfl, rfl⟩ | isOld
        · exact newest
        · exact grows.get? (indexed.token kind found (sameTokens ▸ isOld))
    | keyword text => exact grows.get? (indexed.token kind found (sameTokens ▸ isFound))
    | operator literal operatorKind =>
        exact grows.get? (indexed.token kind found (sameTokens ▸ isFound))
    | rule symbol => exact grows.get? (indexed.token kind found (sameTokens ▸ isFound))
  · intro text found isFound
    rw [same]
    cases label with
    | keyword newText =>
        rcases Dictionary.eq_or_get?_of_get?_insert isFound with ⟨rfl, rfl⟩ | isOld
        · exact newest
        · exact grows.get? (indexed.keyword text found (sameKeywords ▸ isOld))
    | token kind => exact grows.get? (indexed.keyword text found (sameKeywords ▸ isFound))
    | operator literal operatorKind =>
        exact grows.get? (indexed.keyword text found (sameKeywords ▸ isFound))
    | rule symbol => exact grows.get? (indexed.keyword text found (sameKeywords ▸ isFound))
  · intro literal found isFound
    rw [same]
    have old : table.operatorIds.get? literal = some found →
        ∃ kind, enrolled.get? found = some (.operator literal kind) := by
      intro isOld
      obtain ⟨kind, isOperator⟩ := indexed.operator literal found isOld
      exact ⟨kind, grows.get? isOperator⟩
    cases label with
    | operator newLiteral newKind =>
        rcases Dictionary.eq_or_get?_of_get?_insert isFound with ⟨rfl, rfl⟩ | isOld
        · exact ⟨newKind, newest⟩
        · exact old (sameOperators ▸ isOld)
    | token kind => exact old (sameOperators ▸ isFound)
    | keyword text => exact old (sameOperators ▸ isFound)
    | rule symbol => exact old (sameOperators ▸ isFound)

theorem Indexed.intern (indexed : table.Indexed) (label : Label) :
    (table.intern label).2.Indexed := by
  have grows := table.extends_intern label
  have newest := table.get?_intern label
  unfold LabelTable.intern at grows newest ⊢
  split
  · exact indexed
  · rename_i missing
    simp only [missing] at grows newest
    rw [LabelTable.Extends, roster_index] at grows
    rw [LabelTable.get?, roster_index] at newest
    exact indexed.index rfl rfl rfl grows newest

end LabelTable

/-! ## Resolving terms -/

namespace Grammar

variable {symbolIds : Dictionary String SymbolId} {vocabulary : Vocabulary}

/-- A number stands for the label of a term. -/
def Names (symbolIds : Dictionary String SymbolId) (vocabulary : Vocabulary)
    (table : LabelTable) (term : Term) (number : LabelId) : Prop :=
  ∃ label, labelOf symbolIds vocabulary term = .ok label ∧ table.get? number = some label

theorem Names.mono {table extended : LabelTable} {term : Term} {number : LabelId}
    (names : Names symbolIds vocabulary table term number) (grows : table.Extends extended) :
    Names symbolIds vocabulary extended term number := by
  obtain ⟨label, isLabel, found⟩ := names
  exact ⟨label, isLabel, grows.get? found⟩

/-- Resolving keeps the shape of an expression, replaces each term by the number of its
label, and only adds labels to the table. -/
structure Resolves (symbolIds : Dictionary String SymbolId) (vocabulary : Vocabulary)
    (table extended : LabelTable) (expression : Expr Term) (resolved : Expr LabelId) :
    Prop where
  grows : table.Extends extended
  indexed : table.Indexed → extended.Indexed
  shape : Expr.SameShape (Names symbolIds vocabulary extended) expression resolved

/-- Resolving one expression and then another, which may become parts of a larger one. -/
theorem Resolves.both {table middle extended : LabelTable}
    {left right combined : Expr Term}
    {resolvedLeft resolvedRight resolvedCombined : Expr LabelId}
    (first : Resolves symbolIds vocabulary table middle left resolvedLeft)
    (second : Resolves symbolIds vocabulary middle extended right resolvedRight)
    (combine : Expr.SameShape (Names symbolIds vocabulary extended) left resolvedLeft →
      Expr.SameShape (Names symbolIds vocabulary extended) right resolvedRight →
      Expr.SameShape (Names symbolIds vocabulary extended) combined resolvedCombined) :
    Resolves symbolIds vocabulary table extended combined resolvedCombined where
  grows := first.grows.trans second.grows
  indexed indexed := second.indexed (first.indexed indexed)
  shape := combine (first.shape.mono fun _ _ names => names.mono second.grows) second.shape

theorem resolves_of_resolve {expression : Expr Term} {table extended : LabelTable}
    {resolved : Expr LabelId}
    (success : resolve symbolIds vocabulary expression table = .ok (resolved, extended)) :
    Resolves symbolIds vocabulary table extended expression resolved := by
  induction expression generalizing table extended resolved with
  | term term =>
      unfold resolve at success
      split at success
      · cases success
      · rename_i label isLabel
        cases success
        exact
          { grows := table.extends_intern label
            indexed := fun indexed => indexed.intern label
            shape := .term ⟨label, isLabel, table.get?_intern label⟩ }
  | seq left right leftHypothesis rightHypothesis =>
      unfold resolve at success
      split at success
      · cases success
      · rename_i leftSuccess
        split at success
        · cases success
        · rename_i rightSuccess
          cases success
          exact (leftHypothesis leftSuccess).both (rightHypothesis rightSuccess) .seq
  | alt left right leftHypothesis rightHypothesis =>
      unfold resolve at success
      split at success
      · cases success
      · rename_i leftSuccess
        split at success
        · cases success
        · rename_i rightSuccess
          cases success
          exact (leftHypothesis leftSuccess).both (rightHypothesis rightSuccess) .alt
  | opt body inductionHypothesis =>
      unfold resolve at success
      split at success
      · cases success
      · rename_i bodySuccess
        cases success
        have inner := inductionHypothesis bodySuccess
        exact ⟨inner.grows, inner.indexed, .opt inner.shape⟩
  | plus body inductionHypothesis =>
      unfold resolve at success
      split at success
      · cases success
      · rename_i bodySuccess
        cases success
        have inner := inductionHypothesis bodySuccess
        exact ⟨inner.grows, inner.indexed, .plus inner.shape⟩
  | star body inductionHypothesis =>
      unfold resolve at success
      split at success
      · cases success
      · rename_i bodySuccess
        cases success
        have inner := inductionHypothesis bodySuccess
        exact ⟨inner.grows, inner.indexed, .star inner.shape⟩

/-! ## Automata of rules -/

/-- An automaton is the one of a rule with the given index. -/
structure AutomatonOf (symbolIds : Dictionary String SymbolId) (vocabulary : Vocabulary)
    (table : LabelTable) (index : Nat) (rule : Rule) (automaton : RuleAutomaton) : Prop where
  intro ::
  body : ∃ resolved,
    Expr.SameShape (Names symbolIds vocabulary table) rule.body resolved ∧
      automaton.states = Dfa.ofExpr resolved
  name : automaton.name = rule.name
  symbol : automaton.symbol = SymbolId.ofRuleIndex index
  bounded : automaton.states.length ≤ RuleAutomaton.maxStates
  table_eq : automaton.table =
    .ofStates (automaton.states.map State.transitions) (automaton.states.map State.accepting)

theorem AutomatonOf.mono {table extended : LabelTable} {index : Nat} {rule : Rule}
    {automaton : RuleAutomaton}
    (isAutomaton : AutomatonOf symbolIds vocabulary table index rule automaton)
    (grows : table.Extends extended) :
    AutomatonOf symbolIds vocabulary extended index rule automaton := by
  obtain ⟨resolved, shape, states_eq⟩ := isAutomaton.body
  exact
    { isAutomaton with
      body := ⟨resolved, shape.mono fun _ _ names => names.mono grows, states_eq⟩ }

theorem automatonOf_spec {index : Nat} {rule : Rule} {table extended : LabelTable}
    {automaton : RuleAutomaton}
    (success : automatonOf symbolIds vocabulary index rule table = .ok (automaton, extended)) :
    table.Extends extended ∧ (table.Indexed → extended.Indexed) ∧
      AutomatonOf symbolIds vocabulary extended index rule automaton := by
  unfold automatonOf at success
  split at success
  · cases success
  · rename_i body resolvedTable resolveSuccess
    simp only at success
    split at success
    · cases success
    · rename_i notTooMany
      cases success
      have resolves := resolves_of_resolve resolveSuccess
      exact ⟨resolves.grows, resolves.indexed,
        { body := ⟨body, resolves.shape, rfl⟩
          name := rfl
          symbol := rfl
          bounded := Nat.le_of_not_lt notTooMany
          table_eq := rfl }⟩

theorem automataOf_spec {index : Nat} {rules : List Rule} {table final : LabelTable}
    {automata : List RuleAutomaton}
    (success : automataOf symbolIds vocabulary index rules table = .ok (automata, final)) :
    table.Extends final ∧ (table.Indexed → final.Indexed) ∧
      automata.length = rules.length ∧
      ∀ (offset : Nat) rule automaton, rules[offset]? = some rule →
        automata[offset]? = some automaton →
        AutomatonOf symbolIds vocabulary final (index + offset) rule automaton := by
  induction rules generalizing index table automata with
  | nil =>
      cases success
      exact ⟨List.prefix_refl _, id, rfl, by simp⟩
  | cons rule later inductionHypothesis =>
      unfold automataOf at success
      split at success
      · cases success
      · rename_i automaton extended firstSuccess
        split at success
        · cases success
        · rename_i laterAutomata final laterSuccess
          cases success
          obtain ⟨firstGrows, firstIndexed, isFirst⟩ := automatonOf_spec firstSuccess
          obtain ⟨laterGrows, laterIndexed, counted, areLater⟩ :=
            inductionHypothesis laterSuccess
          refine ⟨firstGrows.trans laterGrows, fun indexed => laterIndexed (firstIndexed indexed),
            congrArg Nat.succ counted, ?_⟩
          intro offset tested testedAutomaton ruleFound automatonFound
          cases offset with
          | zero =>
              simp only [List.getElem?_cons_zero, Option.some.injEq] at ruleFound automatonFound
              subst ruleFound automatonFound
              exact isFirst.mono laterGrows
          | succ offset =>
              simp only [List.getElem?_cons_succ] at ruleFound automatonFound
              rw [show index + (offset + 1) = index + 1 + offset by omega]
              exact areLater offset tested testedAutomaton ruleFound automatonFound

/-! ## Compiled grammars -/

/-- What is known of a grammar that was compiled from rules. -/
structure Compiled (rules : List Rule) (vocabulary : Vocabulary) (grammar : Grammar) :
    Prop where
  capacity : rules.length ≤ SymbolId.ruleCapacity
  symbolIds : grammar.symbolIds = symbolsOf rules
  indexed : grammar.labelTable.Indexed
  length : grammar.automata.length = rules.length
  automaton : ∀ (index : Nat) rule automaton, rules[index]? = some rule →
    grammar.automata[index]? = some automaton →
    AutomatonOf grammar.symbolIds vocabulary grammar.labelTable index rule automaton
  /-- The first sets are those of the automata without first sets. -/
  first : ∃ bare firstSets, First.firstSets bare grammar.labels = .ok firstSets ∧
    grammar.automata = bare.zipWith (fun automaton first => { automaton with first }) firstSets

theorem length_of_firstSets {automata : List RuleAutomaton} {labels : List Label}
    {sets : List NatSet} (success : First.firstSets automata labels = .ok sets) :
    sets.length = automata.length := by
  unfold First.firstSets at success
  split at success
  · cases success
  · cases success
    rw [List.length_map, List.length_range]

theorem compiled_of_assemble {rules : List Rule} {start : Option String} {grammar : Grammar}
    (capacity : rules.length ≤ SymbolId.ruleCapacity)
    (assembled : assemble rules vocabulary start = .ok grammar) :
    Compiled rules vocabulary grammar := by
  unfold assemble at assembled
  simp only at assembled
  split at assembled
  · cases assembled
  · split at assembled
    · cases assembled
    · rename_i bare labelTable automataSuccess
      split at assembled
      · cases assembled
      · rename_i firstSets firstSuccess
        cases assembled
        obtain ⟨_, indexed, counted, areAutomata⟩ := automataOf_spec automataSuccess
        have setCount := length_of_firstSets firstSuccess
        refine
          { capacity
            symbolIds := rfl
            indexed := indexed LabelTable.indexed_empty
            length := by simp [counted, setCount]
            automaton := ?_
            first := ⟨bare, firstSets, firstSuccess, rfl⟩ }
        intro index rule automaton ruleFound automatonFound
        obtain ⟨bareAutomaton, first, bareFound, _, rfl⟩ :=
          List.getElem?_zipWith_eq_some.mp automatonFound
        have isAutomaton := areAutomata index rule bareAutomaton ruleFound bareFound
        rw [Nat.zero_add] at isAutomaton
        exact { isAutomaton with }

/-- A grammar that was built is compiled from its rules; if ambiguity is refused, it has
passed the check. -/
theorem compiled_of_build {rules : List Rule} {start : Option String}
    {policy : AmbiguityPolicy} {grammar : Grammar}
    (built : build rules vocabulary start policy = .ok grammar) :
    Compiled rules vocabulary grammar ∧
      (policy = .reject → Ambiguity.check grammar = .ok ()) := by
  unfold build at built
  split at built
  · cases built
  · rename_i withinCapacity
    split at built
    · cases built
    · rename_i assembledGrammar underPolicy
      cases built
      unfold assembleUnder at underPolicy
      split at underPolicy
      · cases underPolicy
      · rename_i assembledGrammar assembled
        have compiled := compiled_of_assemble (Nat.le_of_not_lt withinCapacity) assembled
        cases policy with
        | firstWins =>
            cases underPolicy
            exact ⟨compiled, fun isReject => by cases isReject⟩
        | reject =>
            simp only at underPolicy
            split at underPolicy
            · cases underPolicy
            · rename_i checked
              cases underPolicy
              exact ⟨compiled, fun _ => checked⟩

theorem exists_ok_of_isOk {Failure Value : Type} {outcome : Except Failure Value}
    (success : outcome.isOk = true) : ∃ value, outcome = .ok value := by
  cases outcome with
  | ok value => exact ⟨value, rfl⟩
  | error failure => cases success

theorem eq_ok_of_toOption {Failure Value : Type} {outcome : Except Failure Value} {value : Value}
    (isValue : outcome.toOption = some value) : outcome = .ok value := by
  cases outcome with
  | error failure => cases isValue
  | ok result => rw [Option.some.inj isValue]

/-- Compiling a text is reading its rules and building the grammar. -/
theorem compile_eq_ok {source : String} {start : Option String}
    {policy : AmbiguityPolicy} {grammar : Grammar}
    (compiled : compile source vocabulary start policy = .ok grammar) :
    ∃ rules, GrammarText.readRules source = .ok rules ∧
      build rules vocabulary start policy = .ok grammar := by
  unfold compile at compiled
  split at compiled
  · cases compiled
  · rename_i rules read
    exact ⟨rules, read, compiled⟩

end Grammar

end RuleMachine
