import RuleMachine.Proofs.CheckedReading
import RuleMachine.Proofs.GrammarShape

/-!
# Well-formed grammars

The numbers that a parse follows are stored in the grammar: labels on arcs, targets of
arcs, symbols of rule labels, labels in first sets.  A grammar is well-formed if all of
them lead somewhere and if the symbol of a rule, its name and its place belong together.
What was compiled from a grammar text is well-formed.
-/

namespace RuleMachine

/-- The automaton at a place of a grammar has the symbol and the name of its place, as
many states as a transition table can address, and arcs that lead from labels of the
grammar to states of its own. -/
structure RuleAutomaton.IsPlaced (grammar : Grammar) (index : Nat) (automaton : RuleAutomaton) :
    Prop where
  symbol : automaton.symbol.toNat = SymbolId.ruleOffset.toNat + index
  named : grammar.symbolIds.get? automaton.name = some automaton.symbol
  hasState : 1 ≤ automaton.states.length
  bounded : automaton.states.length ≤ maxStates
  ascending : ∀ state ∈ automaton.states,
    state.arcs.Pairwise fun left right => left.label < right.label
  labelled : ∀ state ∈ automaton.states, ∀ arc ∈ state.arcs, arc.label < grammar.labels.length
  inRange : ∀ state ∈ automaton.states, ∀ arc ∈ state.arcs, arc.target < automaton.states.length
  first : ∀ label ∈ automaton.first, grammar.IsTerminal label

namespace Grammar

/-- Every rule has an automaton at its place, and every rule label leads to one of them. -/
structure WellFormed (rules : List Rule) (grammar : Grammar) : Prop where
  counted : grammar.automata.length = rules.length
  placed : ∀ (index : Nat) rule automaton, rules[index]? = some rule →
    grammar.automata[index]? = some automaton →
    automaton.name = rule.name ∧ automaton.IsPlaced grammar index
  ruled : ∀ label ∈ grammar.labels, ∀ symbol, label = .rule symbol →
    ∃ automaton, grammar.automaton? symbol = some automaton

variable {rules : List Rule} {vocabulary : Vocabulary} {grammar : Grammar}
  {automaton : RuleAutomaton} {index : Nat} {rule : Rule}

/-- Rules with distinct names are found by their names. -/
theorem get?_symbolsOf (distinct : (rules.map Rule.name).Nodup)
    (ruleFound : rules[index]? = some rule) :
    (symbolsOf rules).get? rule.name = some (SymbolId.ofRuleIndex index) := by
  have names_eq : (rules.zipIdx.map fun entry =>
      (entry.1.name, SymbolId.ofRuleIndex entry.2)).map Prod.fst = rules.map Rule.name := by
    rw [List.map_map]
    have firstPart : (Prod.fst ∘ fun entry : Rule × Nat =>
        (entry.1.name, SymbolId.ofRuleIndex entry.2)) = Rule.name ∘ Prod.fst := rfl
    rw [firstPart, ← List.map_map, List.zipIdx_map_fst]
  rw [← names_eq] at distinct
  apply (Dictionary.get?_ofList distinct _ _).mpr
  exact List.mem_map.mpr ⟨(rule, index), List.mem_zipIdx_iff_getElem?.mpr ruleFound, rfl⟩

theorem Compiled.isPlaced (compiled : Compiled rules vocabulary grammar)
    (distinct : (rules.map Rule.name).Nodup) (ruleFound : rules[index]? = some rule)
    (found : grammar.automata[index]? = some automaton) :
    automaton.IsPlaced grammar index := by
  have isOf := compiled.automaton index rule automaton ruleFound found
  have isAutomaton := List.mem_of_getElem? found
  have wellFormed := isOf.wellFormed
  obtain ⟨inRange, _⟩ := List.getElem?_eq_some_iff.mp ruleFound
  have withinCapacity := Nat.lt_of_lt_of_le inRange compiled.capacity
  refine
    { symbol := ?_
      named := ?_
      hasState := wellFormed.nonempty
      bounded := isOf.bounded
      ascending := wellFormed.ascending
      labelled := ?_
      inRange := wellFormed.inRange
      first := ?_ }
  · rw [isOf.symbol]
    exact SymbolId.toNat_ofRuleIndex withinCapacity
  · rw [isOf.name, isOf.symbol, compiled.symbolIds]
    exact get?_symbolsOf distinct ruleFound
  · intro state isState arc isArc
    obtain ⟨label, isLabel⟩ := compiled.exists_label_of_mem_states isAutomaton isState isArc
    obtain ⟨labelInRange, _⟩ := List.getElem?_eq_some_iff.mp isLabel
    exact labelInRange
  · intro label isFirst
    exact compiled.isTerminal_of_mem_first (compiled.automaton?_symbol isAutomaton) isFirst

/-- What was built from the rules of a grammar text is well-formed. -/
theorem wellFormed_of_build {source : String} {start : Option String}
    {policy : AmbiguityPolicy} (read : GrammarText.readRules source = .ok rules)
    (built : build rules vocabulary start policy = .ok grammar) : grammar.WellFormed rules := by
  obtain ⟨_, assembled, _⟩ := build_eq_ok_iff.mp built
  obtain ⟨compiled, _⟩ := compiled_of_build built
  have distinct := GrammarText.nodup_names_of_readRules read
  refine ⟨compiled.length, ?_, ?_⟩
  · intro index rule automaton ruleFound found
    exact ⟨(compiled.automaton index rule automaton ruleFound found).name,
      compiled.isPlaced distinct ruleFound found⟩
  · rintro label isLabel symbol rfl
    obtain ⟨number, isNumber⟩ := List.mem_iff_getElem?.mp isLabel
    exact compiled.exists_automaton_of_rule (exact_of_assemble assembled) isNumber

end Grammar

end RuleMachine
