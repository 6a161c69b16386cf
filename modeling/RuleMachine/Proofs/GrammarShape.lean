import RuleMachine.Proofs.FirstSets
import RuleMachine.Proofs.LabelTables

/-!
# The shape of compiled grammars

Every number in a compiled grammar leads somewhere.  An arc carries the label of a
term of its rule, whatever was renumbered on the way from the expression to the
automaton; a rule label bears the symbol of a rule that has an automaton; and first
sets hold terminal labels only, because the rules that a rule begins with have lower
ranks.
-/

namespace RuleMachine

/-! ## Labels of arcs -/

namespace Nfa

variable {Label : Type}

/-- An edge added for an expression reads a term of the expression. -/
theorem mem_terms_of_mem_addExpr {nfa : Nfa Label} {expression : Expr Label}
    {edge : Edge Label} {label : Label} (member : edge ∈ (nfa.addExpr expression).1.edges)
    (reads : edge.label = some label) : edge ∈ nfa.edges ∨ label ∈ expression.terms := by
  induction expression generalizing nfa with
  | term value =>
      rcases List.mem_cons.mp member with rfl | isOld
      · exact .inr (List.mem_singleton.mpr (Option.some.inj reads).symm)
      · exact .inl isOld
  | seq left right leftHypothesis rightHypothesis =>
      rcases List.mem_cons.mp member with rfl | inParts
      · cases reads
      · rcases rightHypothesis inParts with inLeft | inRight
        · exact (leftHypothesis inLeft).imp_right (List.mem_append_left _)
        · exact .inr (List.mem_append_right _ inRight)
  | alt left right leftHypothesis rightHypothesis =>
      have inParts : edge ∈ ((nfa.addExpr left).1.addExpr right).1.edges := by
        simp only [addExpr, addChoice, addEpsilon, List.mem_cons] at member
        rcases member with rfl | rfl | rfl | rfl | inParts
        · cases reads
        · cases reads
        · cases reads
        · cases reads
        · exact inParts
      rcases rightHypothesis inParts with inLeft | inRight
      · exact (leftHypothesis inLeft).imp_right (List.mem_append_left _)
      · exact .inr (List.mem_append_right _ inRight)
  | opt body inductionHypothesis =>
      rcases List.mem_cons.mp member with rfl | inBody
      · cases reads
      · exact inductionHypothesis inBody
  | plus body inductionHypothesis =>
      rcases List.mem_cons.mp member with rfl | inBody
      · cases reads
      · exact inductionHypothesis inBody
  | star body inductionHypothesis =>
      simp only [addExpr, addEpsilon, List.mem_cons] at member
      rcases member with rfl | rfl | inBody
      · cases reads
      · cases reads
      · exact inductionHypothesis inBody

theorem map_label_arcsOn (nfa : Nfa Nat) (set : NatSet) (labels : List Nat)
    (roster : Roster NatSet) : (nfa.arcsOn set roster labels).1.map Arc.label = labels := by
  induction labels generalizing roster with
  | nil => rfl
  | cons label later inductionHypothesis =>
      exact congrArg (List.cons label) (inductionHypothesis _)

theorem exists_edge_of_mem_expand {nfa : Nfa Nat} {accept count current : Nat}
    {roster : Roster NatSet} {state : State} {arc : Arc}
    (isState : state ∈ nfa.expand accept count roster current) (isArc : arc ∈ state.arcs) :
    ∃ edge ∈ nfa.edges, edge.label = some arc.label := by
  induction count generalizing roster current with
  | zero => cases isState
  | succ count inductionHypothesis =>
      unfold expand at isState
      split at isState
      · cases isState
      · rename_i set isSet
        rcases List.mem_cons.mp isState with rfl | isLater
        · have isLabel : arc.label ∈ (nfa.labelsFrom set).elements := by
            rw [← nfa.map_label_arcsOn set (nfa.labelsFrom set).elements roster]
            exact List.mem_map.mpr ⟨arc, isArc, rfl⟩
          obtain ⟨target, isTarget⟩ := mem_labelsFrom.mp isLabel
          obtain ⟨source, _, isEdge⟩ := mem_targetsOn.mp isTarget
          exact ⟨_, isEdge, rfl⟩
        · exact inductionHypothesis isLater

end Nfa

namespace Dfa

/-- Merging twins gives arcs no new labels. -/
theorem exists_arc_of_mem_mergeTwins {states : List State} {state : State} {arc : Arc}
    (isState : state ∈ mergeTwins states) (isArc : arc ∈ state.arcs) :
    ∃ old ∈ states, ∃ oldArc ∈ old.arcs, oldArc.label = arc.label := by
  obtain ⟨newPlace, renames⟩ := exists_renames_mergeTwins states
  obtain ⟨old, isOld, rfl⟩ := renames.exists_of_mem isState
  obtain ⟨oldArc, isOldArc, rfl⟩ := State.mem_arcs_rename.mp isArc
  exact ⟨old, isOld, oldArc, isOldArc, rfl⟩

/-- The arcs of the automaton of an expression carry terms of the expression. -/
theorem label_mem_terms_of_mem_ofExpr {expression : Expr Nat} {state : State} {arc : Arc}
    (isState : state ∈ ofExpr expression) (isArc : arc ∈ state.arcs) :
    arc.label ∈ expression.terms := by
  obtain ⟨old, isOld, oldArc, isOldArc, sameLabel⟩ :=
    exists_arc_of_mem_mergeTwins isState isArc
  obtain ⟨edge, isEdge, reads⟩ := Nfa.exists_edge_of_mem_expand isOld isOldArc
  rw [sameLabel] at reads
  exact (Nfa.mem_terms_of_mem_addExpr isEdge reads).resolve_left List.not_mem_nil

end Dfa

theorem Expr.SameShape.exists_related {Term Other : Type} {related : Term → Other → Prop}
    {expression : Expr Term} {other : Expr Other} (shape : SameShape related expression other)
    {value : Other} (isTerm : value ∈ other.terms) : ∃ term, related term value := by
  induction shape with
  | term isRelated =>
      rw [List.mem_singleton.mp isTerm]
      exact ⟨_, isRelated⟩
  | seq _ _ leftHypothesis rightHypothesis
  | alt _ _ leftHypothesis rightHypothesis =>
      rcases List.mem_append.mp isTerm with inLeft | inRight
      · exact leftHypothesis inLeft
      · exact rightHypothesis inRight
  | opt _ inductionHypothesis
  | plus _ inductionHypothesis
  | star _ inductionHypothesis => exact inductionHypothesis isTerm

theorem RuleAutomaton.mem_arcsAt {automaton : RuleAutomaton} {state : Nat} {arc : Arc} :
    arc ∈ automaton.arcsAt state ↔
      ∃ found, automaton.states[state]? = some found ∧ arc ∈ found.arcs := by
  unfold arcsAt
  cases automaton.states[state]? <;> simp

theorem RuleAutomaton.exists_mem_states_of_mem_arcsAt {automaton : RuleAutomaton}
    {state : Nat} {arc : Arc} (isArc : arc ∈ automaton.arcsAt state) :
    ∃ found ∈ automaton.states, arc ∈ found.arcs := by
  obtain ⟨found, isState, inFound⟩ := mem_arcsAt.mp isArc
  exact ⟨found, List.mem_of_getElem? isState, inFound⟩

/-! ## Symbols -/

theorem SymbolId.toNat_ofRuleIndex {index : Nat} (inRange : index < ruleCapacity) :
    (ofRuleIndex index).toNat = ruleOffset.toNat + index := by
  change index < 65280 at inRange
  rw [ofRuleIndex, UInt16.toNat_add, UInt16.toNat_ofNat']
  change (256 + index % 65536) % 65536 = 256 + index
  omega

theorem SymbolId.ruleIndex_ofRuleIndex {index : Nat} (inRange : index < ruleCapacity) :
    (ofRuleIndex index).ruleIndex = index := by
  change index < 65280 at inRange
  rw [ofRuleIndex, ruleIndex, UInt16.add_comm, UInt16.add_sub_cancel, UInt16.toNat_ofNat']
  exact Nat.mod_eq_of_lt (by omega)

namespace Grammar

variable {rules : List Rule} {vocabulary : Vocabulary} {grammar : Grammar}
  {symbol : SymbolId} {automaton : RuleAutomaton} {label : LabelId} {arc : Arc} {state : Nat}

theorem exists_index_of_symbolsOf {name : String}
    (found : (symbolsOf rules).get? name = some symbol) :
    ∃ (index : Nat) (rule : Rule), rules[index]? = some rule ∧ rule.name = name ∧
      symbol = SymbolId.ofRuleIndex index := by
  obtain ⟨⟨rule, index⟩, member, same⟩ := List.mem_map.mp (Dictionary.mem_of_get?_ofList found)
  obtain ⟨sameName, sameSymbol⟩ := Prod.mk.inj same
  exact ⟨index, rule, List.mem_zipIdx_iff_getElem?.mp member, sameName, sameSymbol.symm⟩

/-! ## Compiled grammars -/

theorem AutomatonOf.exists_label_of_mem_states {symbolIds : Dictionary String SymbolId}
    {table : LabelTable} {index : Nat} {rule : Rule} {found : State}
    (isOf : AutomatonOf symbolIds vocabulary table index rule automaton)
    (isState : found ∈ automaton.states) (isArc : arc ∈ found.arcs) :
    ∃ arcLabel, table.get? arc.label = some arcLabel := by
  obtain ⟨resolved, shape, states_eq⟩ := isOf.body
  rw [states_eq] at isState
  obtain ⟨term, arcLabel, _, isLabel⟩ :=
    shape.exists_related (Dfa.label_mem_terms_of_mem_ofExpr isState isArc)
  exact ⟨arcLabel, isLabel⟩

theorem Compiled.exists_label_of_mem_states (compiled : Compiled rules vocabulary grammar)
    {found : State} (isAutomaton : automaton ∈ grammar.automata)
    (isState : found ∈ automaton.states) (isArc : arc ∈ found.arcs) :
    ∃ arcLabel, grammar.labelTable.get? arc.label = some arcLabel := by
  obtain ⟨index, isIndexed⟩ := List.mem_iff_getElem?.mp isAutomaton
  obtain ⟨rule, isOf⟩ := compiled.exists_automatonOf isIndexed
  exact isOf.exists_label_of_mem_states isState isArc

theorem Compiled.exists_label_of_mem_arcsAt (compiled : Compiled rules vocabulary grammar)
    (isAutomaton : automaton ∈ grammar.automata) (isArc : arc ∈ automaton.arcsAt state) :
    ∃ arcLabel, grammar.labelTable.get? arc.label = some arcLabel := by
  obtain ⟨found, isState, inFound⟩ := RuleAutomaton.exists_mem_states_of_mem_arcsAt isArc
  exact compiled.exists_label_of_mem_states isAutomaton isState inFound

theorem mem_automata_of_automaton? (found : grammar.automaton? symbol = some automaton) :
    automaton ∈ grammar.automata :=
  List.mem_of_getElem? (getElem?_of_automaton? found)

theorem Compiled.automaton?_symbol (compiled : Compiled rules vocabulary grammar)
    (isAutomaton : automaton ∈ grammar.automata) :
    grammar.automaton? automaton.symbol = some automaton := by
  obtain ⟨index, isIndexed⟩ := List.mem_iff_getElem?.mp isAutomaton
  obtain ⟨rule, isOf⟩ := compiled.exists_automatonOf isIndexed
  obtain ⟨inRange, _⟩ := List.getElem?_eq_some_iff.mp isIndexed
  rw [compiled.length] at inRange
  rw [compiled.automaton?_eq, isOf.symbol,
    SymbolId.ruleIndex_ofRuleIndex (Nat.lt_of_lt_of_le inRange compiled.capacity), isIndexed]

/-- A rule label bears the symbol of a rule of the grammar. -/
theorem Compiled.exists_automaton_of_rule (compiled : Compiled rules vocabulary grammar)
    (exact : grammar.labelTable.Exact grammar.symbolIds vocabulary)
    (isRule : grammar.labelTable.get? label = some (.rule symbol)) :
    ∃ sub, grammar.automaton? symbol = some sub := by
  obtain ⟨name, found⟩ := exact.fits label (.rule symbol) isRule
  rw [compiled.symbolIds] at found
  obtain ⟨index, rule, ruleFound, _, rfl⟩ := exists_index_of_symbolsOf found
  obtain ⟨inRange, _⟩ := List.getElem?_eq_some_iff.mp ruleFound
  have hasAutomaton : index < grammar.automata.length := by
    rw [compiled.length]
    exact inRange
  have withinCapacity := Nat.lt_of_lt_of_le inRange compiled.capacity
  rw [compiled.automaton?_eq, SymbolId.ruleIndex_ofRuleIndex withinCapacity]
  exact ⟨_, List.getElem?_eq_getElem hasAutomaton⟩

/-- A label of the grammar that single tokens match. -/
def IsTerminal (grammar : Grammar) (label : LabelId) : Prop :=
  ∃ terminal, grammar.labelTable.get? label = some terminal ∧ terminal.isTerminal = true

theorem Compiled.isTerminal_of_mem_first (compiled : Compiled rules vocabulary grammar)
    (found : grammar.automaton? symbol = some automaton) (isFirst : label ∈ automaton.first) :
    grammar.IsTerminal label := by
  obtain ⟨rank, _, descending⟩ := compiled.exists_rank
  -- The rules that a rule begins with have lower ranks.
  induction bound : rank symbol using Nat.strong_induction_on generalizing symbol automaton with
  | _ bound inductionHypothesis =>
      obtain ⟨arc, isArc, isReachable⟩ := (compiled.mem_first_iff found).mp isFirst
      obtain ⟨arcLabel, isLabel⟩ :=
        compiled.exists_label_of_mem_arcsAt (mem_automata_of_automaton? found) isArc
      unfold reachable at isReachable
      cases arcLabel with
      | rule subSymbol =>
          simp only [isLabel] at isReachable
          split at isReachable
          · rename_i sub subFound
            have lower := descending symbol automaton arc subSymbol sub found isArc isLabel subFound
            exact inductionHypothesis (rank subSymbol) (bound ▸ lower) subFound isReachable rfl
          · cases isReachable
      | keyword | operator | token =>
          simp only [isLabel, List.mem_singleton] at isReachable
          exact ⟨_, isReachable ▸ isLabel, rfl⟩

theorem Compiled.isTerminal_of_mem_reachable (compiled : Compiled rules vocabulary grammar)
    (isAutomaton : automaton ∈ grammar.automata) (isArc : arc ∈ automaton.arcsAt state)
    (isReachable : label ∈ grammar.reachable arc.label) : grammar.IsTerminal label := by
  obtain ⟨arcLabel, isLabel⟩ := compiled.exists_label_of_mem_arcsAt isAutomaton isArc
  unfold reachable at isReachable
  cases arcLabel with
  | rule subSymbol =>
      simp only [isLabel] at isReachable
      split at isReachable
      · rename_i sub subFound
        exact compiled.isTerminal_of_mem_first subFound isReachable
      · cases isReachable
  | keyword | operator | token =>
      simp only [isLabel, List.mem_singleton] at isReachable
      exact ⟨_, isReachable ▸ isLabel, rfl⟩

end Grammar

end RuleMachine
