import RuleMachine.Proofs.FirstSets
import RuleMachine.Proofs.Moves
import Mathlib.Data.List.Pairwise

/-!
# One token of look-ahead

A grammar that passed the check for ambiguity is predictive: at most one arc of a
state can be taken on a token, whichever of its candidate labels is looked at, and
no rule that is descended into can match nothing.
-/

namespace RuleMachine

namespace Ambiguity

variable {grammar : Grammar} {rule : String} {labels : List Label}

theorem overlaps_comm (left right : LabelId) :
    overlaps labels left right = overlaps labels right left := by
  unfold overlaps
  rw [Bool.beq_comm]
  congr 1
  cases labels[left]? with
  | none =>
      cases labels[right]? with
      | none => rfl
      | some rightLabel => cases rightLabel <;> rfl
  | some leftLabel =>
      cases labels[right]? with
      | none => cases leftLabel <;> rfl
      | some rightLabel => cases leftLabel <;> cases rightLabel <;> rfl

/-- No terminal of one arc overlaps with a terminal of another arc. -/
def Apart (grammar : Grammar) (left right : Arc) : Prop :=
  left.label ≠ right.label → ∀ terminal ∈ grammar.reachable left.label,
    ∀ other ∈ grammar.reachable right.label, overlaps grammar.labels terminal other = false

theorem Apart.symm {left right : Arc} (apart : Apart grammar left right) :
    Apart grammar right left := by
  intro differs terminal isTerminal other isOther
  rw [overlaps_comm]
  exact apart (Ne.symm differs) other isOther terminal isTerminal

/-! ## What the check has seen -/

theorem claimTerminals_spec {arc : LabelId} {terminals : List LabelId}
    {owners extended : List Owner}
    (success : claimTerminals grammar rule arc terminals owners = .ok extended) :
    extended = owners ++ terminals.map (fun terminal => ⟨terminal, arc⟩) ∧
      ∀ terminal ∈ terminals, ∀ owner ∈ owners, owner.arc ≠ arc →
        overlaps grammar.labels owner.terminal terminal = false := by
  induction terminals generalizing owners with
  | nil =>
      cases success
      simp
  | cons terminal later inductionHypothesis =>
      unfold claimTerminals at success
      simp only at success
      split at success
      · cases success
      · rename_i noClash
        obtain ⟨rfl, laterFree⟩ := inductionHypothesis success
        refine ⟨by simp, ?_⟩
        intro tested member owner isOwner differs
        rcases List.mem_cons.mp member with rfl | inLater
        · have noOverlap := List.find?_eq_none.mp noClash owner isOwner
          simpa [differs] using noOverlap
        · exact laterFree tested inLater owner (List.mem_append_left _ isOwner) differs

theorem checkArcs_spec {arcs : List Arc} {owners : List Owner}
    (success : checkArcs grammar rule arcs owners = .ok ()) :
    (∀ arc ∈ arcs, ∀ sub, grammar.subAutomaton? arc.label = some sub →
        sub.isAccepting 0 = false) ∧
      (∀ arc ∈ arcs, ∀ terminal ∈ grammar.reachable arc.label, ∀ owner ∈ owners,
        owner.arc ≠ arc.label → overlaps grammar.labels owner.terminal terminal = false) ∧
      arcs.Pairwise (Apart grammar) := by
  induction arcs generalizing owners with
  | nil => simp
  | cons arc later inductionHypothesis =>
      unfold checkArcs at success
      split at success
      · cases success
      · rename_i descends
        split at success
        · cases success
        · rename_i extended claimed
          obtain ⟨rfl, arcFree⟩ := claimTerminals_spec claimed
          obtain ⟨laterDescends, laterFree, laterApart⟩ := inductionHypothesis success
          refine ⟨?_, ?_, ?_⟩
          · intro tested member sub isSub
            rcases List.mem_cons.mp member with rfl | inLater
            · simpa [checkDescent, isSub] using descends
            · exact laterDescends tested inLater sub isSub
          · intro tested member terminal isTerminal owner isOwner differs
            rcases List.mem_cons.mp member with rfl | inLater
            · exact arcFree terminal isTerminal owner isOwner differs
            · exact laterFree tested inLater terminal isTerminal owner
                (List.mem_append_left _ isOwner) differs
          · refine List.pairwise_cons.mpr ⟨?_, laterApart⟩
            intro tested inLater differs terminal isTerminal other isOther
            refine laterFree tested inLater other isOther ⟨terminal, arc.label⟩ ?_ differs
            exact List.mem_append_right _ (List.mem_map.mpr ⟨terminal, isTerminal, rfl⟩)

theorem checkArcs_of_checkStates {states : List State}
    (success : checkStates grammar rule states = .ok ()) :
    ∀ state ∈ states, checkArcs grammar rule state.arcs [] = .ok () := by
  induction states with
  | nil => simp
  | cons state later inductionHypothesis =>
      unfold checkStates at success
      split at success
      · cases success
      · rename_i checked
        intro tested member
        rcases List.mem_cons.mp member with rfl | inLater
        · exact checked
        · exact inductionHypothesis success tested inLater

theorem checkStates_of_checkAutomata {automata : List RuleAutomaton}
    (success : checkAutomata grammar automata = .ok ()) :
    ∀ automaton ∈ automata,
      checkStates grammar automaton.name automaton.states = .ok () := by
  induction automata with
  | nil => simp
  | cons automaton later inductionHypothesis =>
      unfold checkAutomata at success
      split at success
      · cases success
      · rename_i checked
        intro tested member
        rcases List.mem_cons.mp member with rfl | inLater
        · exact checked
        · exact inductionHypothesis success tested inLater

theorem check_spec (checked : check grammar = .ok ()) {automaton : RuleAutomaton}
    (isAutomaton : automaton ∈ grammar.automata) (state : Nat) :
    (∀ arc ∈ automaton.arcsAt state, ∀ sub, grammar.subAutomaton? arc.label = some sub →
        sub.isAccepting 0 = false) ∧
      ∀ arc ∈ automaton.arcsAt state, ∀ other ∈ automaton.arcsAt state,
        Apart grammar arc other := by
  unfold RuleAutomaton.arcsAt
  split
  · rename_i found isState
    have statesChecked := checkStates_of_checkAutomata checked automaton isAutomaton
    have arcsChecked :=
      checkArcs_of_checkStates statesChecked found (List.mem_of_getElem? isState)
    obtain ⟨descends, _, apart⟩ := checkArcs_spec arcsChecked
    refine ⟨descends, ?_⟩
    intro arc isArc other isOther
    have symmetric : Std.Symm (Apart grammar) := ⟨fun _ _ => Apart.symm⟩
    refine apart.forall_of_forall ?_ isArc isOther
    intro same _ differs
    exact absurd rfl differs
  · simp

end Ambiguity

namespace Grammar

variable {rules : List Rule} {vocabulary : Vocabulary} {grammar : Grammar} {token : Token}
  {label other : LabelId} {arc otherArc : Arc} {automaton sub : RuleAutomaton}
  {symbol : SymbolId} {state : Nat}

/-! ## Candidate labels -/

theorem exists_operator_of_operatorLabel? (indexed : grammar.labelTable.Indexed)
    (found : grammar.operatorLabel? token = some label) :
    ∃ literal, grammar.labelTable.get? label = some (.operator literal token.kind) := by
  obtain ⟨indexFound, sameKind⟩ := Option.filter_eq_some_iff.mp found
  obtain ⟨kind, isOperator⟩ := indexed.operator _ _ indexFound
  rw [isOperator] at sameKind
  exact ⟨token.value, by rw [isOperator, eq_of_beq sameKind]⟩

theorem not_rule_of_mem_classify (indexed : grammar.labelTable.Indexed)
    (isCandidate : label ∈ grammar.classify token) (symbol : SymbolId) :
    grammar.labelTable.get? label ≠ some (.rule symbol) := by
  unfold classify at isCandidate
  split at isCandidate
  · rename_i keyword isKeyword
    unfold keywordLabel? at isKeyword
    split at isKeyword
    · rw [List.mem_singleton.mp isCandidate, indexed.keyword _ _ isKeyword]
      simp
    · cases isKeyword
  · rcases List.mem_append.mp isCandidate with isOperator | isToken
    · obtain ⟨literal, found⟩ :=
        exists_operator_of_operatorLabel? indexed (Option.mem_toList.mp isOperator)
      rw [found]
      simp
    · rw [indexed.token _ _ (Option.mem_toList.mp isToken)]
      simp

theorem overlaps_of_mem_classify (indexed : grammar.labelTable.Indexed)
    (isCandidate : label ∈ grammar.classify token)
    (isOther : other ∈ grammar.classify token) :
    Ambiguity.overlaps grammar.labels label other = true := by
  have overlaps_self : ∀ label, Ambiguity.overlaps grammar.labels label label = true := by
    intro label
    simp [Ambiguity.overlaps]
  have overlaps_operator : ∀ {operator kind : LabelId},
      grammar.operatorLabel? token = some operator →
      grammar.labelTable.tokenIds.get? token.kind = some kind →
      Ambiguity.overlaps grammar.labels operator kind = true := by
    intro operator kind operatorFound kindFound
    obtain ⟨literal, isOperator⟩ := exists_operator_of_operatorLabel? indexed operatorFound
    have isToken := indexed.token _ _ kindFound
    change grammar.labels[operator]? = _ at isOperator
    change grammar.labels[kind]? = _ at isToken
    simp [Ambiguity.overlaps, isOperator, isToken]
  unfold classify at isCandidate isOther
  split at isCandidate
  · rename_i keyword isKeyword
    simp only [isKeyword] at isOther
    rw [List.mem_singleton.mp isCandidate, List.mem_singleton.mp isOther]
    exact overlaps_self keyword
  · rename_i noKeyword
    simp only [noKeyword] at isOther
    rcases List.mem_append.mp isCandidate with isOperator | isToken
    · have operatorFound := Option.mem_toList.mp isOperator
      rcases List.mem_append.mp isOther with isSame | isToken
      · rw [Option.some.inj (operatorFound.symm.trans (Option.mem_toList.mp isSame))]
        exact overlaps_self other
      · exact overlaps_operator operatorFound (Option.mem_toList.mp isToken)
    · have tokenFound := Option.mem_toList.mp isToken
      rcases List.mem_append.mp isOther with isOperator | isSame
      · rw [Ambiguity.overlaps_comm]
        exact overlaps_operator (Option.mem_toList.mp isOperator) tokenFound
      · rw [Option.some.inj (tokenFound.symm.trans (Option.mem_toList.mp isSame))]
        exact overlaps_self other

/-! ## Predictive grammars -/

theorem Answers.mem_reachable (indexed : grammar.labelTable.Indexed)
    (isCandidate : label ∈ grammar.classify token) (answers : grammar.Answers arc label) :
    label ∈ grammar.reachable arc.label := by
  rcases answers with isLabel | ⟨sub, isSub, isFirst⟩
  · unfold reachable
    split
    · rename_i symbol isRule
      rw [isLabel] at isRule
      exact absurd isRule (not_rule_of_mem_classify indexed isCandidate symbol)
    · exact List.mem_singleton.mpr isLabel.symm
  · obtain ⟨symbol, isRule, found⟩ := subAutomaton?_eq_some.mp isSub
    unfold reachable
    rw [isRule]
    simp only [found]
    exact isFirst

theorem answers_of_mem_reachable (isReachable : label ∈ grammar.reachable arc.label) :
    grammar.Answers arc label := by
  unfold reachable at isReachable
  split at isReachable
  · rename_i symbol isRule
    split at isReachable
    · rename_i sub found
      exact .inr ⟨sub, subAutomaton?_eq_some.mpr ⟨symbol, isRule, found⟩, isReachable⟩
    · cases isReachable
  · exact .inl (List.mem_singleton.mp isReachable).symm

/-- One token decides about every step of a parse. -/
structure Predictive (grammar : Grammar) : Prop where
  faithful : ∀ symbol automaton, grammar.automaton? symbol = some automaton →
    automaton.TableFaithful
  symbol : ∀ symbol automaton, grammar.automaton? symbol = some automaton →
    automaton.symbol = symbol
  /-- Tokens are not matched by rules. -/
  terminal : ∀ token, ∀ label ∈ grammar.classify token, grammar.subAutomaton? label = none
  /-- Only one arc can be taken on a token. -/
  unique : ∀ symbol automaton, grammar.automaton? symbol = some automaton →
    ∀ state, ∀ arc ∈ automaton.arcsAt state, ∀ other ∈ automaton.arcsAt state,
    ∀ token, ∀ label ∈ grammar.classify token, ∀ otherLabel ∈ grammar.classify token,
      grammar.Answers arc label → grammar.Answers other otherLabel → arc = other
  /-- No rule that can match nothing is descended into. -/
  nonempty : ∀ symbol automaton, grammar.automaton? symbol = some automaton →
    ∀ state, ∀ arc ∈ automaton.arcsAt state, ∀ sub,
      grammar.subAutomaton? arc.label = some sub → ¬Dfa.IsAccepting sub.states 0
  /-- What the initial state can be left on is in the first set. -/
  first : ∀ symbol automaton, grammar.automaton? symbol = some automaton →
    ∀ arc ∈ automaton.arcsAt 0, ∀ token, ∀ label ∈ grammar.classify token,
      grammar.Answers arc label → label ∈ automaton.first
  /-- Rules that begin with each other have descending ranks. -/
  ranked : ∃ rank : SymbolId → Nat,
    (∀ symbol automaton, grammar.automaton? symbol = some automaton →
      rank symbol < grammar.automata.length) ∧
    ∀ symbol automaton arc subSymbol sub, grammar.automaton? symbol = some automaton →
      arc ∈ automaton.arcsAt 0 →
      grammar.labelTable.get? arc.label = some (.rule subSymbol) →
      grammar.automaton? subSymbol = some sub → rank subSymbol < rank symbol

theorem predictive_of_check (compiled : Compiled rules vocabulary grammar)
    (checked : Ambiguity.check grammar = .ok ()) : Predictive grammar where
  faithful _ _ found := compiled.tableFaithful found
  symbol _ _ found := compiled.symbol_eq found
  terminal := by
    intro token label isCandidate
    cases isSub : grammar.subAutomaton? label with
    | none => rfl
    | some sub =>
        obtain ⟨symbol, isRule, _⟩ := subAutomaton?_eq_some.mp isSub
        exact absurd isRule (not_rule_of_mem_classify compiled.indexed isCandidate symbol)
  unique := by
    intro symbol automaton found state arc isArc other isOther token label isCandidate
      otherLabel isOtherCandidate answers otherAnswers
    have member := List.mem_of_getElem? (getElem?_of_automaton? found)
    have apart := (Ambiguity.check_spec checked member state).2 arc isArc other isOther
    have overlap := overlaps_of_mem_classify compiled.indexed isCandidate isOtherCandidate
    by_cases sameLabel : arc.label = other.label
    · have faithful := compiled.tableFaithful found
      have target := (faithful.transition state arc.label arc.target).mpr isArc
      have otherTarget := (faithful.transition state other.label other.target).mpr isOther
      rw [sameLabel, otherTarget] at target
      cases arc
      cases other
      cases sameLabel
      cases target
      rfl
    · have noOverlap := apart sameLabel label
        (answers.mem_reachable compiled.indexed isCandidate) otherLabel
        (otherAnswers.mem_reachable compiled.indexed isOtherCandidate)
      cases overlap.symm.trans noOverlap
  nonempty := by
    intro symbol automaton found state arc isArc sub isSub accepting
    have member := List.mem_of_getElem? (getElem?_of_automaton? found)
    have notAccepting := (Ambiguity.check_spec checked member state).1 arc isArc sub isSub
    obtain ⟨subSymbol, _, subFound⟩ := subAutomaton?_eq_some.mp isSub
    rw [((compiled.tableFaithful subFound).accepting 0).mpr accepting] at notAccepting
    cases notAccepting
  first := by
    intro symbol automaton found arc isArc token label isCandidate answers
    rw [compiled.mem_first_iff found]
    exact ⟨arc, isArc, answers.mem_reachable compiled.indexed isCandidate⟩
  ranked := compiled.exists_rank

end Grammar

end RuleMachine
