import RuleMachine.Proofs.Lookahead

/-!
# Derivations in predictive grammars

In a predictive grammar the next token announces the subtree that comes next in a
derivation, so there is at most one derivation of an input.
-/

namespace RuleMachine.Grammar

variable {grammar : Grammar} {automaton sub : RuleAutomaton} {symbol subSymbol : SymbolId}
  {state target last : Nat} {input middle rest : List Token} {children inner : List Tree}
  {arc : Arc}

theorem Predictive.inner_ne_nil (predictive : Predictive grammar)
    (found : grammar.automaton? symbol = some automaton)
    (isArc : arc ∈ automaton.arcsAt state)
    (isSub : grammar.subAutomaton? arc.label = some sub)
    (derives : Derives grammar sub 0 input inner last middle)
    (ends : grammar.Ends sub last middle) : inner ≠ [] := by
  intro isEmpty
  subst isEmpty
  cases derives with
  | refl =>
      exact predictive.nonempty symbol automaton found state arc isArc sub isSub ends.accepting

/-- An arc into a rule can be taken on what the initial state of the rule can be left on. -/
theorem Predictive.answers_of_sub (predictive : Predictive grammar)
    (isSub : grammar.subAutomaton? arc.label = some sub)
    (subFound : grammar.automaton? subSymbol = some sub) {innerArc : Arc} {token : Token}
    {label : LabelId} (isInnerArc : innerArc ∈ sub.arcsAt 0)
    (isCandidate : label ∈ grammar.classify token) (answers : grammar.Answers innerArc label) :
    grammar.Answers arc label := by
  have isFirst := predictive.first subSymbol sub subFound innerArc isInnerArc token label
    isCandidate answers
  exact .inr ⟨sub, isSub, isFirst⟩

/-- The first subtree of a derivation is announced by the first token of the input. -/
theorem Predictive.exists_answer (predictive : Predictive grammar)
    (found : grammar.automaton? symbol = some automaton)
    (derives : Derives grammar automaton state input children target rest)
    (notEmpty : children ≠ []) :
    ∃ token later, input = token :: later ∧ ∃ arc ∈ automaton.arcsAt state,
      ∃ label ∈ grammar.classify token, grammar.Answers arc label := by
  induction derives generalizing symbol with
  | refl => exact absurd rfl notEmpty
  | @token _ _ _ token input _ _ arc isArc isCandidate _ _ =>
      exact ⟨token, input, rfl, arc, isArc, arc.label, isCandidate, .inl rfl⟩
  | @rule _ sub _ _ _ _ _ _ _ _ arc subSymbol _ isArc isRule subFound derives ends _
      innerHypothesis _ =>
      have isSub := subAutomaton?_eq_some.mpr ⟨subSymbol, isRule, subFound⟩
      have innerNotEmpty := predictive.inner_ne_nil found isArc isSub derives ends
      obtain ⟨token, later, rfl, innerArc, isInnerArc, label, isCandidate, answers⟩ :=
        innerHypothesis subFound innerNotEmpty
      exact ⟨token, later, rfl, arc, isArc, label, isCandidate,
        predictive.answers_of_sub isSub subFound isInnerArc isCandidate answers⟩

/-- What a rule derives is announced by a label of its first set. -/
theorem Predictive.announced (predictive : Predictive grammar)
    (found : grammar.automaton? symbol = some automaton)
    (isArc : arc ∈ automaton.arcsAt state)
    (isRule : grammar.labelTable.get? arc.label = some (.rule subSymbol))
    (subFound : grammar.automaton? subSymbol = some sub)
    (derives : Derives grammar sub 0 input inner last middle)
    (ends : grammar.Ends sub last middle) :
    ∃ token later, input = token :: later ∧
      ∃ label ∈ grammar.classify token, grammar.Answers arc label := by
  have isSub := subAutomaton?_eq_some.mpr ⟨subSymbol, isRule, subFound⟩
  have notEmpty := predictive.inner_ne_nil found isArc isSub derives ends
  obtain ⟨token, later, rfl, innerArc, isInnerArc, label, isCandidate, answers⟩ :=
    predictive.exists_answer subFound derives notEmpty
  exact ⟨token, later, rfl, label, isCandidate,
    predictive.answers_of_sub isSub subFound isInnerArc isCandidate answers⟩

theorem Predictive.eq_nil_of_ends (predictive : Predictive grammar)
    (found : grammar.automaton? symbol = some automaton)
    (derives : Derives grammar automaton state input children target rest)
    (ends : grammar.Ends automaton state input) : children = [] := by
  by_contra notEmpty
  obtain ⟨token, later, rfl, arc, isArc, label, isCandidate, answers⟩ :=
    predictive.exists_answer found derives notEmpty
  exact ends.blocked arc isArc label isCandidate answers

theorem Predictive.derives_unique (predictive : Predictive grammar)
    (found : grammar.automaton? symbol = some automaton)
    (derives : Derives grammar automaton state input children target rest)
    (ends : grammar.Ends automaton target rest)
    {otherChildren : List Tree} {otherTarget : Nat} {otherRest : List Token}
    (other : Derives grammar automaton state input otherChildren otherTarget otherRest)
    (otherEnds : grammar.Ends automaton otherTarget otherRest) :
    children = otherChildren ∧ rest = otherRest := by
  induction derives generalizing symbol otherChildren otherTarget otherRest with
  | refl =>
      obtain rfl := predictive.eq_nil_of_ends found other ends
      cases other with
      | refl => exact ⟨rfl, rfl⟩
  | @token _ _ _ token _ _ _ arc isArc isCandidate derives inductionHypothesis =>
      cases other with
      | refl =>
          exact absurd (.inl rfl) (otherEnds.blocked arc isArc arc.label isCandidate)
      | token isOtherArc isOtherCandidate otherDerives =>
          obtain rfl := predictive.unique symbol _ found _ arc isArc _ isOtherArc token
            arc.label isCandidate _ isOtherCandidate (.inl rfl) (.inl rfl)
          obtain ⟨rfl, rfl⟩ := inductionHypothesis found ends otherDerives otherEnds
          exact ⟨rfl, rfl⟩
      | rule _ isOtherArc isRule subFound innerDerives innerEnds _ =>
          obtain ⟨_, _, input_eq, label, isOtherCandidate, answers⟩ :=
            predictive.announced found isOtherArc isRule subFound innerDerives innerEnds
          cases input_eq
          obtain rfl := predictive.unique symbol _ found _ arc isArc _ isOtherArc token
            arc.label isCandidate label isOtherCandidate (.inl rfl) answers
          have isSub := subAutomaton?_eq_some.mpr ⟨_, isRule, subFound⟩
          rw [predictive.terminal token arc.label isCandidate] at isSub
          cases isSub
  | @rule _ sub _ _ _ _ _ _ inner _ arc subSymbol entry isArc isRule subFound innerDerives
      innerEnds _ innerHypothesis inductionHypothesis =>
      have isSub := subAutomaton?_eq_some.mpr ⟨subSymbol, isRule, subFound⟩
      have notEmpty := predictive.inner_ne_nil found isArc isSub innerDerives innerEnds
      obtain ⟨token, later, rfl, label, isCandidate, answers⟩ :=
        predictive.announced found isArc isRule subFound innerDerives innerEnds
      cases other with
      | refl => exact absurd answers (otherEnds.blocked arc isArc label isCandidate)
      | token isOtherArc isOtherCandidate otherDerives =>
          obtain rfl := predictive.unique symbol _ found _ arc isArc _ isOtherArc token
            label isCandidate _ isOtherCandidate answers (.inl rfl)
          rw [predictive.terminal token arc.label isOtherCandidate] at isSub
          cases isSub
      | rule otherEntry isOtherArc isOtherRule otherFound otherInner otherInnerEnds
          otherDerives =>
          obtain ⟨_, _, input_eq, otherLabel, isOtherCandidate, otherAnswers⟩ :=
            predictive.announced found isOtherArc isOtherRule otherFound otherInner
              otherInnerEnds
          cases input_eq
          obtain rfl := predictive.unique symbol _ found _ arc isArc _ isOtherArc token
            label isCandidate otherLabel isOtherCandidate answers otherAnswers
          cases isRule.symm.trans isOtherRule
          cases subFound.symm.trans otherFound
          obtain ⟨rfl, rfl⟩ := innerHypothesis subFound innerEnds otherInner otherInnerEnds
          obtain ⟨rfl, rfl⟩ := inductionHypothesis found ends otherDerives otherEnds
          cases inner with
          | nil => exact absurd rfl notEmpty
          | cons child later => exact ⟨rfl, rfl⟩

theorem Predictive.isParse_unique (predictive : Predictive grammar) {start : SymbolId}
    {tokens : List Token} {tree other : Tree} (isParse : IsParse grammar start tokens tree)
    (isOther : IsParse grammar start tokens other) : other = tree := by
  cases isParse with
  | intro found derives ends _ =>
      cases isOther with
      | intro otherFound otherDerives otherEnds _ =>
          cases found.symm.trans otherFound
          obtain ⟨rfl, _⟩ :=
            predictive.derives_unique found derives ends otherDerives otherEnds
          rfl

end RuleMachine.Grammar
