import RuleMachine.Proofs.AmbiguityCheck

/-!
# Direct arcs and descents

The candidate labels of a token are tried one after the other, and each of them on the arcs
that bear it before the rules that can begin with it.  So a direct arc comes before every
rule that can begin with the same label.  A token that spells an operator has the operator's
kind as a second candidate, though, and a rule that can begin with the operator is entered
before an arc that bears the kind is looked at.  This is the only way in which a rule comes
before a direct arc, and there is none in a grammar that was checked for ambiguity.
-/

namespace RuleMachine

namespace Grammar

variable {vocabulary : Vocabulary} {grammar : Grammar} {token : Token} {label : LabelId}

/-! ## Tokens with one candidate and with two -/

/-- Operators are spelled unlike keywords, so a token that spells one has the operator and
its kind as candidates. -/
theorem classify_of_operatorLabel? (indexed : grammar.labelTable.Indexed)
    (exact : grammar.labelTable.Exact grammar.symbolIds vocabulary)
    (spelled : grammar.operatorLabel? token = some label) :
    grammar.classify token =
      label :: (grammar.labelTable.tokenIds.get? token.kind).toList := by
  obtain ⟨isEntered, _⟩ := Option.filter_eq_some_iff.mp spelled
  obtain ⟨kind, isOperator⟩ := indexed.operator _ _ isEntered
  have notKeyword : grammar.keywordLabel? token = none :=
    keywordLabel?_eq_none indexed exact (exact.fits label _ isOperator).1
  simp [classify, notKeyword, spelled]

theorem classify_of_operatorLabel?_eq_none (notSpelled : grammar.operatorLabel? token = none)
    (isCandidate : label ∈ grammar.classify token) : grammar.classify token = [label] := by
  unfold classify at isCandidate ⊢
  split at isCandidate
  · rw [List.mem_singleton.mp isCandidate]
  · rw [notSpelled] at isCandidate ⊢
    rw [Option.mem_toList.mp isCandidate]
    rfl

end Grammar

namespace Session

variable {rules : List Rule} {vocabulary : Vocabulary} {start : Option String}
  {policy : AmbiguityPolicy} {grammar : Grammar} {automaton : RuleAutomaton}
  {state : Nat} {token : Token} {label : LabelId} {arc : Arc}

/-! ## The move on the first of several labels -/

theorem descent?_eq_none_iff {arcs : List Arc} :
    descent? grammar label arcs = none ↔
      ∀ arc ∈ arcs, ∀ sub, grammar.subAutomaton? arc.label = some sub → label ∉ sub.first := by
  constructor
  · intro missing arc isArc sub isSub
    exact not_mem_first_of_descent?_eq_none missing isArc isSub
  · intro never
    cases found : descent? grammar label arcs with
    | none => rfl
    | some move =>
        obtain ⟨arc, isArc, sub, isSub, isFirst, _⟩ := exists_arc_of_descent? found
        exact absurd isFirst (never arc isArc sub isSub)

theorem findMove?_cons (label : LabelId) (later : List LabelId) :
    findMove? grammar automaton state (label :: later) =
      (moveOn? grammar automaton state label).or (findMove? grammar automaton state later) := by
  unfold findMove?
  rw [List.findSome?_cons]
  cases moveOn? grammar automaton state label <;> rfl

theorem findMove?_cons_of_arc (faithful : automaton.TableFaithful)
    (isArc : arc ∈ automaton.arcsAt state) (later : List LabelId) :
    findMove? grammar automaton state (arc.label :: later) = some (.shift arc.target) := by
  rw [findMove?_cons, moveOn?, (faithful.transition state arc.label arc.target).mpr isArc,
    Option.some_or]

/-- Where no arc bears the first label, the rules are looked at before the other labels. -/
theorem findMove?_cons_of_not_arc (faithful : automaton.TableFaithful)
    (missing : ∀ arc ∈ automaton.arcsAt state, arc.label ≠ label) (later : List LabelId) :
    findMove? grammar automaton state (label :: later) =
      (descent? grammar label (automaton.arcsAt state)).or
        (findMove? grammar automaton state later) := by
  rw [findMove?_cons, moveOn?]
  cases direct : automaton.transition state label with
  | none => rfl
  | some target =>
      have isArc := (faithful.transition state label target).mp direct
      exact absurd rfl (missing _ isArc)

/-! ## The move on a token -/

/-- The token spells an operator that no arc of the state bears, but that a rule which can
be matched in the state can begin with. -/
structure PrefersRule (grammar : Grammar) (automaton : RuleAutomaton) (state : Nat)
    (token : Token) (operator : LabelId) : Prop where
  spelled : grammar.operatorLabel? token = some operator
  missing : ∀ arc ∈ automaton.arcsAt state, arc.label ≠ operator
  begins : ∃ arc ∈ automaton.arcsAt state, ∃ sub,
    grammar.subAutomaton? arc.label = some sub ∧ operator ∈ sub.first

section Direct

variable (indexed : grammar.labelTable.Indexed)
  (exact : grammar.labelTable.Exact grammar.symbolIds vocabulary)
  (faithful : automaton.TableFaithful)

include indexed exact faithful

theorem PrefersRule.exists_descend {operator : LabelId}
    (prefers : PrefersRule grammar automaton state token operator) :
    ∃ target entered, findMove? grammar automaton state (grammar.classify token) =
      some (.descend target entered) := by
  obtain ⟨arc, isArc, sub, isSub, isFirst⟩ := prefers.begins
  rw [Grammar.classify_of_operatorLabel? indexed exact prefers.spelled,
    findMove?_cons_of_not_arc faithful prefers.missing]
  cases found : descent? grammar operator (automaton.arcsAt state) with
  | none => exact absurd isFirst (descent?_eq_none_iff.mp found arc isArc sub isSub)
  | some move =>
      obtain ⟨first, _, entered, _, _, rfl⟩ := exists_arc_of_descent? found
      exact ⟨first.target, entered, rfl⟩

theorem exists_shift_of_arc (isArc : arc ∈ automaton.arcsAt state)
    (isCandidate : arc.label ∈ grammar.classify token)
    (never : ∀ operator, ¬PrefersRule grammar automaton state token operator) :
    ∃ direct ∈ automaton.arcsAt state, direct.label ∈ grammar.classify token ∧
      findMove? grammar automaton state (grammar.classify token) =
        some (.shift direct.target) := by
  cases spelled : grammar.operatorLabel? token with
  | none =>
      refine ⟨arc, isArc, isCandidate, ?_⟩
      rw [Grammar.classify_of_operatorLabel?_eq_none spelled isCandidate]
      exact findMove?_cons_of_arc faithful isArc []
  | some operator =>
      rw [Grammar.classify_of_operatorLabel? indexed exact spelled] at isCandidate ⊢
      by_cases borne : ∃ direct ∈ automaton.arcsAt state, direct.label = operator
      · obtain ⟨direct, isDirect, rfl⟩ := borne
        exact ⟨direct, isDirect, .head _, findMove?_cons_of_arc faithful isDirect _⟩
      · have missing : ∀ direct ∈ automaton.arcsAt state, direct.label ≠ operator :=
          fun direct isDirect same => borne ⟨direct, isDirect, same⟩
        have noDescent : descent? grammar operator (automaton.arcsAt state) = none := by
          apply descent?_eq_none_iff.mpr
          intro first isFirstArc sub isSub isFirst
          exact never operator ⟨spelled, missing, first, isFirstArc, sub, isSub, isFirst⟩
        -- Nothing can be done about the operator, so the arc bears its kind.
        have isKind : grammar.labelTable.tokenIds.get? token.kind = some arc.label := by
          rcases List.mem_cons.mp isCandidate with same | isKind
          · exact absurd same (missing arc isArc)
          · exact Option.mem_toList.mp isKind
        refine ⟨arc, isArc, isCandidate, ?_⟩
        rw [findMove?_cons_of_not_arc faithful missing, noDescent, Option.none_or, isKind]
        exact findMove?_cons_of_arc faithful isArc []

end Direct

theorem not_prefersRule_of_predictive (predictive : Grammar.Predictive grammar)
    (indexed : grammar.labelTable.Indexed)
    (exact : grammar.labelTable.Exact grammar.symbolIds vocabulary) {symbol : SymbolId}
    (found : grammar.automaton? symbol = some automaton)
    (isArc : arc ∈ automaton.arcsAt state) (isCandidate : arc.label ∈ grammar.classify token)
    (operator : LabelId) : ¬PrefersRule grammar automaton state token operator := by
  intro prefers
  obtain ⟨entering, isEntering, sub, isSub, isFirst⟩ := prefers.begins
  have isOperator : operator ∈ grammar.classify token := by
    rw [Grammar.classify_of_operatorLabel? indexed exact prefers.spelled]
    exact .head _
  obtain rfl := predictive.unique symbol automaton found state arc isArc entering isEntering
    token arc.label isCandidate operator isOperator (.inl rfl) (.inr ⟨sub, isSub, isFirst⟩)
  rw [predictive.terminal token arc.label isCandidate] at isSub
  cases isSub

/-- Where an arc bears a candidate of the token, such an arc is taken, unless the token
spells an operator that no arc bears and that a rule can begin with.  In that case, and only
in that case, the rule is entered; a grammar that refuses ambiguity has no such case. -/
theorem findMove?_of_direct_arc
    (built : Grammar.build rules vocabulary start policy = .ok grammar)
    (isAutomaton : automaton ∈ grammar.automata)
    (direct : ∃ arc ∈ automaton.arcsAt state, arc.label ∈ grammar.classify token) :
    ((∃ arc ∈ automaton.arcsAt state, arc.label ∈ grammar.classify token ∧
        findMove? grammar automaton state (grammar.classify token) =
          some (.shift arc.target)) ↔
      ∀ operator, ¬PrefersRule grammar automaton state token operator) ∧
    ((∃ target sub, findMove? grammar automaton state (grammar.classify token) =
        some (.descend target sub)) ↔
      ∃ operator, PrefersRule grammar automaton state token operator) ∧
    (policy = .reject → ∀ operator, ¬PrefersRule grammar automaton state token operator) := by
  obtain ⟨capacity, assembled, checked⟩ := Grammar.build_eq_ok_iff.mp built
  have compiled := Grammar.compiled_of_assemble capacity assembled
  have exact := Grammar.exact_of_assemble assembled
  have found := compiled.automaton?_symbol isAutomaton
  have faithful := compiled.tableFaithful found
  obtain ⟨arc, isArc, isCandidate⟩ := direct
  refine ⟨⟨?_, exists_shift_of_arc compiled.indexed exact faithful isArc isCandidate⟩,
    ⟨?_, ?_⟩, ?_⟩
  · rintro ⟨taken, _, _, shifts⟩ operator prefers
    obtain ⟨target, entered, descends⟩ :=
      prefers.exists_descend compiled.indexed exact faithful
    cases shifts.symm.trans descends
  · rintro ⟨target, entered, descends⟩
    by_contra never
    obtain ⟨taken, _, _, shifts⟩ := exists_shift_of_arc compiled.indexed exact faithful isArc
      isCandidate (not_exists.mp never)
    cases shifts.symm.trans descends
  · rintro ⟨operator, prefers⟩
    exact prefers.exists_descend compiled.indexed exact faithful
  · intro refuses
    have predictive := Grammar.predictive_of_check compiled (checked refuses)
    exact not_prefersRule_of_predictive predictive compiled.indexed exact found isArc
      isCandidate

/-- Any operator, or a rule that begins with one of them. -/
def anyOperatorText : String := "a: OP | b\nb: '+'\n"

def operatorToken (value : String) : Token :=
  ⟨5, value, ⟨1, 0⟩, ""⟩

/-- Whether a move enters another rule. -/
def Move.isDescent : Move → Bool
  | .shift _ => false
  | .descend _ _ => true

theorem exists_descend_of_isDescent {found : Option Move}
    (isDescent : found.map Move.isDescent = some true) :
    ∃ target sub, found = some (.descend target sub) := by
  obtain ⟨move, rfl, descends⟩ := Option.map_eq_some_iff.mp isDescent
  cases move with
  | shift target => cases descends
  | descend target sub => exact ⟨target, sub, rfl⟩

theorem exists_moves_anyOperatorText :
    ∃ rules grammar automaton,
      Grammar.build rules .mini none .firstWins = .ok grammar ∧
      automaton ∈ grammar.automata ∧
      (∀ value ∈ ["+", "-"], ∃ arc ∈ automaton.arcsAt 0,
        arc.label ∈ grammar.classify (operatorToken value)) ∧
      (["+", "-"].map fun value =>
        (findMove? grammar automaton 0 (grammar.classify (operatorToken value))).map
          Move.isDescent) = [some true, some false] := by
  have succeeds : (Grammar.compile anyOperatorText .mini none .firstWins).isOk = true := by
    decide +kernel
  have contents : (Grammar.compile anyOperatorText .mini none .firstWins).map (fun grammar =>
      (grammar.automaton? grammar.start).map fun automaton =>
        (decide (∀ value ∈ ["+", "-"], ∃ arc ∈ automaton.arcsAt 0,
          arc.label ∈ grammar.classify (operatorToken value)),
        ["+", "-"].map fun value =>
          (findMove? grammar automaton 0 (grammar.classify (operatorToken value))).map
            Move.isDescent)) = .ok (some (true, [some true, some false])) := by
    decide +kernel
  obtain ⟨grammar, compiled⟩ := Grammar.exists_ok_of_isOk succeeds
  obtain ⟨rules, _, built⟩ := Grammar.compile_eq_ok compiled
  rw [compiled] at contents
  obtain ⟨automaton, found, contents⟩ := Option.map_eq_some_iff.mp (Except.ok.inj contents)
  obtain ⟨direct, moves⟩ := Prod.mk.inj contents
  exact ⟨rules, grammar, automaton, built, Grammar.mem_automata_of_automaton? found,
    of_decide_eq_true direct, moves⟩

/-- The arc `OP` is taken on `-`, which spells no operator of the grammar; on `+` the rule
`b` is entered. -/
theorem findMove?_of_direct_arc_anyOperatorText :
    ∃ rules grammar automaton,
      Grammar.build rules .mini none .firstWins = .ok grammar ∧
      automaton ∈ grammar.automata ∧
      (∃ arc ∈ automaton.arcsAt 0, arc.label ∈ grammar.classify (operatorToken "-") ∧
        findMove? grammar automaton 0 (grammar.classify (operatorToken "-")) =
          some (.shift arc.target)) ∧
      ∃ operator, PrefersRule grammar automaton 0 (operatorToken "+") operator := by
  obtain ⟨rules, grammar, automaton, built, isAutomaton, direct, moves⟩ :=
    exists_moves_anyOperatorText
  obtain ⟨plusMove, moves⟩ := List.cons.inj moves
  obtain ⟨minusMove, _⟩ := List.cons.inj moves
  have plus := findMove?_of_direct_arc built isAutomaton (direct "+" (by decide))
  have minus := findMove?_of_direct_arc built isAutomaton (direct "-" (by decide))
  refine ⟨rules, grammar, automaton, built, isAutomaton, minus.1.mpr ?_,
    plus.2.1.mp (exists_descend_of_isDescent plusMove)⟩
  intro operator prefers
  obtain ⟨target, sub, descends⟩ := minus.2.1.mpr ⟨operator, prefers⟩
  simp only [descends] at minusMove
  cases minusMove

/-- On `+` the rule `b` is entered though the arc `OP` could be taken. -/
theorem descends_beside_direct_arc :
    ∃ rules grammar automaton,
      Grammar.build rules .mini none .firstWins = .ok grammar ∧
      automaton ∈ grammar.automata ∧
      (∃ arc ∈ automaton.arcsAt 0, arc.label ∈ grammar.classify (operatorToken "+")) ∧
      ∃ target sub, findMove? grammar automaton 0 (grammar.classify (operatorToken "+")) =
        some (.descend target sub) := by
  obtain ⟨rules, grammar, automaton, built, isAutomaton, direct, moves⟩ :=
    exists_moves_anyOperatorText
  exact ⟨rules, grammar, automaton, built, isAutomaton, direct "+" (by decide),
    exists_descend_of_isDescent (List.cons.inj moves).1⟩

end Session

end RuleMachine
