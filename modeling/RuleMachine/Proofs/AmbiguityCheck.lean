import RuleMachine.Proofs.GrammarShape
import RuleMachine.Proofs.Lookahead
import RuleMachine.Vocabulary.Standard

/-!
# The check for ambiguity is exact

The check compares labels and looks at the initial states of rules.  What it is meant
to rule out is said in other words: a rule that can match nothing, be it through other
rules, and a token that two arcs of a state can be taken on.  Both come to the same.
A rule that can match nothing through other rules descends into one that does so
directly.  And two labels overlap exactly if some token has both of them as candidates:
no token is a keyword and something else, and every other label of a token is that of
its spelling or that of its kind.
-/

namespace RuleMachine

namespace Ambiguity

variable {grammar : Grammar} {rule : String}

/-! ## When the check succeeds -/

theorem claimTerminals_of_free {arc : LabelId} {terminals : List LabelId}
    {owners : List Owner}
    (free : ∀ terminal ∈ terminals, ∀ owner ∈ owners, owner.arc ≠ arc →
      overlaps grammar.labels owner.terminal terminal = false) :
    claimTerminals grammar rule arc terminals owners =
      .ok (owners ++ terminals.map (fun terminal => ⟨terminal, arc⟩)) := by
  induction terminals generalizing owners with
  | nil => simp [claimTerminals]
  | cons terminal later inductionHypothesis =>
      have noClash : (owners.find? fun owner =>
          owner.arc != arc && overlaps grammar.labels owner.terminal terminal) = none := by
        apply List.find?_eq_none.mpr
        intro owner isOwner
        by_cases sameArc : owner.arc = arc
        · simp [sameArc]
        · simp [free terminal (.head later) owner isOwner sameArc]
      have laterFree : ∀ tested ∈ later, ∀ owner ∈ owners ++ [⟨terminal, arc⟩],
          owner.arc ≠ arc → overlaps grammar.labels owner.terminal tested = false := by
        intro tested inLater owner isOwner differs
        rcases List.mem_append.mp isOwner with isOld | isNew
        · exact free tested (.tail terminal inLater) owner isOld differs
        · rw [List.mem_singleton.mp isNew] at differs
          exact absurd rfl differs
      have claimed := inductionHypothesis laterFree
      simp only [claimTerminals, noClash, claimed, List.map_cons, List.append_assoc,
        List.singleton_append]

/-- One token decides which arc of a list to take, as far as labels and initial states
tell. -/
structure Decided (grammar : Grammar) (arcs : List Arc) : Prop where
  descends : ∀ arc ∈ arcs, ∀ sub, grammar.subAutomaton? arc.label = some sub →
    sub.isAccepting 0 = false
  apart : arcs.Pairwise (Apart grammar)

theorem checkDescent_of_not_accepting {arc : LabelId}
    (descends : ∀ sub, grammar.subAutomaton? arc = some sub → sub.isAccepting 0 = false) :
    checkDescent grammar rule arc = .ok () := by
  unfold checkDescent
  cases isSub : grammar.subAutomaton? arc with
  | none => rfl
  | some sub => simp [descends sub isSub]

theorem checkArcs_of_decided {arcs : List Arc} {owners : List Owner}
    (decided : Decided grammar arcs)
    (free : ∀ arc ∈ arcs, ∀ terminal ∈ grammar.reachable arc.label, ∀ owner ∈ owners,
      owner.arc ≠ arc.label → overlaps grammar.labels owner.terminal terminal = false) :
    checkArcs grammar rule arcs owners = .ok () := by
  induction arcs generalizing owners with
  | nil => rfl
  | cons arc later inductionHypothesis =>
      obtain ⟨arcApart, laterApart⟩ := List.pairwise_cons.mp decided.apart
      have descended : checkDescent grammar rule arc.label = .ok () :=
        checkDescent_of_not_accepting (decided.descends arc (.head later))
      have claimed : claimTerminals grammar rule arc.label (grammar.reachable arc.label) owners =
          .ok (owners ++ (grammar.reachable arc.label).map (⟨·, arc.label⟩)) :=
        claimTerminals_of_free (free arc (.head later))
      have laterDecided : Decided grammar later :=
        ⟨fun tested inLater => decided.descends tested (.tail arc inLater), laterApart⟩
      simp only [checkArcs, descended, claimed]
      apply inductionHypothesis laterDecided
      intro tested inLater terminal isTerminal owner isOwner differs
      rcases List.mem_append.mp isOwner with isOld | isNew
      · exact free tested (.tail arc inLater) terminal isTerminal owner isOld differs
      · obtain ⟨claimedTerminal, isClaimed, rfl⟩ := List.mem_map.mp isNew
        exact arcApart tested inLater differs claimedTerminal isClaimed terminal isTerminal

theorem checkArcs_nil_eq_ok_iff {arcs : List Arc} :
    checkArcs grammar rule arcs [] = .ok () ↔ Decided grammar arcs := by
  constructor
  · intro success
    obtain ⟨descends, _, apart⟩ := checkArcs_spec success
    exact ⟨descends, apart⟩
  · intro decided
    exact checkArcs_of_decided decided (by simp)

theorem checkStates_eq_ok_iff {states : List State} :
    checkStates grammar rule states = .ok () ↔
      ∀ state ∈ states, Decided grammar state.arcs := by
  constructor
  · intro success state isState
    exact checkArcs_nil_eq_ok_iff.mp (checkArcs_of_checkStates success state isState)
  · intro decided
    induction states with
    | nil => rfl
    | cons state later inductionHypothesis =>
        have checked : checkArcs grammar rule state.arcs [] = .ok () :=
          checkArcs_nil_eq_ok_iff.mpr (decided state (.head later))
        simp only [checkStates, checked]
        exact inductionHypothesis fun tested inLater => decided tested (.tail state inLater)

theorem check_eq_ok_iff :
    check grammar = .ok () ↔
      ∀ automaton ∈ grammar.automata, ∀ state ∈ automaton.states,
        Decided grammar state.arcs := by
  constructor
  · intro success automaton isAutomaton
    exact checkStates_eq_ok_iff.mp (checkStates_of_checkAutomata success automaton isAutomaton)
  · unfold check
    generalize grammar.automata = automata
    intro decided
    induction automata with
    | nil => rfl
    | cons automaton later inductionHypothesis =>
        have checked : checkStates grammar automaton.name automaton.states = .ok () :=
          checkStates_eq_ok_iff.mpr (decided automaton (.head later))
        simp only [checkAutomata, checked]
        exact inductionHypothesis fun tested inLater => decided tested (.tail automaton inLater)

end Ambiguity

namespace Grammar

variable {rules : List Rule} {vocabulary : Vocabulary} {start : Option String}
  {grammar : Grammar} {token : Token} {label other : LabelId} {automaton sub : RuleAutomaton}
  {state : Nat} {arc : Arc}

/-! ## Rules that match nothing -/

/-- The token sequences that lead a rule from a state to its end, whatever tokens come
behind them. -/
inductive Spells (grammar : Grammar) : RuleAutomaton → Nat → List Token → Prop
  | done {automaton : RuleAutomaton} {state : Nat} :
      Dfa.IsAccepting automaton.states state → Spells grammar automaton state []
  | token {automaton : RuleAutomaton} {state : Nat} {token : Token} {later : List Token}
      {arc : Arc} :
      arc ∈ automaton.arcsAt state → arc.label ∈ grammar.classify token →
      Spells grammar automaton arc.target later →
      Spells grammar automaton state (token :: later)
  | rule {automaton sub : RuleAutomaton} {state : Nat} {inner later : List Token} {arc : Arc} :
      arc ∈ automaton.arcsAt state → grammar.subAutomaton? arc.label = some sub →
      Spells grammar sub 0 inner → Spells grammar automaton arc.target later →
      Spells grammar automaton state (inner ++ later)

/-- If no arc leads into a rule that may end at once, no chain of rules matches nothing. -/
theorem isAccepting_of_spells_nil
    (notEmpty : ∀ automaton ∈ grammar.automata, ∀ state, ∀ arc ∈ automaton.arcsAt state,
      ∀ sub, grammar.subAutomaton? arc.label = some sub → ¬Dfa.IsAccepting sub.states 0)
    (isAutomaton : automaton ∈ grammar.automata) (spells : Spells grammar automaton state []) :
    Dfa.IsAccepting automaton.states state := by
  generalize isEmpty : ([] : List Token) = tokens at spells
  induction spells with
  | done accepting => exact accepting
  | token _ _ _ _ => cases isEmpty
  | @rule automaton sub state inner later arc isArc isSub _ _ innerHypothesis _ =>
      obtain ⟨innerEmpty, _⟩ := List.append_eq_nil_iff.mp isEmpty.symm
      obtain ⟨symbol, _, found⟩ := subAutomaton?_eq_some.mp isSub
      have subAccepting :=
        innerHypothesis (mem_automata_of_automaton? found) innerEmpty.symm
      exact absurd subAccepting (notEmpty automaton isAutomaton state arc isArc sub isSub)

/-! ## Tokens with given candidates -/

/-- A token of a kind and a spelling, at the beginning of a source. -/
def sampleToken (kind : TokenKind) (value : String) : Token :=
  ⟨kind, value, ⟨1, 0⟩, ""⟩

section Candidates

variable (indexed : grammar.labelTable.Indexed)
  (exact : grammar.labelTable.Exact grammar.symbolIds vocabulary)

include indexed exact in
theorem keywordLabel?_eq_none (notKeyword : isKeyword token.value = false) :
    grammar.keywordLabel? token = none := by
  unfold keywordLabel?
  split
  · cases found : grammar.labelTable.keywordIds.get? token.value with
    | none => rfl
    | some number =>
        have fits := exact.fits number _ (indexed.keyword _ number found)
        cases notKeyword.symm.trans fits
  · rfl

include exact in
theorem mem_classify_of_keyword {text : String}
    (isLabel : grammar.labelTable.get? label = some (.keyword text)) :
    label ∈ grammar.classify (sampleToken grammar.keywordToken text) := by
  have found : grammar.labelTable.keywordIds.get? text = some label :=
    exact.found label (.keyword text) (.keyword text) isLabel rfl
  have isKeyword : grammar.keywordLabel? (sampleToken grammar.keywordToken text) =
      some label := by
    simp [keywordLabel?, sampleToken, found]
  simp [classify, isKeyword]

include indexed exact in
theorem mem_classify_of_operator {literal : String} {kind : TokenKind}
    (isLabel : grammar.labelTable.get? label = some (.operator literal kind)) :
    label ∈ grammar.classify (sampleToken kind literal) := by
  have found : grammar.labelTable.operatorIds.get? literal = some label :=
    exact.found label (.operator literal kind) (.operator literal) isLabel rfl
  have notKeyword : grammar.keywordLabel? (sampleToken kind literal) = none :=
    keywordLabel?_eq_none indexed exact (exact.fits label _ isLabel).1
  have isOperator : grammar.operatorLabel? (sampleToken kind literal) = some label := by
    simp [operatorLabel?, sampleToken, found, isLabel]
  simp [classify, notKeyword, isOperator]

include indexed exact in
theorem mem_classify_of_token {value : String} {kind : TokenKind}
    (isLabel : grammar.labelTable.get? label = some (.token kind))
    (notKeyword : isKeyword value = false) :
    label ∈ grammar.classify (sampleToken kind value) := by
  have found : grammar.labelTable.tokenIds.get? kind = some label :=
    exact.found label (.token kind) (.token kind) isLabel rfl
  have isGeneric : grammar.labelTable.tokenIds.get? (sampleToken kind value).kind =
      some label := found
  have noKeyword : grammar.keywordLabel? (sampleToken kind value) = none :=
    keywordLabel?_eq_none indexed exact notKeyword
  simp [classify, noKeyword, isGeneric]

include indexed exact in
/-- A terminal label is a candidate of some token. -/
theorem IsTerminal.exists_token (isTerminal : grammar.IsTerminal label) :
    ∃ token, label ∈ grammar.classify token := by
  obtain ⟨terminal, isLabel, notRule⟩ := isTerminal
  cases terminal with
  | keyword text => exact ⟨_, mem_classify_of_keyword exact isLabel⟩
  | operator literal kind => exact ⟨_, mem_classify_of_operator indexed exact isLabel⟩
  | token kind =>
      have notKeyword : isKeyword "" = false := rfl
      exact ⟨_, mem_classify_of_token indexed exact isLabel notKeyword⟩
  | rule symbol => cases notRule

include indexed exact in
/-- A token that spells an operator has the operator and its kind as candidates. -/
theorem exists_token_of_kind {operator kindLabel : LabelId} {literal : String}
    {kind : TokenKind}
    (isOperator : grammar.labelTable.get? operator = some (.operator literal kind))
    (isKind : grammar.labelTable.get? kindLabel = some (.token kind)) :
    ∃ token, operator ∈ grammar.classify token ∧ kindLabel ∈ grammar.classify token := by
  have notKeyword : isKeyword literal = false := (exact.fits operator _ isOperator).1
  exact ⟨sampleToken kind literal, mem_classify_of_operator indexed exact isOperator,
    mem_classify_of_token indexed exact isKind notKeyword⟩

include indexed exact in
/-- Overlapping labels are candidates of one token. -/
theorem exists_token_of_overlaps (isTerminal : grammar.IsTerminal label)
    (overlap : Ambiguity.overlaps grammar.labels label other = true) :
    ∃ token, label ∈ grammar.classify token ∧ other ∈ grammar.classify token := by
  rcases Bool.or_eq_true_iff.mp overlap with same | related
  · obtain ⟨token, isCandidate⟩ := isTerminal.exists_token indexed exact
    exact ⟨token, isCandidate, eq_of_beq same ▸ isCandidate⟩
  · split at related
    · rename_i literal kind otherKind isOperator isKind
      rw [← eq_of_beq related] at isKind
      exact exists_token_of_kind indexed exact isOperator isKind
    · rename_i otherKind literal kind isKind isOperator
      rw [← eq_of_beq related] at isKind
      obtain ⟨token, isOther, isLabel⟩ :=
        exists_token_of_kind indexed exact isOperator isKind
      exact ⟨token, isLabel, isOther⟩
    · cases related

end Candidates

/-! ## The two policies -/

/-- No arc of the grammar leads into a rule that can match nothing. -/
def DescendsIntoTokens (grammar : Grammar) : Prop :=
  ∀ automaton ∈ grammar.automata, ∀ state ∈ automaton.states, ∀ arc ∈ state.arcs, ∀ sub,
    grammar.subAutomaton? arc.label = some sub → ¬Spells grammar sub 0 []

/-- No token can be matched through two arcs of one state. -/
def TokensDecide (grammar : Grammar) : Prop :=
  ∀ automaton ∈ grammar.automata, ∀ state ∈ automaton.states, ∀ arc ∈ state.arcs,
    ∀ other ∈ state.arcs, arc ≠ other → ∀ token, ∀ label ∈ grammar.classify token,
      ∀ otherLabel ∈ grammar.classify token,
        ¬(grammar.Answers arc label ∧ grammar.Answers other otherLabel)

theorem Predictive.descendsIntoTokens (compiled : Compiled rules vocabulary grammar)
    (predictive : Predictive grammar) : grammar.DescendsIntoTokens := by
  have notEmpty : ∀ automaton ∈ grammar.automata, ∀ state, ∀ arc ∈ automaton.arcsAt state,
      ∀ sub, grammar.subAutomaton? arc.label = some sub → ¬Dfa.IsAccepting sub.states 0 :=
    fun automaton isAutomaton =>
      predictive.nonempty automaton.symbol automaton (compiled.automaton?_symbol isAutomaton)
  intro automaton isAutomaton found isState arc isArc sub isSub spells
  obtain ⟨state, isPlace⟩ := List.mem_iff_getElem?.mp isState
  have isArcAt : arc ∈ automaton.arcsAt state :=
    RuleAutomaton.mem_arcsAt.mpr ⟨found, isPlace, isArc⟩
  obtain ⟨symbol, _, subFound⟩ := subAutomaton?_eq_some.mp isSub
  have accepting :=
    isAccepting_of_spells_nil notEmpty (mem_automata_of_automaton? subFound) spells
  exact notEmpty automaton isAutomaton state arc isArcAt sub isSub accepting

theorem Predictive.tokensDecide (compiled : Compiled rules vocabulary grammar)
    (predictive : Predictive grammar) : grammar.TokensDecide := by
  intro automaton isAutomaton found isState arc isArc other isOther differs token label
    isCandidate otherLabel isOtherCandidate answers
  obtain ⟨state, isPlace⟩ := List.mem_iff_getElem?.mp isState
  have isArcAt : arc ∈ automaton.arcsAt state :=
    RuleAutomaton.mem_arcsAt.mpr ⟨found, isPlace, isArc⟩
  have isOtherAt : other ∈ automaton.arcsAt state :=
    RuleAutomaton.mem_arcsAt.mpr ⟨found, isPlace, isOther⟩
  exact differs (predictive.unique automaton.symbol automaton
    (compiled.automaton?_symbol isAutomaton) state arc isArcAt other isOtherAt token label
    isCandidate otherLabel isOtherCandidate answers.1 answers.2)

theorem Compiled.decided (compiled : Compiled rules vocabulary grammar)
    (exact : grammar.labelTable.Exact grammar.symbolIds vocabulary)
    (descends : grammar.DescendsIntoTokens) (decide : grammar.TokensDecide)
    (isAutomaton : automaton ∈ grammar.automata) {found : State}
    (isState : found ∈ automaton.states) : Ambiguity.Decided grammar found.arcs where
  descends := by
    intro arc isArc sub isSub
    obtain ⟨symbol, _, subFound⟩ := subAutomaton?_eq_some.mp isSub
    have faithful := compiled.tableFaithful subFound
    by_contra accepts
    have accepting := (faithful.accepting 0).mp (Bool.eq_true_of_not_eq_false accepts)
    exact descends automaton isAutomaton found isState arc isArc sub isSub (.done accepting)
  apart := by
    obtain ⟨index, isIndexed⟩ := List.mem_iff_getElem?.mp isAutomaton
    obtain ⟨rule, isOf⟩ := compiled.exists_automatonOf isIndexed
    have ascending := isOf.wellFormed.ascending found isState
    obtain ⟨state, isPlace⟩ := List.mem_iff_getElem?.mp isState
    refine ascending.imp_of_mem ?_
    intro arc other isArc isOther below _ terminal isTerminal otherTerminal isOtherTerminal
    have isArcAt : arc ∈ automaton.arcsAt state :=
      RuleAutomaton.mem_arcsAt.mpr ⟨found, isPlace, isArc⟩
    have differs : arc ≠ other := fun same => Nat.lt_irrefl _ (same ▸ below)
    by_contra overlap
    obtain ⟨token, isCandidate, isOtherCandidate⟩ :=
      exists_token_of_overlaps compiled.indexed exact
        (compiled.isTerminal_of_mem_reachable isAutomaton isArcAt isTerminal)
        (Bool.eq_true_of_not_eq_false overlap)
    exact decide automaton isAutomaton found isState arc isArc other isOther differs token
      terminal isCandidate otherTerminal isOtherCandidate
      ⟨answers_of_mem_reachable isTerminal, answers_of_mem_reachable isOtherTerminal⟩

theorem Compiled.check_iff (compiled : Compiled rules vocabulary grammar)
    (exact : grammar.labelTable.Exact grammar.symbolIds vocabulary) :
    Ambiguity.check grammar = .ok () ↔ grammar.DescendsIntoTokens ∧ grammar.TokensDecide := by
  constructor
  · intro checked
    have predictive := predictive_of_check compiled checked
    exact ⟨predictive.descendsIntoTokens compiled, predictive.tokensDecide compiled⟩
  · rintro ⟨descends, decide⟩
    apply Ambiguity.check_eq_ok_iff.mpr
    intro automaton isAutomaton state isState
    exact compiled.decided exact descends decide isAutomaton isState

/-- Whoever refuses ambiguity gets the grammar that everyone else gets, and gets it exactly
if no arc leads into a rule that can match nothing and no token can be matched through two
arcs of one state. -/
theorem build_reject_iff (built : build rules vocabulary start .firstWins = .ok grammar) :
    (∀ refusing, build rules vocabulary start .reject = .ok refusing → refusing = grammar) ∧
      ((∃ refusing, build rules vocabulary start .reject = .ok refusing) ↔
        grammar.DescendsIntoTokens ∧ grammar.TokensDecide) := by
  obtain ⟨capacity, assembled, _⟩ := build_eq_ok_iff.mp built
  have compiled := compiled_of_assemble capacity assembled
  have exact := exact_of_assemble assembled
  have same : ∀ refusing, build rules vocabulary start .reject = .ok refusing →
      refusing = grammar := by
    intro refusing isBuilt
    have assembledAgain := (build_eq_ok_iff.mp isBuilt).2.1
    exact Except.ok.inj (assembledAgain.symm.trans assembled)
  refine ⟨same, ?_⟩
  rw [← compiled.check_iff exact]
  constructor
  · rintro ⟨refusing, isBuilt⟩
    obtain rfl := same refusing isBuilt
    exact (build_eq_ok_iff.mp isBuilt).2.2 rfl
  · intro checked
    exact ⟨grammar, build_eq_ok_iff.mpr ⟨capacity, assembled, fun _ => checked⟩⟩

/-- A sign in front of a name, or any operator in front of a number. -/
def signText : String := "signed: '+' NAME | OP NUMBER\n"

/-- The token `+` can be matched through both arcs, so the text is refused. -/
theorem build_reject_iff_signText :
    ∃ rules grammar, build rules .mini none .firstWins = .ok grammar ∧
      grammar.DescendsIntoTokens ∧ ¬grammar.TokensDecide ∧
      ¬∃ refusing, build rules .mini none .reject = .ok refusing := by
  have contents : (compile signText .mini none .firstWins).map
      (fun grammar => grammar.labels.all Label.isTerminal) = .ok true := by
    decide +kernel
  have refused : (compile signText .mini none .reject).isOk = false := by
    decide +kernel
  cases compiled : compile signText .mini none .firstWins with
  | error failure =>
      rw [compiled] at contents
      cases contents
  | ok grammar =>
      rw [compiled] at contents
      obtain ⟨rules, read, built⟩ := compile_eq_ok compiled
      have noRules : ∀ label, grammar.subAutomaton? label = none := by
        intro label
        cases isSub : grammar.subAutomaton? label with
        | none => rfl
        | some sub =>
            obtain ⟨symbol, isRule, _⟩ := subAutomaton?_eq_some.mp isSub
            have areTerminal := List.all_eq_true.mp (Except.ok.inj contents)
            cases areTerminal _ (List.mem_of_getElem? isRule)
      have descends : grammar.DescendsIntoTokens := by
        intro automaton _ state _ arc _ sub isSub
        rw [noRules] at isSub
        cases isSub
      have notBuilt : ¬∃ refusing, build rules .mini none .reject = .ok refusing := by
        rintro ⟨refusing, isBuilt⟩
        simp [compile, read, isBuilt, Except.isOk, Except.toBool] at refused
      have notDecided := mt (build_reject_iff built).2.mpr notBuilt
      exact ⟨rules, grammar, built, descends, fun decide => notDecided ⟨descends, decide⟩,
        notBuilt⟩

end Grammar

end RuleMachine
