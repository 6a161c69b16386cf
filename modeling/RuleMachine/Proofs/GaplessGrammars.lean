import RuleMachine.Proofs.CheckedParsing
import RuleMachine.Proofs.TokenConservation
import RuleMachine.Proofs.WellFormedGrammars

/-!
# Grammars without gaps

Compiling a grammar text and parsing with the grammar are one program, and the numbers
that its first half makes are followed by its second half.  If there are symbols for all
rules of a text, the program meets no operation without a result, neither for this text
nor for any tokens.
-/

namespace RuleMachine

open Grammar

namespace Checked

open RuleMachine.Session (feedEach)

/-- Nothing that is asked of a grammar meets a gap: a parse may begin with any symbol, and
tokens may be fed to it in any number, whatever the answers before were. -/
structure Gapless (grammar : Grammar) : Prop where
  prepares : ∀ start, prepare grammar start =
    .ok ((RuleMachine.Session.prepare grammar start).map Session.checked)
  feeds : ∀ start first, RuleMachine.Session.prepare grammar start = .ok first →
    ∀ tokens token, feed grammar (feedEach grammar first tokens).checked token =
      .ok (ofAnswer ((feedEach grammar first tokens).feed grammar token))
  /-- However long a token is dealt with, no step meets a gap. -/
  steps : ∀ start first, RuleMachine.Session.prepare grammar start = .ok first →
    ∀ tokens token count, feedWithin grammar count (feedEach grammar first tokens).checked token =
      .ok (ofAnswer ((feedEach grammar first tokens).run grammar token (grammar.classify token)
        count))
  expects : ∀ start first, RuleMachine.Session.prepare grammar start = .ok first →
    ∀ tokens, ∀ frame ∈ (feedEach grammar first tokens).stack,
      expected grammar frame.automaton frame.state = .ok (frame.expected grammar)
  parses : ∀ start tokens,
    parse grammar start tokens = .ok (RuleMachine.parse grammar start tokens)
  dumps : ∀ tree, dump grammar tree = .ok (tree.dump grammar)

variable {grammar : Grammar} {rules : List Rule} {vocabulary : Vocabulary}

theorem compile_ne_outOfSymbols {source : String} {start : Option String}
    {policy : AmbiguityPolicy}
    (withinCapacity : ∀ rules, GrammarText.readRules source = .ok rules →
      rules.length ≤ SymbolId.ruleCapacity) :
    Grammar.compile source vocabulary start policy ≠ .error .outOfSymbols := by
  intro fails
  unfold Grammar.compile at fails
  split at fails
  · cases fails
  · rename_i rules read
    unfold Grammar.build at fails
    rw [if_neg (Nat.not_lt.mpr (withinCapacity rules read))] at fails
    split at fails <;> cases fails

theorem supported_feedEach (compiled : Compiled rules vocabulary grammar)
    {session : RuleMachine.Session} (supported : session.Supported grammar)
    (tokens : List Token) : (feedEach grammar session tokens).Supported grammar := by
  induction tokens generalizing session with
  | nil => exact supported
  | cons token later inductionHypothesis =>
      exact inductionHypothesis (supported.feed compiled token)

theorem supported_of_prepare (compiled : Compiled rules vocabulary grammar) {start : SymbolId}
    {first : RuleMachine.Session}
    (prepared : RuleMachine.Session.prepare grammar start = .ok first) :
    first.Supported grammar := by
  unfold RuleMachine.Session.prepare at prepared
  split at prepared
  · rename_i automaton found
    cases prepared
    exact RuleMachine.Session.supported_begin compiled found
  · cases prepared

theorem gapless_of_compiled (compiled : Compiled rules vocabulary grammar) :
    Gapless grammar := by
  have supported : ∀ start first, RuleMachine.Session.prepare grammar start = .ok first →
      ∀ tokens, (feedEach grammar first tokens).Supported grammar := by
    intro start first prepared tokens
    exact supported_feedEach compiled (supported_of_prepare compiled prepared) tokens
  refine ⟨prepare_eq compiled, ?_, ?_, ?_, parse_eq compiled, dump_eq⟩
  · intro start first prepared tokens token
    exact feed_eq compiled (supported start first prepared tokens) token
  · intro start first prepared tokens token count
    exact feedWithin_eq compiled (supported start first prepared tokens) token count
  · intro start first prepared tokens frame isFrame
    have frameSupported := supported start first prepared tokens frame isFrame
    exact expected_eq compiled (isAutomaton_of_supported frameSupported) frameSupported.inRange

/-- A grammar text with symbols for all its rules is compiled or refused, and no operation
on the way is without a result, not even for the rules in front of an error.  The grammar
is well-formed, and nothing that is asked of it meets a gap. -/
theorem compile_gapless {source : String}
    (withinCapacity : ∀ rules, GrammarText.readRules source = .ok rules →
      rules.length ≤ SymbolId.ruleCapacity)
    (vocabulary : Vocabulary) (start : Option String) (policy : AmbiguityPolicy) :
    (∀ (nfa : Nfa Nat) (expression : Expr Nat),
      addExpr nfa expression = .ok (nfa.addExpr expression)) ∧
    compile source vocabulary start policy =
      .ok (Grammar.compile source vocabulary start policy) ∧
    ((∃ error, Grammar.compile source vocabulary start policy = .error (.refused error)) ∨
      ∃ grammar rules, Grammar.compile source vocabulary start policy = .ok grammar ∧
        GrammarText.readRules source = .ok rules ∧ grammar.WellFormed rules ∧
        Gapless grammar) := by
  refine ⟨addExpr_eq, compile_eq source, ?_⟩
  cases compiles : Grammar.compile source vocabulary start policy with
  | ok grammar =>
      obtain ⟨rules, read, built⟩ := compile_eq_ok compiles
      obtain ⟨compiled, _⟩ := compiled_of_build built
      exact .inr ⟨grammar, rules, rfl, read, wellFormed_of_build read built,
        gapless_of_compiled compiled⟩
  | error failure =>
      cases failure with
      | refused error => exact .inl ⟨error, rfl⟩
      | outOfSymbols =>
          exact absurd compiles (compile_ne_outOfSymbols withinCapacity)

/-- Two rules, the first of which descends into the second one before and behind a comma. -/
theorem compile_gapless_commaText :
    ∃ grammar rules, compile commaText .mini none .reject = .ok (.ok grammar) ∧
      GrammarText.readRules commaText = .ok rules ∧ rules.length = 2 ∧
      grammar.WellFormed rules ∧ Gapless grammar := by
  have succeeds : (Grammar.compile commaText .mini none .reject).isOk = true := by
    decide +kernel
  have counted : (GrammarText.readRules commaText).map List.length = .ok 2 := by
    decide +kernel
  have twoRules : ∀ rules, GrammarText.readRules commaText = .ok rules → rules.length = 2 := by
    intro rules read
    rw [read] at counted
    exact Except.ok.inj counted
  have withinCapacity : ∀ rules, GrammarText.readRules commaText = .ok rules →
      rules.length ≤ SymbolId.ruleCapacity := by
    intro rules read
    rw [twoRules rules read]
    decide
  obtain ⟨_, checked_eq, outcome⟩ := compile_gapless withinCapacity .mini none .reject
  rcases outcome with ⟨error, refused⟩ | ⟨grammar, rules, compiles, read, wellFormed, gapless⟩
  · rw [refused] at succeeds
    cases succeeds
  · rw [compiles] at checked_eq
    exact ⟨grammar, rules, checked_eq, read, twoRules rules read, wellFormed, gapless⟩

end Checked

end RuleMachine
