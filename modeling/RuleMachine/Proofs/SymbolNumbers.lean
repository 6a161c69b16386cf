import RuleMachine.Proofs.CheckedCompilation
import RuleMachine.Proofs.RuleListings
import RuleMachine.Proofs.WellFormedGrammars

/-!
# The numbers of rules

Rules are numbered by 16-bit sums, the offset of the rules and the index of a rule.  The
sums fit for as many rules as there are numbers from the offset on.  Then a name leads to
its number and the number leads back to the rule, whatever the vocabulary is.  With one
rule more the last sum does not fit, and there are texts with that many rules.
-/

namespace RuleMachine

namespace SymbolId

/-- The symbol of a rule index in 16-bit arithmetic: the index is cut down to 16 bits, and
a sum with the offset that does not fit is no symbol. -/
def ofRuleIndex? (index : Nat) : Option SymbolId :=
  if ruleOffset.toNat + (UInt16.ofNat index).toNat < UInt16.size then
    some (ruleOffset + UInt16.ofNat index)
  else
    none

theorem ofRuleIndex?_of_lt {index : Nat} (inRange : index < ruleCapacity) :
    ofRuleIndex? index = some (ofRuleIndex index) := by
  have fits : ruleOffset.toNat + (UInt16.ofNat index).toNat < UInt16.size := by
    change index < 65280 at inRange
    rw [UInt16.toNat_ofNat']
    change 256 + index % 65536 < 65536
    omega
  rw [ofRuleIndex?, if_pos fits]
  rfl

/-- The first index without a symbol is reached exactly if there are more rules than
symbols. -/
theorem exists_ofRuleIndex?_eq_none_iff {count : Nat} :
    (∃ index < count, ofRuleIndex? index = none) ↔ ruleCapacity < count := by
  constructor
  · rintro ⟨index, isIndex, noSymbol⟩
    apply Nat.lt_of_not_le
    intro withinCapacity
    rw [ofRuleIndex?_of_lt (Nat.lt_of_lt_of_le isIndex withinCapacity)] at noSymbol
    cases noSymbol
  · intro beyond
    exact ⟨ruleCapacity, beyond, by decide⟩

theorem ofRuleIndex_inj {index other : Nat} (inRange : index < ruleCapacity)
    (otherInRange : other < ruleCapacity) (same : ofRuleIndex index = ofRuleIndex other) :
    index = other := by
  rw [← ruleIndex_ofRuleIndex inRange, same, ruleIndex_ofRuleIndex otherInRange]

end SymbolId

namespace Grammar

variable {source : String} {rules : List Rule} {vocabulary : Vocabulary}
  {start : Option String} {policy : AmbiguityPolicy} {grammar : Grammar}

/-! ## Names and numbers -/

/-- The numbers of rules in a grammar lead to the rules and back. -/
structure NumbersRules (rules : List Rule) (vocabulary : Vocabulary) (grammar : Grammar) :
    Prop where
  /-- By its name and by its number, the automaton of every rule is found. -/
  found : ∀ (index : Nat) rule, rules[index]? = some rule →
    ∃ symbol automaton, grammar.symbol? rule.name = some symbol ∧
      symbol.toNat = SymbolId.ruleOffset.toNat + index ∧
      grammar.automaton? symbol = some automaton ∧ automaton.symbol = symbol ∧
      AutomatonOf grammar.symbolIds vocabulary grammar.labelTable index rule automaton
  /-- Nothing but the rules has a number. -/
  ruled : ∀ name symbol, grammar.symbol? name = some symbol →
    symbol.isRule = true ∧ ∃ rule ∈ rules, rule.name = name
  apart : ∀ name other symbol, grammar.symbol? name = some symbol →
    grammar.symbol? other = some symbol → name = other
  /-- A rule label has the number of a rule. -/
  labelled : ∀ symbol, .rule symbol ∈ grammar.labels →
    ∃ automaton, grammar.automaton? symbol = some automaton

theorem Compiled.exists_index (compiled : Compiled rules vocabulary grammar) {name : String}
    {symbol : SymbolId} (isSymbol : grammar.symbol? name = some symbol) :
    ∃ index rule, rules[index]? = some rule ∧ rule.name = name ∧
      index < SymbolId.ruleCapacity ∧ symbol = SymbolId.ofRuleIndex index := by
  rw [symbol?, compiled.symbolIds] at isSymbol
  obtain ⟨index, rule, isRule, isName, symbol_eq⟩ := exists_index_of_symbolsOf isSymbol
  obtain ⟨inRange, _⟩ := List.getElem?_eq_some_iff.mp isRule
  have withinCapacity := Nat.lt_of_lt_of_le inRange compiled.capacity
  exact ⟨index, rule, isRule, isName, withinCapacity, symbol_eq⟩

theorem numbersRules_of_build (read : GrammarText.readRules source = .ok rules)
    (built : build rules vocabulary start policy = .ok grammar) :
    grammar.NumbersRules rules vocabulary := by
  have compiled := (compiled_of_build built).1
  have wellFormed := wellFormed_of_build read built
  constructor
  · intro index rule isRule
    obtain ⟨inRange, _⟩ := List.getElem?_eq_some_iff.mp isRule
    rw [← compiled.length] at inRange
    have isAutomaton := List.getElem?_eq_getElem inRange
    obtain ⟨name_eq, isPlaced⟩ := wellFormed.placed index rule _ isRule isAutomaton
    have named := isPlaced.named
    rw [name_eq] at named
    have bySymbol := compiled.automaton?_symbol (List.mem_of_getElem? isAutomaton)
    exact ⟨_, _, named, isPlaced.symbol, bySymbol, rfl,
      compiled.automaton index rule _ isRule isAutomaton⟩
  · intro name symbol isSymbol
    obtain ⟨index, rule, isRule, isName, inRange, rfl⟩ := compiled.exists_index isSymbol
    exact ⟨SymbolId.isRule_ofRuleIndex inRange, rule, List.mem_of_getElem? isRule, isName⟩
  · intro name other symbol isSymbol isOtherSymbol
    obtain ⟨index, rule, isRule, rfl, inRange, rfl⟩ := compiled.exists_index isSymbol
    obtain ⟨otherIndex, otherRule, isOtherRule, rfl, otherInRange, same⟩ :=
      compiled.exists_index isOtherSymbol
    have sameIndex := SymbolId.ofRuleIndex_inj inRange otherInRange same
    rw [sameIndex, isOtherRule] at isRule
    exact congrArg Rule.name (Option.some.inj isRule).symm
  · intro symbol isLabel
    exact wellFormed.ruled _ isLabel symbol rfl

theorem build_eq_outOfSymbols_iff :
    build rules vocabulary start policy = .error .outOfSymbols ↔
      SymbolId.ruleCapacity < rules.length := by
  unfold build
  by_cases beyond : SymbolId.ruleCapacity < rules.length
  · rw [if_pos beyond]
    exact iff_of_true rfl beyond
  · rw [if_neg beyond]
    refine iff_of_false ?_ beyond
    cases assembleUnder policy rules vocabulary start with
    | error error => exact nofun
    | ok grammar => exact nofun

/-- Building fails for want of symbols exactly if one of the sums does not fit, and that is
so exactly for more rules than there are symbols.  Otherwise every sum fits, no number is
taken below the offset, and building refuses the rules or numbers them. -/
theorem build_numbers_rules_unless_crowded (read : GrammarText.readRules source = .ok rules)
    (vocabulary : Vocabulary) (start : Option String) (policy : AmbiguityPolicy) :
    (build rules vocabulary start policy = .error .outOfSymbols ↔
      ∃ index < rules.length, SymbolId.ofRuleIndex? index = none) ∧
    ((∃ index < rules.length, SymbolId.ofRuleIndex? index = none) ↔
      SymbolId.ruleCapacity < rules.length) ∧
    (rules.length ≤ SymbolId.ruleCapacity →
      (∀ index < rules.length,
        SymbolId.ofRuleIndex? index = some (SymbolId.ofRuleIndex index)) ∧
      Checked.build rules vocabulary start policy = .ok (build rules vocabulary start policy) ∧
      ((∃ error, build rules vocabulary start policy = .error (.refused error)) ∨
        ∃ grammar, build rules vocabulary start policy = .ok grammar ∧
          grammar.NumbersRules rules vocabulary)) := by
  have crowded_iff :=
    @SymbolId.exists_ofRuleIndex?_eq_none_iff rules.length
  refine ⟨build_eq_outOfSymbols_iff.trans crowded_iff.symm, crowded_iff, ?_⟩
  intro withinCapacity
  refine ⟨?_, Checked.build_eq (GrammarText.isEnclosed_of_readRules read), ?_⟩
  · intro index isIndex
    exact SymbolId.ofRuleIndex?_of_lt (Nat.lt_of_lt_of_le isIndex withinCapacity)
  · cases outcome : build rules vocabulary start policy with
    | ok grammar => exact .inr ⟨grammar, rfl, numbersRules_of_build read outcome⟩
    | error failure =>
        cases failure with
        | refused error => exact .inl ⟨error, rfl⟩
        | outOfSymbols =>
            have beyond := build_eq_outOfSymbols_iff.mp outcome
            exact absurd withinCapacity (Nat.not_le_of_lt beyond)

/-- Two rules, each of which needs the number of the other. -/
def mutualText : String := "list: NAME [item]\nitem: ',' list\n"

theorem build_numbers_rules_mutualText :
    ∃ rules grammar, GrammarText.readRules mutualText = .ok rules ∧ rules.length = 2 ∧
      build rules .mini none .reject = .ok grammar ∧ grammar.NumbersRules rules .mini := by
  have succeeds : (compile mutualText .mini none .reject).isOk = true := by
    decide +kernel
  have counted : (GrammarText.readRules mutualText).map List.length = .ok 2 := by
    decide +kernel
  obtain ⟨compiledGrammar, compiles⟩ := exists_ok_of_isOk succeeds
  obtain ⟨rules, read, built⟩ := compile_eq_ok compiles
  rw [read] at counted
  have twoRules : rules.length = 2 := Except.ok.inj counted
  have withinCapacity : rules.length ≤ SymbolId.ruleCapacity := by
    rw [twoRules]
    decide
  obtain ⟨_, _, numbered⟩ := build_numbers_rules_unless_crowded read .mini none .reject
  obtain ⟨_, _, outcome⟩ := numbered withinCapacity
  rcases outcome with ⟨error, refused⟩ | ⟨grammar, isGrammar, numbers⟩
  · rw [built] at refused
    cases refused
  · exact ⟨rules, grammar, read, twoRules, isGrammar, numbers⟩

/-! ## One rule too many -/

/-- One name more than there are numbers: the words of three small letters, followed by
up to three underscores. -/
def crowd : List (List Char) :=
  (GrammarText.extended (GrammarText.words "abcdefghijklmnopqrstuvwxyz".toList 3)
    [[], ['_'], ['_', '_'], ['_', '_', '_']]).take (SymbolId.ruleCapacity + 1)

theorem length_crowd : crowd.length = SymbolId.ruleCapacity + 1 := by
  rw [crowd, List.length_take, GrammarText.length_extended, GrammarText.length_words]
  decide

theorem nodup_crowd : crowd.Nodup := by
  apply (List.take_sublist _ _).nodup
  apply GrammarText.nodup_extended (fun _ => GrammarText.length_of_mem_words)
  · exact GrammarText.nodup_words (by decide) 3
  · decide

theorem isName_of_mem_crowd : ∀ name ∈ crowd, GrammarText.HasForm .name name := by
  intro name isName
  obtain ⟨word, isWord, ending, isEnding, rfl⟩ :=
    GrammarText.mem_extended.mp (List.mem_of_mem_take isName)
  have lettersBegin : "abcdefghijklmnopqrstuvwxyz".toList.all GrammarText.isNameStart = true := by
    decide
  have areParts : ∀ ending ∈ [[], ['_'], ['_', '_'], ['_', '_', '_']],
      ending.all GrammarText.isNamePart = true := by
    decide
  apply GrammarText.isName_of_mem_words (List.all_eq_true.mp lettersBegin) isWord
  exact List.all_eq_true.mp (areParts ending isEnding)

/-- The text with a rule for each of too many names. -/
def crowdText : String := GrammarText.listing crowd

/-- A text that is read without an error and for which no vocabulary, no start and no
policy gives a grammar or an error of the grammar: the last sum does not fit. -/
theorem build_crowdText_outOfSymbols :
    ∃ rules, GrammarText.readRules crowdText = .ok rules ∧
      rules.length = SymbolId.ruleCapacity + 1 ∧
      SymbolId.ofRuleIndex? SymbolId.ruleCapacity = none ∧
      ∀ vocabulary start policy,
        build rules vocabulary start policy = .error .outOfSymbols := by
  have notEmpty : crowd ≠ [] := by
    apply List.ne_nil_of_length_pos
    rw [length_crowd]
    exact Nat.succ_pos _
  obtain ⟨rules, read, names_eq⟩ :=
    GrammarText.exists_readRules_listing isName_of_mem_crowd notEmpty nodup_crowd
  have counted : rules.length = SymbolId.ruleCapacity + 1 := by
    have sameLength := congrArg List.length names_eq
    rw [List.length_map, List.length_map, length_crowd] at sameLength
    exact sameLength
  refine ⟨rules, read, counted, by decide, ?_⟩
  intro vocabulary start policy
  apply build_eq_outOfSymbols_iff.mpr
  rw [counted]
  exact Nat.lt_succ_self _

end Grammar

end RuleMachine
