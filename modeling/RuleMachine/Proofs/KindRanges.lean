import RuleMachine.Proofs.CheckedCompilation
import RuleMachine.Proofs.ParseSoundness

/-!
# Token kinds and rule symbols

Token kinds and rules share one space of numbers.  A token cannot be named with a kind in
the range of the rules, and names are all that labels of token kinds and keywords come
from.  The kinds of operators are declared without a look at that range; so a leaf can have
the kind of a rule, but then it spells an operator that was declared so.
-/

namespace RuleMachine

/-! ## Vocabularies -/

namespace Vocabulary

variable {vocabulary extended : Vocabulary} {name : String} {kind : TokenKind}

/-- A vocabulary that was declared step by step, in any order and without a collision. -/
inductive Declared : Vocabulary → Prop
  | new {keyword finish : String × TokenKind} {vocabulary : Vocabulary} :
      declare keyword finish [] [] = .ok vocabulary → Declared vocabulary
  | token {vocabulary extended : Vocabulary} {name : String} {kind : TokenKind} :
      Declared vocabulary → vocabulary.token name kind = .ok extended → Declared extended
  | operator {vocabulary : Vocabulary} (literal : String) (kind : TokenKind) :
      Declared vocabulary → Declared (vocabulary.operator literal kind)

/-- Identifiers and named tokens have kinds below the range of the rules. -/
structure TokensBelow (vocabulary : Vocabulary) : Prop where
  keyword : SymbolId.isRule vocabulary.keywordToken = false
  kinds : ∀ name kind, vocabulary.tokenKind? name = some kind → SymbolId.isRule kind = false
  names : ∀ kind name, vocabulary.tokenName? kind = some name → SymbolId.isRule kind = false

theorem eq_nameToken_of_token (success : vocabulary.token name kind = .ok extended) :
    SymbolId.isRule kind = false ∧ extended = vocabulary.nameToken name kind := by
  unfold token at success
  split at success
  · cases success
  · rename_i notRule
    cases success
    exact ⟨Bool.eq_false_of_not_eq_true notRule, rfl⟩

theorem tokensBelow_unnamed {keywordToken : TokenKind} (endMarker : TokenKind)
    (below : SymbolId.isRule keywordToken = false) :
    (unnamed keywordToken endMarker).TokensBelow := by
  refine ⟨below, ?_, ?_⟩
  · intro name kind found
    cases found
  · intro kind name found
    cases found

theorem TokensBelow.nameToken (tokensBelow : vocabulary.TokensBelow)
    (below : SymbolId.isRule kind = false) : (vocabulary.nameToken name kind).TokensBelow := by
  refine ⟨tokensBelow.keyword, ?_, ?_⟩
  · intro other otherKind found
    rcases Dictionary.eq_or_get?_of_get?_insert found with ⟨_, rfl⟩ | isOld
    · exact below
    · exact tokensBelow.kinds other otherKind isOld
  · intro otherKind other found
    rcases Dictionary.eq_or_get?_of_get?_insert found with ⟨rfl, _⟩ | isOld
    · exact below
    · exact tokensBelow.names otherKind other isOld

theorem tokensBelow_of_declare {keyword finish : String × TokenKind}
    (success : declare keyword finish [] [] = .ok vocabulary) : vocabulary.TokensBelow := by
  simp only [declare, tokens] at success
  cases first : (unnamed keyword.2 finish.2).token keyword.1 keyword.2 with
  | error collision =>
      rw [first] at success
      cases success
  | ok named =>
      simp only [first] at success
      cases second : named.token finish.1 finish.2 with
      | error collision =>
          rw [second] at success
          cases success
      | ok complete =>
          simp only [second] at success
          cases success
          obtain ⟨keywordBelow, rfl⟩ := eq_nameToken_of_token first
          obtain ⟨finishBelow, rfl⟩ := eq_nameToken_of_token second
          exact ((tokensBelow_unnamed finish.2 keywordBelow).nameToken keywordBelow).nameToken
            finishBelow

theorem Declared.tokensBelow (declared : vocabulary.Declared) : vocabulary.TokensBelow := by
  induction declared with
  | new success => exact tokensBelow_of_declare success
  | token _ success inductionHypothesis =>
      obtain ⟨below, rfl⟩ := eq_nameToken_of_token success
      exact inductionHypothesis.nameToken below
  | operator _ _ _ inductionHypothesis =>
      exact ⟨inductionHypothesis.keyword, inductionHypothesis.kinds, inductionHypothesis.names⟩

end Vocabulary

/-! ## Leaves -/

namespace Tree

/-- The leaves of a tree are those of its nodes that are single tokens. -/
theorem filter_isLeaf_outlineFrom (pending : List (Nat × Tree)) :
    ((outlineFrom pending).map Prod.snd).filter isLeaf = leavesFrom (pending.map Prod.snd) := by
  fun_induction outlineFrom pending with
  | case1 => rw [List.map_nil, List.filter_nil, leavesFrom]
  | case2 depth tree later inductionHypothesis =>
      have below : (Prod.snd ∘ fun child : Tree => (depth + 1, child)) = id := rfl
      rw [List.map_append, List.map_map, below, List.map_id] at inductionHypothesis
      cases tree with
      | leaf kind value position =>
          rw [List.map_cons, List.filter_cons_of_pos rfl, inductionHypothesis, List.map_cons,
            leavesFrom]
          rfl
      | branch symbol position children =>
          rw [List.map_cons, List.filter_cons_of_neg (by simp [isLeaf]), inductionHypothesis,
            List.map_cons, leavesFrom]
          rfl

theorem mem_leaves_of_mem_outline {tree : Tree} {node : Nat × Tree}
    (isNode : node ∈ tree.outline) (isLeaf : node.2.isLeaf = true) : node.2 ∈ tree.leaves := by
  have leaves_eq := filter_isLeaf_outlineFrom [(0, tree)]
  rw [leaves, ← List.map_singleton (f := Prod.snd) (a := (0, tree)), ← leaves_eq]
  exact List.mem_filter.mpr ⟨List.mem_map.mpr ⟨node, isNode, rfl⟩, isLeaf⟩

/-- The line of a leaf in the text of a tree, where the name of its kind is given. -/
def leafLine (depth : Nat) (name? : Option String) (value : String) : String :=
  Text.spaces (2 * depth) ++ name?.getD "?" ++ " " ++ Text.quoted value ++ "\n"

end Tree

namespace Grammar

variable {rules : List Rule} {vocabulary : Vocabulary} {grammar : Grammar}
  {start : Option String} {token : Token} {label : LabelId}

/-- Every leaf of a derivation has a candidate label. -/
theorem Derives.exists_candidate {automaton : RuleAutomaton} {state target : Nat}
    {input rest : List Token} {children : List Tree}
    (derives : Derives grammar automaton state input children target rest) :
    ∀ leaf ∈ Tree.leavesFrom children, ∃ token, leaf = .ofToken token ∧
      ∃ label, label ∈ grammar.classify token := by
  induction derives with
  | refl =>
      rw [Tree.leavesFrom]
      simp
  | @token _ _ _ token _ _ _ arc _ isCandidate _ inductionHypothesis =>
      rw [Tree.leavesFrom_cons, Tree.leaves_ofToken]
      exact List.forall_mem_cons.mpr
        ⟨⟨token, rfl, arc.label, isCandidate⟩, inductionHypothesis⟩
  | rule _ _ _ _ _ _ _ innerHypothesis inductionHypothesis =>
      rw [Tree.leavesFrom_cons, Tree.leaves_branch]
      exact List.forall_mem_append.mpr ⟨innerHypothesis, inductionHypothesis⟩

/-- A candidate label of a token matches tokens of its kind, and an operator is spelled like
the token. -/
theorem exists_label_of_mem_classify (indexed : grammar.labelTable.Indexed)
    (isCandidate : label ∈ grammar.classify token) :
    ∃ found, grammar.labelTable.get? label = some found ∧
      found.tokenKind? grammar.keywordToken = some token.kind ∧
      ∀ literal kind, found = .operator literal kind → literal = token.value := by
  unfold classify at isCandidate
  split at isCandidate
  · rename_i keyword isKeyword
    unfold keywordLabel? at isKeyword
    split at isKeyword
    · rename_i sameKind
      rw [List.mem_singleton.mp isCandidate]
      refine ⟨_, indexed.keyword _ _ isKeyword, ?_, ?_⟩
      · rw [sameKind]
        rfl
      · intro literal kind isOperator
        cases isOperator
    · cases isKeyword
  · rcases List.mem_append.mp isCandidate with isOperator | isToken
    · obtain ⟨found, sameKind⟩ :=
        Option.filter_eq_some_iff.mp (Option.mem_toList.mp isOperator)
      obtain ⟨kind, isLabel⟩ := indexed.operator _ _ found
      rw [isLabel] at sameKind
      refine ⟨_, isLabel, ?_, ?_⟩
      · rw [← eq_of_beq sameKind]
        rfl
      · rintro literal otherKind ⟨⟩
        rfl
    · refine ⟨_, indexed.token _ _ (Option.mem_toList.mp isToken), rfl, ?_⟩
      intro literal kind isOperator
      cases isOperator

/-! ## Names -/

theorem get?_namesOf {kinds : List TokenKind} {kind : TokenKind} (isUsed : kind ∈ kinds) :
    (namesOf vocabulary kinds).get? kind = vocabulary.tokenName? kind := by
  have eq_of_found : ∀ name, (namesOf vocabulary kinds).get? kind = some name →
      vocabulary.tokenName? kind = some name := by
    intro name found
    obtain ⟨other, _, isPair⟩ := List.mem_filterMap.mp (Dictionary.mem_of_get?_ofList found)
    obtain ⟨otherName, isName, pair_eq⟩ := Option.map_eq_some_iff.mp isPair
    obtain ⟨rfl, rfl⟩ := Prod.mk.inj pair_eq
    exact isName
  cases found : (namesOf vocabulary kinds).get? kind with
  | some name => exact (eq_of_found name found).symm
  | none =>
      cases named : vocabulary.tokenName? kind with
      | none => rfl
      | some name =>
          have isPair : (kind, name) ∈ kinds.filterMap fun used =>
              (vocabulary.tokenName? used).map fun name => (used, name) :=
            List.mem_filterMap.mpr ⟨kind, isUsed, by rw [named, Option.map_some]⟩
          obtain ⟨other, isOther⟩ :=
            Dictionary.exists_get?_ofList (List.mem_map.mpr ⟨_, isPair, rfl⟩)
          cases found.symm.trans isOther

theorem tokenNames_of_assemble (assembled : assemble rules vocabulary start = .ok grammar) :
    grammar.keywordToken = vocabulary.keywordToken ∧
      ∀ label ∈ grammar.labels, ∀ kind, label.tokenKind? vocabulary.keywordToken = some kind →
        grammar.tokenNames.get? kind = vocabulary.tokenName? kind := by
  unfold assemble at assembled
  simp only at assembled
  split at assembled
  · cases assembled
  · split at assembled
    · cases assembled
    · split at assembled
      · cases assembled
      · cases assembled
        refine ⟨rfl, ?_⟩
        intro label isLabel kind isKind
        exact get?_namesOf
          (List.mem_append_left _ (List.mem_filterMap.mpr ⟨label, isLabel, isKind⟩))

theorem Compiled.map_name_automaton? (compiled : Compiled rules vocabulary grammar)
    (symbol : SymbolId) :
    (grammar.automaton? symbol).map RuleAutomaton.name =
      (rules[symbol.ruleIndex]?).map Rule.name := by
  rw [compiled.automaton?_eq]
  cases found : grammar.automata[symbol.ruleIndex]? with
  | none =>
      have beyond := List.getElem?_eq_none_iff.mp found
      rw [compiled.length] at beyond
      rw [List.getElem?_eq_none beyond]
      rfl
  | some automaton =>
      obtain ⟨inRange, _⟩ := List.getElem?_eq_some_iff.mp found
      rw [compiled.length] at inRange
      have isRule := List.getElem?_eq_getElem inRange
      rw [isRule, Option.map_some, Option.map_some,
        (compiled.automaton _ _ automaton isRule found).name]

/-- The kind of a label is named by the vocabulary; but in the range of the rules, the rule
with that symbol takes precedence, and no vocabulary has a name there. -/
theorem symbolName?_of_label (declared : vocabulary.Declared)
    (capacity : rules.length ≤ SymbolId.ruleCapacity)
    (assembled : assemble rules vocabulary start = .ok grammar) {found : Label}
    {kind : TokenKind} (isLabel : found ∈ grammar.labels)
    (isKind : found.tokenKind? grammar.keywordToken = some kind) :
    grammar.symbolName? kind =
      if SymbolId.isRule kind then (rules[SymbolId.ruleIndex kind]?).map Rule.name
      else vocabulary.tokenName? kind := by
  have compiled := compiled_of_assemble capacity assembled
  obtain ⟨keyword_eq, named⟩ := tokenNames_of_assemble assembled
  rw [keyword_eq] at isKind
  rw [symbolName?, named found isLabel kind isKind]
  by_cases isRule : SymbolId.isRule kind = true
  · have noName : vocabulary.tokenName? kind = none := by
      rw [Option.eq_none_iff_forall_ne_some]
      intro name isName
      cases isRule.symm.trans (declared.tokensBelow.names kind name isName)
    rw [if_pos isRule, noName, ← compiled.map_name_automaton?]
    cases grammar.automaton? kind <;> rfl
  · rw [automaton?, if_neg isRule, if_neg isRule]

/-! ## Built grammars -/

/-- A label whose kind lies in the range of the rules is that of an operator which was
declared with this kind. -/
theorem eq_operator_of_isRule (declared : vocabulary.Declared)
    (assembled : assemble rules vocabulary start = .ok grammar) {found : Label}
    {kind : TokenKind} (isLabel : found ∈ grammar.labels)
    (isKind : found.tokenKind? grammar.keywordToken = some kind)
    (isRule : SymbolId.isRule kind = true) :
    ∃ literal, found = .operator literal kind ∧
      vocabulary.operatorKind? literal = some kind := by
  obtain ⟨number, isNumbered⟩ := List.mem_iff_getElem?.mp isLabel
  have fits := (exact_of_assemble assembled).fits number found isNumbered
  have tokensBelow := declared.tokensBelow
  rw [(tokenNames_of_assemble assembled).1] at isKind
  cases found with
  | keyword text =>
      obtain rfl := Option.some.inj isKind
      cases isRule.symm.trans tokensBelow.keyword
  | operator literal declaredKind =>
      obtain rfl := Option.some.inj isKind
      exact ⟨literal, rfl, fits.2⟩
  | token namedKind =>
      obtain rfl := Option.some.inj isKind
      obtain ⟨name, isName⟩ := fits
      cases isRule.symm.trans (tokensBelow.kinds name _ isName)
  | rule symbol => cases isKind

/-- What the kind of a leaf can be, and what stands in the line of the leaf. -/
inductive LeafCase (rules : List Rule) (vocabulary : Vocabulary) (grammar : Grammar)
    (depth : Nat) : Tree → Prop
  /-- No rule has the kind of the leaf, and its line bears the name of the kind. -/
  | apart {kind : TokenKind} {value : String} {position : Position} :
      SymbolId.isRule kind = false → (∀ automaton ∈ grammar.automata, automaton.symbol ≠ kind) →
      Tree.dumpLine grammar depth (.leaf kind value position) =
        Tree.leafLine depth (vocabulary.tokenName? kind) value →
      LeafCase rules vocabulary grammar depth (.leaf kind value position)
  /-- The leaf is an operator that was declared with the symbol of a rule, and its line
  bears the name of this rule if there is one. -/
  | misplaced {kind : TokenKind} {value : String} {position : Position} :
      SymbolId.isRule kind = true → .operator value kind ∈ grammar.labels →
      vocabulary.operatorKind? value = some kind →
      Tree.dumpLine grammar depth (.leaf kind value position) =
        Tree.leafLine depth ((rules[SymbolId.ruleIndex kind]?).map Rule.name) value →
      LeafCase rules vocabulary grammar depth (.leaf kind value position)

theorem leafCase_of_mem_classify (declared : vocabulary.Declared)
    (capacity : rules.length ≤ SymbolId.ruleCapacity)
    (assembled : assemble rules vocabulary start = .ok grammar) (depth : Nat)
    (isCandidate : label ∈ grammar.classify token) :
    LeafCase rules vocabulary grammar depth (.ofToken token) := by
  have compiled := compiled_of_assemble capacity assembled
  obtain ⟨found, isNumbered, isKind, spelled⟩ :=
    exists_label_of_mem_classify compiled.indexed isCandidate
  have isLabel : found ∈ grammar.labels := List.mem_of_getElem? isNumbered
  have name_eq := symbolName?_of_label declared capacity assembled isLabel isKind
  have line_eq : Tree.dumpLine grammar depth (.ofToken token) =
      Tree.leafLine depth (grammar.symbolName? token.kind) token.value := rfl
  by_cases isRule : SymbolId.isRule token.kind = true
  · obtain ⟨literal, rfl, isDeclared⟩ :=
      eq_operator_of_isRule declared assembled isLabel isKind isRule
    obtain rfl := spelled literal token.kind rfl
    rw [name_eq, if_pos isRule] at line_eq
    exact .misplaced isRule isLabel isDeclared line_eq
  · rw [name_eq, if_neg isRule] at line_eq
    refine .apart (Bool.eq_false_of_not_eq_true isRule) ?_ line_eq
    rintro automaton isAutomaton symbol_eq
    have isSymbol := compiled.automaton?_symbol isAutomaton
    rw [symbol_eq, automaton?, if_neg isRule] at isSymbol
    cases isSymbol

theorem IsParse.exists_candidate {symbol : SymbolId} {tokens : List Token} {tree : Tree}
    (isParse : IsParse grammar symbol tokens tree) :
    ∀ leaf ∈ tree.leaves, ∃ token, leaf = .ofToken token ∧
      ∃ label, label ∈ grammar.classify token := by
  cases isParse with
  | intro _ derives _ _ =>
      rw [Tree.leaves_branch]
      exact derives.exists_candidate

/-- In a grammar over a declared vocabulary, only operators that were declared so have
kinds in the range of the rules.  Every leaf of a parse tree has a kind that is no rule's
and stands under the name of this kind, or it spells such an operator. -/
theorem kinds_apart_unless_operator {startName : Option String} {policy : AmbiguityPolicy}
    (declared : vocabulary.Declared)
    (built : build rules vocabulary startName policy = .ok grammar) :
    (∀ found ∈ grammar.labels, ∀ kind, found.tokenKind? grammar.keywordToken = some kind →
      SymbolId.isRule kind = true →
      ∃ literal, found = .operator literal kind ∧
        vocabulary.operatorKind? literal = some kind) ∧
    ∀ symbol tokens tree, parse grammar symbol tokens = .ok tree →
      ∀ node ∈ tree.outline, node.2.isLeaf = true →
        LeafCase rules vocabulary grammar node.1 node.2 := by
  obtain ⟨capacity, assembled, _⟩ := build_eq_ok_iff.mp built
  refine ⟨fun found isLabel kind => eq_operator_of_isRule declared assembled isLabel, ?_⟩
  intro symbol tokens tree parsed node isNode isLeaf
  have isParse := isParse_of_parse (compiled_of_build built).1 parsed
  obtain ⟨token, leaf_eq, label, isCandidate⟩ :=
    isParse.exists_candidate node.2 (Tree.mem_leaves_of_mem_outline isNode isLeaf)
  rw [leaf_eq]
  exact leafCase_of_mem_classify declared capacity assembled node.1 isCandidate

/-- A vocabulary in which an operator has the symbol of the first rule. -/
def plusVocabulary : Vocabulary :=
  (((Vocabulary.unnamed 1 0).nameToken "NAME" 1).nameToken "ENDMARKER" 0).operator "+" 256

theorem declared_plusVocabulary : plusVocabulary.Declared :=
  .operator "+" 256 (@Vocabulary.Declared.new ("NAME", 1) ("ENDMARKER", 0) _ rfl)

/-- A sign in front of a name. -/
def signedText : String := "a: '+' NAME\n"

def signedTokens : List Token :=
  [⟨256, "+", ⟨1, 0⟩, ""⟩, ⟨1, "x", ⟨1, 1⟩, ""⟩]

/-- Of the two leaves of a tree, the operator is misplaced and the name is not. -/
theorem kinds_apart_unless_operator_signedTokens :
    ∃ rules grammar tree, plusVocabulary.Declared ∧
      build rules plusVocabulary none .reject = .ok grammar ∧
      parse grammar grammar.start signedTokens = .ok tree ∧
      tree.leaves.map Tree.symbol = [256, 1] ∧
      ∀ node ∈ tree.outline, node.2.isLeaf = true →
        LeafCase rules plusVocabulary grammar node.1 node.2 := by
  have succeeds : (compile signedText plusVocabulary none .reject).isOk = true := by
    decide +kernel
  have contents : (compile signedText plusVocabulary none .reject).map (fun grammar =>
      (parse grammar grammar.start signedTokens).toOption.map fun tree =>
        tree.leaves.map Tree.symbol) = .ok (some [256, 1]) := by
    decide +kernel
  obtain ⟨grammar, compiled⟩ := exists_ok_of_isOk succeeds
  obtain ⟨rules, _, built⟩ := compile_eq_ok compiled
  rw [compiled] at contents
  obtain ⟨tree, parses, leaves_eq⟩ := Option.map_eq_some_iff.mp (Except.ok.inj contents)
  have parsed := eq_ok_of_toOption parses
  have leafCases := (kinds_apart_unless_operator declared_plusVocabulary built).2
  exact ⟨rules, grammar, tree, declared_plusVocabulary, built, parsed, leaves_eq,
    leafCases grammar.start signedTokens tree parsed⟩

/-- A leaf can have the symbol of a rule and stand under the name of this rule. -/
theorem leaf_with_rule_symbol :
    ∃ rules grammar tree, plusVocabulary.Declared ∧
      build rules plusVocabulary none .reject = .ok grammar ∧
      grammar.labels = [.operator "+" 256] ∧
      parse grammar grammar.start [⟨256, "+", ⟨1, 0⟩, ""⟩] = .ok tree ∧
      tree.leaves.map Tree.symbol = [grammar.start] ∧ grammar.start.isRule = true ∧
      tree.dump grammar = "a\n  a \"+\"\n" := by
  have succeeds : (compile "a: '+'\n" plusVocabulary none .reject).isOk = true := by
    decide +kernel
  have contents : (compile "a: '+'\n" plusVocabulary none .reject).map (fun grammar =>
      (grammar.labels, grammar.start,
        (parse grammar grammar.start [⟨256, "+", ⟨1, 0⟩, ""⟩]).toOption.map fun tree =>
          (tree.leaves.map Tree.symbol, tree.dump grammar))) =
      .ok ([.operator "+" 256], 256, some ([256], "a\n  a \"+\"\n")) := by
    decide +kernel
  obtain ⟨grammar, compiled⟩ := exists_ok_of_isOk succeeds
  obtain ⟨rules, _, built⟩ := compile_eq_ok compiled
  rw [compiled] at contents
  obtain ⟨labels_eq, contents⟩ := Prod.mk.inj (Except.ok.inj contents)
  obtain ⟨start_eq, contents⟩ := Prod.mk.inj contents
  obtain ⟨tree, parses, contents⟩ := Option.map_eq_some_iff.mp contents
  obtain ⟨leaves_eq, dump_eq⟩ := Prod.mk.inj contents
  have parsed := eq_ok_of_toOption parses
  refine ⟨rules, grammar, tree, declared_plusVocabulary, built, labels_eq, parsed, ?_, ?_, dump_eq⟩
  · rw [leaves_eq, start_eq]
  · rw [start_eq]
    decide

end Grammar

end RuleMachine
