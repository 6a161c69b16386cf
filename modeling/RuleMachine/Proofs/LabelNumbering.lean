import RuleMachine.Proofs.GrammarShape
import RuleMachine.Proofs.KindRanges
import RuleMachine.Proofs.RuleText

/-!
# Numbered labels and their indices

Terms are resolved in the order in which they are written, and a label keeps the number
under which it was first met: the labels of a compiled grammar are the labels of its
terms, each listed where it first occurs.  Every label is on an arc, because a word that
holds it can be read across the expression it comes from.

The three indices lead back from the parts of a label to its number.  Hence `classify`
finds the labels that match a token, and no others.
-/

namespace RuleMachine

open GrammarText

/-! ## Numbering -/

theorem Roster.items_number {Item : Type} [DecidableEq Item] {roster : Roster Item}
    {seen : List Item} (isListed : roster.items = seen.eraseDups) (item : Item) :
    (roster.number item).2.items = (seen ++ [item]).eraseDups := by
  rw [List.eraseDups_append, ← isListed]
  unfold Roster.number
  split
  · rename_i number found
    have isOld : item ∈ roster.items := List.mem_of_getElem? (get?_of_numberOf? found)
    rw [isListed, List.mem_eraseDups] at isOld
    simp [List.removeAll, isOld]
  · rename_i missing
    have isNew : item ∉ roster.items := not_mem_of_numberOf?_eq_none missing
    have notSeen : item ∉ seen := by
      rwa [isListed, List.mem_eraseDups] at isNew
    simp [Roster.enroll, isNew, List.removeAll, notSeen, List.eraseDups_cons]

namespace Grammar

variable {symbolIds : Dictionary String SymbolId} {vocabulary : Vocabulary}

/-- Resolving a list of terms turns the labels of the terms seen before into those of all
terms seen. -/
def Numbers (symbolIds : Dictionary String SymbolId) (vocabulary : Vocabulary)
    (terms : List Term) (table extended : LabelTable) : Prop :=
  ∀ seen : List Label, table.labels = seen.eraseDups →
    ∃ added : List Label, terms.map (labelOf symbolIds vocabulary) = added.map Except.ok ∧
      extended.labels = (seen ++ added).eraseDups

theorem Numbers.append {first second : List Term} {table middle extended : LabelTable}
    (firstNumbers : Numbers symbolIds vocabulary first table middle)
    (secondNumbers : Numbers symbolIds vocabulary second middle extended) :
    Numbers symbolIds vocabulary (first ++ second) table extended := by
  intro seen isListed
  obtain ⟨added, areAdded, middleListed⟩ := firstNumbers seen isListed
  obtain ⟨further, areFurther, finalListed⟩ := secondNumbers (seen ++ added) middleListed
  refine ⟨added ++ further, ?_, ?_⟩
  · rw [List.map_append, List.map_append, areAdded, areFurther]
  · rw [finalListed, List.append_assoc]

theorem numbers_of_resolve {expression : Expr Term} {table extended : LabelTable}
    {resolved : Expr LabelId}
    (success : resolve symbolIds vocabulary expression table = .ok (resolved, extended)) :
    Numbers symbolIds vocabulary expression.terms table extended := by
  induction expression generalizing table extended resolved with
  | term term =>
      unfold resolve at success
      split at success
      · cases success
      · rename_i label isLabel
        cases success
        intro seen isListed
        refine ⟨[label], by simp [Expr.terms, isLabel], ?_⟩
        change (table.intern label).2.roster.items = _
        rw [LabelTable.roster_intern]
        exact Roster.items_number isListed label
  | seq left right leftHypothesis rightHypothesis
  | alt left right leftHypothesis rightHypothesis =>
      unfold resolve at success
      split at success
      · cases success
      · rename_i leftSuccess
        split at success
        · cases success
        · rename_i rightSuccess
          cases success
          exact (leftHypothesis leftSuccess).append (rightHypothesis rightSuccess)
  | opt body inductionHypothesis
  | plus body inductionHypothesis
  | star body inductionHypothesis =>
      unfold resolve at success
      split at success
      · cases success
      · rename_i bodySuccess
        cases success
        exact inductionHypothesis bodySuccess

/-- The terms of rules in the order in which they are written. -/
def termsOf (rules : List Rule) : List Term :=
  rules.flatMap fun rule => rule.body.terms

theorem numbers_of_automatonOf {index : Nat} {rule : Rule} {table extended : LabelTable}
    {automaton : RuleAutomaton}
    (success : automatonOf symbolIds vocabulary index rule table = .ok (automaton, extended)) :
    Numbers symbolIds vocabulary rule.body.terms table extended := by
  unfold automatonOf at success
  split at success
  · cases success
  · rename_i resolveSuccess
    simp only at success
    split at success
    · cases success
    · cases success
      exact numbers_of_resolve resolveSuccess

theorem numbers_of_automataOf {index : Nat} {rules : List Rule} {table final : LabelTable}
    {automata : List RuleAutomaton}
    (success : automataOf symbolIds vocabulary index rules table = .ok (automata, final)) :
    Numbers symbolIds vocabulary (termsOf rules) table final := by
  induction rules generalizing index table automata with
  | nil =>
      cases success
      exact fun seen isListed => ⟨[], rfl, by rw [List.append_nil, isListed]⟩
  | cons rule later inductionHypothesis =>
      unfold automataOf at success
      split at success
      · cases success
      · rename_i firstSuccess
        split at success
        · cases success
        · rename_i laterSuccess
          cases success
          exact (numbers_of_automatonOf firstSuccess).append (inductionHypothesis laterSuccess)

variable {rules : List Rule} {start : Option String} {policy : AmbiguityPolicy}
  {grammar : Grammar}

/-- The labels of a grammar are those of its terms, each where it first occurs. -/
theorem exists_labels_eq_of_assemble (assembled : assemble rules vocabulary start = .ok grammar) :
    ∃ termLabels : List Label,
      (termsOf rules).map (labelOf grammar.symbolIds vocabulary) = termLabels.map Except.ok ∧
        grammar.labels = termLabels.eraseDups := by
  unfold assemble at assembled
  simp only at assembled
  split at assembled
  · cases assembled
  · split at assembled
    · cases assembled
    · rename_i automataSuccess
      split at assembled
      · cases assembled
      · cases assembled
        exact numbers_of_automataOf automataSuccess [] rfl

end Grammar

/-! ## Terms in the text -/

/-- The lexeme that a term was read from. -/
def Term.lexeme (term : Term) : Lexeme where
  kind := if term.isQuoted then .quoted else .name
  text := term.text
  location := term.location

namespace GrammarText

/-- The terms of an expression, and lexemes from behind it, stand in the text in this
order. -/
def TermsInOrder (text : List Lexeme) (expression : Expr Term) (later : List Lexeme) : Prop :=
  (expression.terms.map Term.lexeme ++ later).Sublist text

theorem TermsInOrder.both {text rest later : List Lexeme} {first second combined : Expr Term}
    (combines : combined.terms = first.terms ++ second.terms)
    (firstInOrder : ∀ later, later.Sublist rest → TermsInOrder text first later)
    (secondInOrder : TermsInOrder rest second later) : TermsInOrder text combined later := by
  have inOrder := firstInOrder _ secondInOrder
  rw [TermsInOrder, combines, List.map_append, List.append_assoc]
  exact inOrder

mutual

theorem SpellsAlternatives.inOrder {text behind later : List Lexeme} {expression : Expr Term}
    (isLater : later.Sublist behind) :
    SpellsAlternatives text expression behind → TermsInOrder text expression later
  | .single items => items.inOrder isLater
  | .bar items _ others =>
      .both rfl (fun _ isBehind => items.inOrder (isBehind.cons _)) (others.inOrder isLater)

theorem SpellsItems.inOrder {text behind later : List Lexeme} {expression : Expr Term}
    (isLater : later.Sublist behind) :
    SpellsItems text expression behind → TermsInOrder text expression later
  | .single item => item.inOrder isLater
  | .more item others =>
      .both rfl (fun _ isBehind => item.inOrder isBehind) (others.inOrder isLater)

theorem SpellsItem.inOrder {text behind later : List Lexeme} {expression : Expr Term}
    (isLater : later.Sublist behind) :
    SpellsItem text expression behind → TermsInOrder text expression later
  | .optional _ body _ => (body.inOrder (isLater.cons _)).cons _
  | .once atom => atom.inOrder isLater
  | .plus atom _ => by
      have inner := atom.inOrder (isLater.cons _)
      exact inner
  | .star atom _ => by
      have inner := atom.inOrder (isLater.cons _)
      exact inner

theorem SpellsAtom.inOrder {text behind later : List Lexeme} {expression : Expr Term}
    (isLater : later.Sublist behind) :
    SpellsAtom text expression behind → TermsInOrder text expression later
  | .group _ body _ => (body.inOrder (isLater.cons _)).cons _
  | .name isName => by
      rw [TermsInOrder, Expr.terms, List.map_singleton, Term.lexeme, ← isName]
      exact isLater.cons_cons _
  | .quoted isQuoted => by
      rw [TermsInOrder, Expr.terms, List.map_singleton, Term.lexeme, ← isQuoted]
      exact isLater.cons_cons _

end

/-- The terms of the rules are lexemes of the text, from left to right. -/
theorem SpellsFile.sublist {lexemes : List Lexeme} {rules : List Rule}
    (spelled : SpellsFile lexemes rules) :
    ((Grammar.termsOf rules).map Term.lexeme).Sublist lexemes := by
  induction spelled with
  | finish => exact List.nil_sublist _
  | newline _ _ inductionHypothesis => exact inductionHypothesis.cons _
  | rule ruleSpelled _ inductionHypothesis =>
      cases ruleSpelled with
      | rule _ _ body _ =>
          have inOrder := body.inOrder (inductionHypothesis.cons _)
          rw [Grammar.termsOf, List.flatMap_cons, List.map_append]
          exact (inOrder.cons _).cons _

end GrammarText

/-! ## Labels on arcs -/

namespace Expr

open scoped Computability

variable {Label : Type}

theorem exists_mem_language (expression : Expr Label) :
    ∃ word, word ∈ expression.language Nfa.letter := by
  induction expression with
  | term label => exact ⟨[label], rfl⟩
  | seq left right leftHypothesis rightHypothesis =>
      obtain ⟨word, isWord⟩ := leftHypothesis
      obtain ⟨later, isLater⟩ := rightHypothesis
      exact ⟨word ++ later, Language.append_mem_mul isWord isLater⟩
  | alt left right leftHypothesis _ =>
      obtain ⟨word, isWord⟩ := leftHypothesis
      exact ⟨word, .inl isWord⟩
  | opt body _ => exact ⟨[], .inr rfl⟩
  | plus body inductionHypothesis =>
      obtain ⟨word, isWord⟩ := inductionHypothesis
      exact ⟨word ++ [], Language.append_mem_mul isWord (Language.nil_mem_kstar _)⟩
  | star body _ => exact ⟨[], Language.nil_mem_kstar _⟩

/-- Every term of an expression occurs in a word of the expression. -/
theorem exists_mem_language_of_mem_terms {expression : Expr Label} {label : Label}
    (isTerm : label ∈ expression.terms) :
    ∃ word ∈ expression.language Nfa.letter, label ∈ word := by
  induction expression with
  | term value =>
      rw [List.mem_singleton.mp isTerm]
      exact ⟨[value], rfl, .head _⟩
  | seq left right leftHypothesis rightHypothesis =>
      rcases List.mem_append.mp isTerm with inLeft | inRight
      · obtain ⟨word, isWord, inWord⟩ := leftHypothesis inLeft
        obtain ⟨later, isLater⟩ := right.exists_mem_language
        exact ⟨word ++ later, Language.append_mem_mul isWord isLater,
          List.mem_append_left _ inWord⟩
      · obtain ⟨word, isWord⟩ := left.exists_mem_language
        obtain ⟨later, isLater, inLater⟩ := rightHypothesis inRight
        exact ⟨word ++ later, Language.append_mem_mul isWord isLater,
          List.mem_append_right _ inLater⟩
  | alt left right leftHypothesis rightHypothesis =>
      rcases List.mem_append.mp isTerm with inLeft | inRight
      · obtain ⟨word, isWord, inWord⟩ := leftHypothesis inLeft
        exact ⟨word, .inl isWord, inWord⟩
      · obtain ⟨word, isWord, inWord⟩ := rightHypothesis inRight
        exact ⟨word, .inr isWord, inWord⟩
  | opt body inductionHypothesis =>
      obtain ⟨word, isWord, inWord⟩ := inductionHypothesis isTerm
      exact ⟨word, .inl isWord, inWord⟩
  | plus body inductionHypothesis =>
      obtain ⟨word, isWord, inWord⟩ := inductionHypothesis isTerm
      exact ⟨word ++ [], Language.append_mem_mul isWord (Language.nil_mem_kstar _),
        List.mem_append_left _ inWord⟩
  | star body inductionHypothesis =>
      obtain ⟨word, isWord, inWord⟩ := inductionHypothesis isTerm
      have contained : body.language Nfa.letter ≤ (body.language Nfa.letter)∗ := le_kstar
      exact ⟨word, contained isWord, inWord⟩

theorem SameShape.exists_related_of_mem {Term Other : Type} {related : Term → Other → Prop}
    {expression : Expr Term} {other : Expr Other} (shape : SameShape related expression other)
    {term : Term} (isTerm : term ∈ expression.terms) :
    ∃ value ∈ other.terms, related term value := by
  induction shape with
  | term isRelated =>
      rw [List.mem_singleton.mp isTerm]
      exact ⟨_, .head _, isRelated⟩
  | seq _ _ leftHypothesis rightHypothesis
  | alt _ _ leftHypothesis rightHypothesis =>
      rcases List.mem_append.mp isTerm with inLeft | inRight
      · obtain ⟨value, isValue, isRelated⟩ := leftHypothesis inLeft
        exact ⟨value, List.mem_append_left _ isValue, isRelated⟩
      · obtain ⟨value, isValue, isRelated⟩ := rightHypothesis inRight
        exact ⟨value, List.mem_append_right _ isValue, isRelated⟩
  | opt _ inductionHypothesis
  | plus _ inductionHypothesis
  | star _ inductionHypothesis => exact inductionHypothesis isTerm

end Expr

namespace Dfa

variable {states : List State} {source label : Nat} {word : List Nat}

theorem exists_arc_of_acceptsFrom (accepted : AcceptsFrom states source word)
    (inWord : label ∈ word) : ∃ state ∈ states, ∃ arc ∈ state.arcs, arc.label = label := by
  induction word generalizing source with
  | nil => cases inWord
  | cons first later inductionHypothesis =>
      obtain ⟨state, arc, found, isArc, sameLabel, accepted⟩ := acceptsFrom_cons.mp accepted
      by_cases isFirst : label = first
      · exact ⟨state, List.mem_of_getElem? found, arc, isArc, sameLabel.trans isFirst.symm⟩
      · exact inductionHypothesis accepted (List.mem_of_ne_of_mem isFirst inWord)

/-- Every term of an expression is on an arc of the automaton of the expression. -/
theorem exists_arc_of_mem_terms {expression : Expr Nat} (isTerm : label ∈ expression.terms) :
    ∃ state ∈ ofExpr expression, ∃ arc ∈ state.arcs, arc.label = label := by
  obtain ⟨word, means, inWord⟩ := Expr.exists_mem_language_of_mem_terms isTerm
  have across := expression.language_le_across Nfa.letter means
  exact exists_arc_of_acceptsFrom (((ofExpr_spec expression).2 word).mpr across) inWord

end Dfa

namespace Grammar

variable {rules : List Rule} {vocabulary : Vocabulary} {start : Option String}
  {policy : AmbiguityPolicy} {grammar : Grammar} {token : Token}

/-- Every label of a grammar is on an arc. -/
theorem Compiled.exists_arc_of_label (compiled : Compiled rules vocabulary grammar)
    {termLabels : List Label}
    (resolved : (termsOf rules).map (labelOf grammar.symbolIds vocabulary) =
      termLabels.map Except.ok)
    (listed : grammar.labels = termLabels.eraseDups) {number : LabelId}
    (inRange : number < grammar.labels.length) :
    ∃ automaton ∈ grammar.automata, ∃ state ∈ automaton.states,
      ∃ arc ∈ state.arcs, arc.label = number := by
  obtain ⟨label, found⟩ : ∃ label, grammar.labels[number]? = some label :=
    ⟨_, List.getElem?_eq_getElem inRange⟩
  have isLabel := List.mem_of_getElem? found
  rw [listed, List.mem_eraseDups] at isLabel
  have isResolved : Except.ok label ∈
      (termsOf rules).map (labelOf grammar.symbolIds vocabulary) := by
    rw [resolved]
    exact List.mem_map_of_mem isLabel
  obtain ⟨term, isTerm, labelled⟩ := List.mem_map.mp isResolved
  obtain ⟨rule, isRule, inBody⟩ := List.mem_flatMap.mp isTerm
  obtain ⟨index, isIndex, ruleFound⟩ := List.getElem_of_mem isRule
  have hasAutomaton : index < grammar.automata.length := by
    rw [compiled.length]
    exact isIndex
  have isOf := compiled.automaton index rule grammar.automata[index]
    (ruleFound ▸ List.getElem?_eq_getElem isIndex) (List.getElem?_eq_getElem hasAutomaton)
  obtain ⟨body, shape, states_eq⟩ := isOf.body
  obtain ⟨value, isValue, names⟩ := shape.exists_related_of_mem inBody
  obtain ⟨other, otherLabelled, otherFound⟩ := names
  have sameLabel : other = label := Except.ok.inj (otherLabelled.symm.trans labelled)
  rw [sameLabel] at otherFound
  obtain rfl := LabelTable.number_unique found otherFound
  refine ⟨grammar.automata[index], List.getElem_mem hasAutomaton, ?_⟩
  rw [states_eq]
  exact Dfa.exists_arc_of_mem_terms isValue

/-! ## Indices -/

/-- The indices of a grammar and the list of its labels lead to each other. -/
structure IndicesInvert (vocabulary : Vocabulary) (grammar : Grammar) : Prop where
  keyword : ∀ text number, grammar.labelTable.keywordIds.get? text = some number ↔
    grammar.labels[number]? = some (.keyword text)
  operator : ∀ literal number, grammar.labelTable.operatorIds.get? literal = some number ↔
    ∃ kind, vocabulary.operatorKind? literal = some kind ∧
      grammar.labels[number]? = some (.operator literal kind)
  token : ∀ kind number, grammar.labelTable.tokenIds.get? kind = some number ↔
    grammar.labels[number]? = some (.token kind)

theorem indicesInvert (indexed : grammar.labelTable.Indexed)
    (exact : grammar.labelTable.Exact grammar.symbolIds vocabulary) :
    IndicesInvert vocabulary grammar where
  keyword text number :=
    ⟨indexed.keyword text number, fun found => exact.found number _ (.keyword text) found rfl⟩
  operator literal number := by
    constructor
    · intro isFound
      obtain ⟨kind, found⟩ := indexed.operator literal number isFound
      exact ⟨kind, (exact.fits number _ found).2, found⟩
    · intro isOperator
      obtain ⟨kind, _, found⟩ := isOperator
      exact exact.found number _ (.operator literal) found rfl
  token kind number :=
    ⟨indexed.token kind number, fun found => exact.found number _ (.token kind) found rfl⟩

/-! ## Candidates -/

/-- A label matches a token: a keyword matches an identifier spelled like it, an operator a
token of its kind spelled like it, and a token kind every token of this kind except the
keywords of the grammar. -/
def Matches (grammar : Grammar) (token : Token) : Label → Prop
  | .keyword text => token.kind = grammar.keywordToken ∧ token.value = text
  | .operator literal kind => token.kind = kind ∧ token.value = literal
  | .token kind => token.kind = kind ∧
      ¬(token.kind = grammar.keywordToken ∧ .keyword token.value ∈ grammar.labels)
  | .rule _ => False

/-- The label with a number matches a token. -/
def MatchesNumber (grammar : Grammar) (token : Token) (number : LabelId) : Prop :=
  ∃ label, grammar.labels[number]? = some label ∧ grammar.Matches token label

/-- One label is an operator and another one a token kind. -/
def OperatorBeforeKind (grammar : Grammar) (earlier later : LabelId) : Prop :=
  (∃ literal kind, grammar.labels[earlier]? = some (.operator literal kind)) ∧
    ∃ kind, grammar.labels[later]? = some (.token kind)

section Classify

variable {number : LabelId} (invert : IndicesInvert vocabulary grammar)
  (exact : grammar.labelTable.Exact grammar.symbolIds vocabulary)

include invert in
theorem keywordLabel?_eq_some_iff :
    grammar.keywordLabel? token = some number ↔
      token.kind = grammar.keywordToken ∧
        grammar.labels[number]? = some (.keyword token.value) := by
  unfold keywordLabel?
  by_cases isIdentifier : token.kind = grammar.keywordToken
  · rw [if_pos isIdentifier, invert.keyword]
    exact (and_iff_right isIdentifier).symm
  · rw [if_neg isIdentifier]
    simp [isIdentifier]

include invert exact in
theorem operatorLabel?_eq_some_iff :
    grammar.operatorLabel? token = some number ↔
      grammar.labels[number]? = some (.operator token.value token.kind) := by
  unfold operatorLabel?
  rw [Option.filter_eq_some_iff, invert.operator]
  constructor
  · rintro ⟨⟨kind, _, found⟩, sameKind⟩
    have isLabel : grammar.labelTable.get? number = some (.operator token.value kind) := found
    simp only [isLabel] at sameKind
    rw [found, eq_of_beq sameKind]
  · intro found
    have isKind := (exact.fits number _ found).2
    have isLabel : grammar.labelTable.get? number = some (.operator token.value token.kind) :=
      found
    refine ⟨⟨token.kind, isKind, found⟩, ?_⟩
    simp only [isLabel, beq_self_eq_true]

include invert exact in
theorem mem_classify_of_keywordLabel? {keyword : LabelId}
    (isKeyword : grammar.keywordLabel? token = some keyword) :
    number ∈ grammar.classify token ↔ grammar.MatchesNumber token number := by
  obtain ⟨isIdentifier, keywordFound⟩ := (keywordLabel?_eq_some_iff invert).mp isKeyword
  simp only [classify, isKeyword, List.mem_singleton]
  constructor
  · intro isNumber
    rw [isNumber]
    exact ⟨_, keywordFound, isIdentifier, rfl⟩
  · intro isMatch
    obtain ⟨label, found, isMatch⟩ := isMatch
    cases label with
    | keyword text =>
        rw [isMatch.2] at keywordFound
        exact LabelTable.number_unique found keywordFound
    | operator literal kind =>
        -- An operator is not spelled like a name.
        have notKeyword : Grammar.isKeyword literal = false := (exact.fits number _ found).1
        have beginsLikeName : Grammar.isKeyword token.value = true :=
          exact.fits keyword _ keywordFound
        rw [isMatch.2, notKeyword] at beginsLikeName
        cases beginsLikeName
    | token kind => exact absurd ⟨isIdentifier, List.mem_of_getElem? keywordFound⟩ isMatch.2
    | rule symbol => exact isMatch.elim

include invert exact in
theorem mem_classify_of_keywordLabel?_eq_none
    (noKeyword : grammar.keywordLabel? token = none) :
    number ∈ grammar.classify token ↔ grammar.MatchesNumber token number := by
  have notDeclared :
      ¬(token.kind = grammar.keywordToken ∧ .keyword token.value ∈ grammar.labels) := by
    intro declared
    obtain ⟨keyword, found⟩ := List.mem_iff_getElem?.mp declared.2
    have isKeyword := (keywordLabel?_eq_some_iff invert).mpr ⟨declared.1, found⟩
    cases noKeyword.symm.trans isKeyword
  simp only [classify, noKeyword, List.mem_append, Option.mem_toList,
    operatorLabel?_eq_some_iff invert exact, invert.token]
  constructor
  · intro isCandidate
    rcases isCandidate with isOperator | isToken
    · exact ⟨_, isOperator, rfl, rfl⟩
    · exact ⟨_, isToken, rfl, notDeclared⟩
  · intro isMatch
    obtain ⟨label, found, isMatch⟩ := isMatch
    cases label with
    | keyword text =>
        rw [← isMatch.2] at found
        exact absurd ⟨isMatch.1, List.mem_of_getElem? found⟩ notDeclared
    | operator literal kind =>
        rw [isMatch.1, isMatch.2]
        exact .inl found
    | token kind =>
        rw [isMatch.1]
        exact .inr found
    | rule symbol => exact isMatch.elim

include invert exact in
/-- The candidates of a token are the labels that match it. -/
theorem mem_classify_iff :
    number ∈ grammar.classify token ↔ grammar.MatchesNumber token number := by
  cases isKeyword : grammar.keywordLabel? token with
  | some keyword => exact mem_classify_of_keywordLabel? invert exact isKeyword
  | none => exact mem_classify_of_keywordLabel?_eq_none invert exact isKeyword

include invert exact in
theorem pairwise_classify : (grammar.classify token).Pairwise grammar.OperatorBeforeKind := by
  unfold classify
  split
  · exact List.pairwise_singleton _ _
  · refine List.pairwise_append.mpr ⟨?_, ?_, ?_⟩
    · cases grammar.operatorLabel? token with
      | none => exact List.Pairwise.nil
      | some operator => exact List.pairwise_singleton _ _
    · cases grammar.labelTable.tokenIds.get? token.kind with
      | none => exact List.Pairwise.nil
      | some kind => exact List.pairwise_singleton _ _
    · intro operator isOperator kind isKind
      have operatorFound :=
        (operatorLabel?_eq_some_iff invert exact).mp (Option.mem_toList.mp isOperator)
      have kindFound := (invert.token token.kind kind).mp (Option.mem_toList.mp isKind)
      exact ⟨⟨_, _, operatorFound⟩, _, kindFound⟩

end Classify

/-! ## Compiled grammars -/

/-- The labels of a compiled grammar are numbered as their terms first occur in the text,
each of them is on an arc, the indices lead back from labels to their numbers, and the
candidates of a token are exactly the labels that match it, the operator first. -/
theorem compile_labels_exact {source : String}
    (compiled : compile source vocabulary start policy = .ok grammar) :
    ∃ lexemes rules, ∃ termLabels : List Label,
      scan source = .ok lexemes ∧ readRules source = .ok rules ∧
      ((termsOf rules).map Term.lexeme).Sublist lexemes ∧
      (termsOf rules).map (labelOf grammar.symbolIds vocabulary) = termLabels.map Except.ok ∧
      grammar.labels = termLabels.eraseDups ∧ grammar.labels.Nodup ∧
      (∀ number < grammar.labels.length, ∃ automaton ∈ grammar.automata,
        ∃ state ∈ automaton.states, ∃ arc ∈ state.arcs, arc.label = number) ∧
      IndicesInvert vocabulary grammar ∧
      grammar.keywordToken = vocabulary.keywordToken ∧
      ∀ token,
        (∀ number, number ∈ grammar.classify token ↔ grammar.MatchesNumber token number) ∧
        (grammar.classify token).Pairwise grammar.OperatorBeforeKind := by
  obtain ⟨rules, read, built⟩ := compile_eq_ok compiled
  obtain ⟨capacity, assembled, _⟩ := build_eq_ok_iff.mp built
  obtain ⟨lexemes, scanned, spelled⟩ := spells_of_readRules read
  obtain ⟨termLabels, resolved, listed⟩ := exists_labels_eq_of_assemble assembled
  have isCompiled := compiled_of_assemble capacity assembled
  have exact := exact_of_assemble assembled
  have invert := indicesInvert isCompiled.indexed exact
  refine ⟨lexemes, rules, termLabels, scanned, read, spelled.sublist, resolved, listed,
    grammar.labelTable.roster.distinct, ?_, invert, (tokenNames_of_assemble assembled).1, ?_⟩
  · intro number inRange
    exact isCompiled.exists_arc_of_label resolved listed inRange
  · intro token
    exact ⟨fun number => mem_classify_iff invert exact, pairwise_classify invert exact⟩

/-- A vocabulary in which an operator has the kind of the identifiers. -/
def crowdedVocabulary : Vocabulary :=
  ((Vocabulary.unnamed 1 0).nameTokens [("NAME", 1), ("ENDMARKER", 0)]).addOperators [("+", 1)]

/-- Names with signs between them, up to a keyword. -/
def signedListText : String := "list: NAME part* 'end'\npart: '+' NAME\n"

/-- The sign is an operator and an identifier; the keyword is no identifier. -/
theorem compile_labels_exact_signedListText :
    ∃ grammar,
      compile signedListText crowdedVocabulary none .reject = .ok grammar ∧
      grammar.labels = [.token 1, .rule 257, .keyword "end", .operator "+" 1] ∧
      (∀ position line, 3 ∈ grammar.classify ⟨1, "+", position, line⟩ ∧
        0 ∈ grammar.classify ⟨1, "+", position, line⟩) ∧
      ∀ position line, 2 ∈ grammar.classify ⟨1, "end", position, line⟩ ∧
        0 ∉ grammar.classify ⟨1, "end", position, line⟩ := by
  have contents : (compile signedListText crowdedVocabulary none .reject).map Grammar.labels =
      .ok [.token 1, .rule 257, .keyword "end", .operator "+" 1] := by
    decide +kernel
  cases compiled : compile signedListText crowdedVocabulary none .reject with
  | error failure =>
      rw [compiled] at contents
      cases contents
  | ok grammar =>
      rw [compiled] at contents
      have labels_eq := Except.ok.inj contents
      obtain ⟨_, _, _, _, _, _, _, _, _, _, _, keyword_eq, candidates⟩ :=
        compile_labels_exact compiled
      have isIdentifier : grammar.keywordToken = 1 := keyword_eq
      refine ⟨grammar, rfl, labels_eq, ?_, ?_⟩
      · intro position line
        have areCandidates := (candidates ⟨1, "+", position, line⟩).1
        have notKeyword : Label.keyword "+" ∉ grammar.labels := by
          rw [labels_eq]
          decide
        constructor
        · exact (areCandidates 3).mpr ⟨.operator "+" 1, by rw [labels_eq]; rfl, rfl, rfl⟩
        · exact (areCandidates 0).mpr ⟨.token 1, by rw [labels_eq]; rfl, rfl,
            fun declared => notKeyword declared.2⟩
      · intro position line
        have areCandidates := (candidates ⟨1, "end", position, line⟩).1
        have isKeyword : Label.keyword "end" ∈ grammar.labels := by
          rw [labels_eq]
          decide
        constructor
        · exact (areCandidates 2).mpr
            ⟨.keyword "end", by rw [labels_eq]; rfl, isIdentifier.symm, rfl⟩
        · intro isCandidate
          obtain ⟨label, found, isMatch⟩ := (areCandidates 0).mp isCandidate
          rw [labels_eq] at found
          obtain rfl := Option.some.inj found
          exact isMatch.2 ⟨isIdentifier.symm, isKeyword⟩

end Grammar

end RuleMachine
