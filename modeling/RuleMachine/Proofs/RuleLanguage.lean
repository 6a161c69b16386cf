import RuleMachine.Proofs.Compilation
import RuleMachine.Proofs.RuleText
import RuleMachine.Vocabulary.Standard

/-!
# The language of a compiled rule

A rule of a grammar text has a right-hand side, and a term of it stands for one
label of the compiled grammar.  The automaton of the rule accepts what the paths
across the fragment of the right-hand side spell.  That is everything the rule
means, and nothing else if no repetition stands below an option or a star.
-/

namespace RuleMachine

open GrammarText

namespace Grammar

variable {source : String} {rules : List Rule} {vocabulary : Vocabulary}
  {start : Option String} {policy : AmbiguityPolicy} {grammar : Grammar}
  {index : Nat} {rule : Rule} {automaton : RuleAutomaton} {word : List LabelId}

/-! ## Terms -/

/-- The words of a term: the number of its label, read once. -/
def termLanguage (grammar : Grammar) (vocabulary : Vocabulary) (term : Term) :
    Language LabelId :=
  {word | ∃ number, Names grammar.symbolIds vocabulary grammar.labelTable term number ∧
    word = [number]}

theorem number_unique {term : Term} {number other : LabelId}
    (names : Names grammar.symbolIds vocabulary grammar.labelTable term number)
    (otherNames : Names grammar.symbolIds vocabulary grammar.labelTable term other) :
    number = other := by
  obtain ⟨label, isLabel, found⟩ := names
  obtain ⟨otherLabel, isOtherLabel, otherFound⟩ := otherNames
  have sameLabel : label = otherLabel := Except.ok.inj (isLabel.symm.trans isOtherLabel)
  subst sameLabel
  exact LabelTable.number_unique found otherFound

theorem termLanguage_eq {term : Term} {number : LabelId}
    (names : Names grammar.symbolIds vocabulary grammar.labelTable term number) :
    grammar.termLanguage vocabulary term = Nfa.letter number := by
  ext word
  constructor
  · rintro ⟨other, otherNames, rfl⟩
    rw [number_unique names otherNames]
    exact Set.mem_singleton _
  · intro isLetter
    exact ⟨number, names, isLetter⟩

theorem exists_names_of_mem_terms {expression : Expr Term} {resolved : Expr LabelId}
    (shape : Expr.SameShape (Names grammar.symbolIds vocabulary grammar.labelTable)
      expression resolved) :
    ∀ term ∈ expression.terms,
      ∃ number, Names grammar.symbolIds vocabulary grammar.labelTable term number := by
  induction shape with
  | term names =>
      intro term member
      rw [List.mem_singleton.mp member]
      exact ⟨_, names⟩
  | seq _ _ leftHypothesis rightHypothesis =>
      intro term member
      rcases List.mem_append.mp member with inLeft | inRight
      · exact leftHypothesis term inLeft
      · exact rightHypothesis term inRight
  | alt _ _ leftHypothesis rightHypothesis =>
      intro term member
      rcases List.mem_append.mp member with inLeft | inRight
      · exact leftHypothesis term inLeft
      · exact rightHypothesis term inRight
  | opt _ inductionHypothesis => exact inductionHypothesis
  | plus _ inductionHypothesis => exact inductionHypothesis
  | star _ inductionHypothesis => exact inductionHypothesis

/-! ## Rules -/

theorem AutomatonOf.accepts_iff_across
    (isAutomaton : AutomatonOf grammar.symbolIds vocabulary grammar.labelTable index rule
      automaton) :
    Dfa.Accepts automaton.states word ↔
      word ∈ (rule.body.endPaths (grammar.termLanguage vocabulary)).across := by
  obtain ⟨resolved, shape, states_eq⟩ := isAutomaton.body
  have samePaths : rule.body.endPaths (grammar.termLanguage vocabulary) =
      resolved.endPaths Nfa.letter :=
    shape.endPaths_eq fun _ _ names => termLanguage_eq names
  rw [states_eq, samePaths]
  exact (Dfa.ofExpr_spec resolved).2 word

theorem AutomatonOf.terms_named
    (isAutomaton : AutomatonOf grammar.symbolIds vocabulary grammar.labelTable index rule
      automaton) :
    ∀ term ∈ rule.body.terms,
      ∃ number, grammar.termLanguage vocabulary term = Nfa.letter number := by
  obtain ⟨resolved, shape, _⟩ := isAutomaton.body
  intro term member
  obtain ⟨number, names⟩ := exists_names_of_mem_terms shape term member
  exact ⟨number, termLanguage_eq names⟩

/-- The rules of a text, and the automata of a grammar that belong to them. -/
structure CompiledFrom (source : String) (vocabulary : Vocabulary) (grammar : Grammar)
    (rules : List Rule) : Prop where
  spelled : ∃ lexemes, scan source = .ok lexemes ∧ SpellsFile lexemes rules
  length : grammar.automata.length = rules.length
  name : ∀ (index : Nat) rule automaton, rules[index]? = some rule →
    grammar.automata[index]? = some automaton → automaton.name = rule.name
  /-- Every term has one label. -/
  terms : ∀ rule ∈ rules, ∀ term ∈ rule.body.terms,
    ∃ number, grammar.termLanguage vocabulary term = Nfa.letter number

theorem compiledFrom_of_build (read : readRules source = .ok rules)
    (built : build rules vocabulary start policy = .ok grammar) :
    CompiledFrom source vocabulary grammar rules := by
  obtain ⟨compiled, _⟩ := compiled_of_build built
  refine
    { spelled := spells_of_readRules read
      length := compiled.length
      name := ?_
      terms := ?_ }
  · intro index rule automaton ruleFound automatonFound
    exact (compiled.automaton index rule automaton ruleFound automatonFound).name
  · intro rule isRule
    obtain ⟨index, inRange, ruleFound⟩ := List.getElem_of_mem isRule
    have hasAutomaton : index < grammar.automata.length := by
      rw [compiled.length]
      exact inRange
    have isAutomaton := compiled.automaton index rule grammar.automata[index]
      (ruleFound ▸ List.getElem?_eq_getElem inRange) (List.getElem?_eq_getElem hasAutomaton)
    exact isAutomaton.terms_named

/-- The automaton of a rule loses nothing of what the rule means, and it is exact if no
repetition stands below an option or a star. -/
theorem compiled_accepts_language
    (compiled : compile source vocabulary start policy = .ok grammar) :
    ∃ rules, readRules source = .ok rules ∧ CompiledFrom source vocabulary grammar rules ∧
      ∀ (index : Nat) rule automaton, rules[index]? = some rule →
        grammar.automata[index]? = some automaton →
        (∀ word ∈ rule.body.language (grammar.termLanguage vocabulary),
          Dfa.Accepts automaton.states word) ∧
        (rule.body.hasPlainOptions = true →
          ∀ word, Dfa.Accepts automaton.states word ↔
            word ∈ rule.body.language (grammar.termLanguage vocabulary)) := by
  obtain ⟨rules, read, built⟩ := compile_eq_ok compiled
  refine ⟨rules, read, compiledFrom_of_build read built, ?_⟩
  intro index rule automaton ruleFound automatonFound
  have isAutomaton :=
    (compiled_of_build built).1.automaton index rule automaton ruleFound automatonFound
  constructor
  · intro word means
    rw [isAutomaton.accepts_iff_across]
    exact rule.body.language_le_across _ means
  · intro plain word
    rw [isAutomaton.accepts_iff_across, Expr.across_eq_language _ plain]

/-- A sum of names: the star repeats something without repetitions. -/
def sumText : String := "sum: NAME ('+' NAME)*\n"

theorem compiled_accepts_language_sumText :
    ∃ grammar rule automaton, compile sumText Vocabulary.mini none .reject = .ok grammar ∧
      readRules sumText = .ok [rule] ∧ grammar.automata = [automaton] ∧
      ∀ word, Dfa.Accepts automaton.states word ↔
        word ∈ rule.body.language (grammar.termLanguage Vocabulary.mini) := by
  have succeeds : (compile sumText Vocabulary.mini none .reject).isOk = true := by
    decide +kernel
  have plain : (readRules sumText).map (·.map fun rule => rule.body.hasPlainOptions) =
      .ok [true] := by
    decide +kernel
  obtain ⟨grammar, compiled⟩ := exists_ok_of_isOk succeeds
  obtain ⟨rules, read, compiledFrom, areExact⟩ := compiled_accepts_language compiled
  rw [read] at plain
  obtain ⟨rule, rfl, isPlain⟩ := List.map_eq_singleton_iff.mp (Except.ok.inj plain)
  obtain ⟨automaton, automata_eq⟩ := List.length_eq_one_iff.mp compiledFrom.length
  have isExact := (areExact 0 rule automaton rfl (by rw [automata_eq]; rfl)).2 isPlain
  exact ⟨grammar, rule, automaton, compiled, read, automata_eq, isExact⟩

/-- The automaton of a rule accepts what can be read across the fragment of its right-hand
side.  So it accepts nothing but what the rule means exactly if the paths across spell
nothing else. -/
theorem compiled_accepts_iff_across
    (compiled : compile source vocabulary start policy = .ok grammar) :
    ∃ rules, readRules source = .ok rules ∧ CompiledFrom source vocabulary grammar rules ∧
      ∀ (index : Nat) rule automaton, rules[index]? = some rule →
        grammar.automata[index]? = some automaton →
        (∀ word, Dfa.Accepts automaton.states word ↔
          word ∈ (rule.body.endPaths (grammar.termLanguage vocabulary)).across) ∧
        ((∀ word, Dfa.Accepts automaton.states word →
            word ∈ rule.body.language (grammar.termLanguage vocabulary)) ↔
          (rule.body.endPaths (grammar.termLanguage vocabulary)).across ≤
            rule.body.language (grammar.termLanguage vocabulary)) := by
  obtain ⟨rules, read, built⟩ := compile_eq_ok compiled
  refine ⟨rules, read, compiledFrom_of_build read built, ?_⟩
  intro index rule automaton ruleFound automatonFound
  have isAutomaton :=
    (compiled_of_build built).1.automaton index rule automaton ruleFound automatonFound
  refine ⟨fun word => isAutomaton.accepts_iff_across, ?_⟩
  constructor
  · intro sound word across
    exact sound word (isAutomaton.accepts_iff_across.mpr across)
  · intro contained word accepted
    exact contained (isAutomaton.accepts_iff_across.mp accepted)

/-! ## An option that begins with a repetition -/

/-- Names and a number behind them, or nothing. -/
def optionalListText : String := "r: [NAME* NUMBER]\n"

/-- The rule of the text. -/
def optionalListRule : Rule where
  name := "r"
  body := .opt (.seq (.star (.term ⟨"NAME", false, ⟨1, 4, 8, optionalListText⟩⟩))
    (.term ⟨"NUMBER", false, ⟨1, 10, 16, optionalListText⟩⟩))

/-- Between two names the automaton is back in its first state, which accepts. -/
theorem optionalListText_compiles :
    ∃ grammar automaton,
      compile optionalListText Vocabulary.mini none .reject = .ok grammar ∧
      readRules optionalListText = .ok [optionalListRule] ∧ grammar.automata = [automaton] ∧
      Dfa.Accepts automaton.states [0] ∧ grammar.labels = [.token 1, .token 2] := by
  have succeeds : (compile optionalListText Vocabulary.mini none .reject).isOk = true := by
    decide +kernel
  have contents : (compile optionalListText Vocabulary.mini none .reject).map
      (fun grammar => (grammar.automata.map RuleAutomaton.states, grammar.labels)) =
        .ok ([[⟨[⟨0, 0⟩, ⟨1, 1⟩], true⟩, ⟨[], true⟩]], [.token 1, .token 2]) := by
    decide +kernel
  obtain ⟨grammar, compiled⟩ := exists_ok_of_isOk succeeds
  rw [compiled] at contents
  obtain ⟨automata_eq, labels_eq⟩ := Prod.mk.inj (Except.ok.inj contents)
  obtain ⟨automaton, automata_eq, states_eq⟩ := List.map_eq_singleton_iff.mp automata_eq
  have read : readRules optionalListText = .ok [optionalListRule] := by
    decide +kernel
  have accepted : Dfa.Accepts automaton.states [0] := by
    rw [states_eq]
    exact Dfa.acceptsFrom_cons.mpr
      ⟨_, ⟨0, 0⟩, rfl, .head _, rfl, Dfa.acceptsFrom_nil.mpr ⟨_, rfl, rfl⟩⟩
  exact ⟨grammar, automaton, compiled, read, automata_eq, accepted, labels_eq⟩

/-- What the rule means is empty or ends with a number. -/
theorem eq_nil_or_of_mem_language
    (labels_eq : grammar.labels = [.token 1, .token 2])
    (symbolIds_eq : grammar.symbolIds = symbolsOf [optionalListRule])
    (means : word ∈ optionalListRule.body.language (grammar.termLanguage Vocabulary.mini)) :
    word = [] ∨ ∃ names, word = names ++ [1] := by
  have isToken : labelOf (symbolsOf [optionalListRule]) Vocabulary.mini
      ⟨"NUMBER", false, ⟨1, 10, 16, optionalListText⟩⟩ = .ok (.token 2) := by
    decide +kernel
  have numbered : grammar.labelTable.get? 1 = some (.token 2) := by
    change grammar.labels[1]? = _
    rw [labels_eq]
    rfl
  rw [← symbolIds_eq] at isToken
  have isLetter := termLanguage_eq ⟨_, isToken, numbered⟩
  rcases means with inList | isEmpty
  · obtain ⟨names, _, last, isNumber, rfl⟩ := Language.mem_mul.mp inList
    rw [Expr.language, isLetter] at isNumber
    rw [isNumber]
    exact .inr ⟨names, rfl⟩
  · exact .inl isEmpty

/-- The automaton accepts a name without a number behind it, which the rule does not mean. -/
theorem accepts_beyond_language :
    ∃ grammar automaton,
      compile optionalListText Vocabulary.mini none .reject = .ok grammar ∧
      readRules optionalListText = .ok [optionalListRule] ∧ grammar.automata = [automaton] ∧
      Dfa.Accepts automaton.states [0] ∧
      [0] ∉ optionalListRule.body.language (grammar.termLanguage Vocabulary.mini) := by
  obtain ⟨grammar, automaton, compiled, read, automata_eq, accepted, labels_eq⟩ :=
    optionalListText_compiles
  refine ⟨grammar, automaton, compiled, read, automata_eq, accepted, ?_⟩
  obtain ⟨rules, readAgain, built⟩ := compile_eq_ok compiled
  have rules_eq := Except.ok.inj (readAgain.symm.trans read)
  have symbolIds_eq := (compiled_of_build built).1.symbolIds
  rw [rules_eq] at symbolIds_eq
  intro means
  rcases eq_nil_or_of_mem_language labels_eq symbolIds_eq means with isEmpty | ⟨names, ends⟩
  · cases isEmpty
  · have lastLabel := congrArg List.getLast? ends
    simp at lastLabel

/-- A name is read across the fragment although it is not meant: on the way there, the path
of the repetition ends at the start of the option, and the option leads on. -/
theorem compiled_accepts_iff_across_optionalListText :
    ∃ grammar,
      compile optionalListText Vocabulary.mini none .reject = .ok grammar ∧
      readRules optionalListText = .ok [optionalListRule] ∧
      [0] ∈ (optionalListRule.body.endPaths (grammar.termLanguage Vocabulary.mini)).across := by
  obtain ⟨grammar, automaton, compiled, read, automata_eq, accepted, _⟩ :=
    optionalListText_compiles
  obtain ⟨rules, readAgain, _, areAcross⟩ := compiled_accepts_iff_across compiled
  obtain rfl := Except.ok.inj (readAgain.symm.trans read)
  have isAcross :=
    (areAcross 0 optionalListRule automaton rfl (by rw [automata_eq]; rfl)).1 [0]
  exact ⟨grammar, compiled, read, isAcross.mp accepted⟩

end Grammar

end RuleMachine
