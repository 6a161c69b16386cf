import RuleMachine.Grammar.Compile
import RuleMachine.Proofs.RuleText

/-!
# Reading does not depend on places

Lexemes, terms and errors know their place in the text, and nothing else does.  Reading
lexemes and compiling rules hands places on, but never looks at them: whoever forgets the
places of the lexemes first gets what is read from them, with its places forgotten.  So
lexemes that differ only in their places give the same grammar, or errors that differ
only in their places.
-/

namespace RuleMachine

/-! ## Forgetting places -/

/-- A place that stands for any other. -/
def Location.nowhere : Location :=
  (Lexeme.finish 0).location

/-- A lexeme without its place. -/
def Lexeme.placeless (lexeme : Lexeme) : Lexeme :=
  { lexeme with location := .nowhere }

/-- A term without its place. -/
def Term.placeless (term : Term) : Term :=
  { term with location := .nowhere }

/-- An expression with its terms replaced. -/
def Expr.map {First Second : Type} (change : First → Second) : Expr First → Expr Second
  | .term value => .term (change value)
  | .seq left right => .seq (left.map change) (right.map change)
  | .alt left right => .alt (left.map change) (right.map change)
  | .opt body => .opt (body.map change)
  | .plus body => .plus (body.map change)
  | .star body => .star (body.map change)

/-- A rule without the places of its terms. -/
def Rule.placeless (rule : Rule) : Rule :=
  { rule with body := rule.body.map Term.placeless }

/-- An error without its place.  It is still known whether there was one. -/
def GrammarError.placeless (error : GrammarError) : GrammarError :=
  { error with location := error.location.map fun _ => .nowhere }

theorem GrammarError.placeless_placeless (error : GrammarError) :
    error.placeless.placeless = error.placeless := by
  unfold placeless
  rw [Option.map_map]
  rfl

/-- A failure without the place of its error. -/
def CompileFailure.placeless : CompileFailure → CompileFailure
  | .refused error => .refused error.placeless
  | .outOfSymbols => .outOfSymbols

theorem mapError_ok {Failure Value : Type} (change : Failure → Failure) (value : Value) :
    (Except.ok value).mapError change = .ok value :=
  rfl

theorem cases_of_mapError_eq {Failure Value : Type} {change : Failure → Failure}
    {first second : Except Failure Value}
    (same : first.mapError change = second.mapError change) :
    (∃ value, first = .ok value ∧ second = .ok value) ∨
      ∃ failure other, first = .error failure ∧ second = .error other ∧
        change failure = change other := by
  cases first with
  | ok value =>
      cases second with
      | ok other =>
          cases same
          exact .inl ⟨value, rfl, rfl⟩
      | error other => cases same
  | error failure =>
      cases second with
      | ok other => cases same
      | error other => exact .inr ⟨failure, other, rfl, rfl, Except.error.inj same⟩

namespace GrammarText

/-- An outcome of reading without the places in it. -/
def placelessReading {Value : Type} (forget : Value → Value) : Reading Value → Reading Value
  | .error error => .error error.placeless
  | .ok (value, behind) => .ok (forget value, behind.map Lexeme.placeless)

/-! ## Reading lexemes -/

section Lexemes

variable (lexemes : List Lexeme)

theorem isOperator_placeless (lexeme : Lexeme) (spelling : String) :
    lexeme.placeless.isOperator spelling = lexeme.isOperator spelling :=
  rfl

theorem peek_placeless : peek (lexemes.map Lexeme.placeless) = (peek lexemes).placeless := by
  cases lexemes with
  | nil => rfl
  | cons first later => rfl

theorem isOperator_peek_placeless (spelling : String) :
    (peek (lexemes.map Lexeme.placeless)).isOperator spelling =
      (peek lexemes).isOperator spelling := by
  rw [peek_placeless, isOperator_placeless]

theorem startsItem_peek_placeless :
    startsItem (peek (lexemes.map Lexeme.placeless)) = startsItem (peek lexemes) := by
  rw [peek_placeless]
  rfl

theorem kind_peek_placeless :
    (peek (lexemes.map Lexeme.placeless)).kind = (peek lexemes).kind := by
  rw [peek_placeless]
  rfl

theorem text_peek_placeless :
    (peek (lexemes.map Lexeme.placeless)).text = (peek lexemes).text := by
  rw [peek_placeless]
  rfl

theorem refuse_placeless {Value : Type} (forget : Value → Value) (reason : Malformation) :
    refuse (lexemes.map Lexeme.placeless) reason =
      placelessReading forget (refuse lexemes reason) := by
  unfold refuse
  rw [peek_placeless]
  rfl

theorem expectKind_placeless (wanted : LexemeKind) :
    expectKind wanted (lexemes.map Lexeme.placeless) =
      placelessReading Lexeme.placeless (expectKind wanted lexemes) := by
  unfold expectKind
  rw [kind_peek_placeless]
  by_cases isWanted : (peek lexemes).kind = wanted
  · rw [if_pos isWanted, if_pos isWanted, peek_placeless, placelessReading, List.map_tail]
  · rw [if_neg isWanted, if_neg isWanted, refuse_placeless]

theorem expectOperator_placeless (wanted : String) :
    expectOperator wanted (lexemes.map Lexeme.placeless) =
      placelessReading Lexeme.placeless (expectOperator wanted lexemes) := by
  unfold expectOperator
  rw [kind_peek_placeless, text_peek_placeless]
  by_cases notOperator : (peek lexemes).kind ≠ .operator
  · rw [if_pos notOperator, if_pos notOperator, refuse_placeless]
  · rw [if_neg notOperator, if_neg notOperator]
    by_cases notWanted : (peek lexemes).text ≠ wanted
    · rw [if_pos notWanted, if_pos notWanted, refuse_placeless]
    · rw [if_neg notWanted, if_neg notWanted, peek_placeless, placelessReading, List.map_tail]

theorem readRepetition_placeless (atom : Expr Term) :
    readRepetition (atom.map Term.placeless) (lexemes.map Lexeme.placeless) =
      ((readRepetition atom lexemes).1.map Term.placeless,
        (readRepetition atom lexemes).2.map Lexeme.placeless) := by
  unfold readRepetition
  rw [isOperator_peek_placeless, isOperator_peek_placeless]
  by_cases isPlus : (peek lexemes).isOperator "+" = true
  · rw [if_pos isPlus, if_pos isPlus, List.map_tail]
    rfl
  · rw [if_neg isPlus, if_neg isPlus]
    by_cases isStar : (peek lexemes).isOperator "*" = true
    · rw [if_pos isStar, if_pos isStar, List.map_tail]
      rfl
    · rw [if_neg isStar, if_neg isStar]

end Lexemes

/-- A reader of expressions does not look at places. -/
def IgnoresPlaces (read : List Lexeme → Reading (Expr Term)) : Prop :=
  ∀ lexemes, read (lexemes.map Lexeme.placeless) =
    placelessReading (Expr.map Term.placeless) (read lexemes)

/-- Readers that are given so many nested calls do not look at places. -/
structure ReadersIgnorePlaces (calls : Nat) : Prop where
  alternatives : IgnoresPlaces (readAlternatives calls)
  items : IgnoresPlaces (readItems calls)
  item : IgnoresPlaces (readItem calls)
  atom : IgnoresPlaces (readAtom calls)

namespace ReadersIgnorePlaces

variable {calls : Nat}

theorem readAlternatives (readers : ReadersIgnorePlaces calls) :
    IgnoresPlaces (readAlternatives (calls + 1)) := by
  intro lexemes
  unfold GrammarText.readAlternatives
  rw [readers.items]
  cases GrammarText.readItems calls lexemes with
  | error error => rfl
  | ok outcome =>
      obtain ⟨first, rest⟩ := outcome
      simp only [placelessReading, isOperator_peek_placeless]
      by_cases isBar : (peek rest).isOperator "|" = true
      · rw [if_pos isBar, if_pos isBar, ← List.map_tail, readers.alternatives]
        cases GrammarText.readAlternatives calls rest.tail with
        | error error => rfl
        | ok outcome => rfl
      · rw [if_neg isBar, if_neg isBar]

theorem readItems (readers : ReadersIgnorePlaces calls) :
    IgnoresPlaces (readItems (calls + 1)) := by
  intro lexemes
  unfold GrammarText.readItems
  rw [readers.item]
  cases GrammarText.readItem calls lexemes with
  | error error => rfl
  | ok outcome =>
      obtain ⟨first, rest⟩ := outcome
      simp only [placelessReading, startsItem_peek_placeless]
      by_cases starts : startsItem (peek rest) = true
      · rw [if_pos starts, if_pos starts, readers.items]
        cases GrammarText.readItems calls rest with
        | error error => rfl
        | ok outcome => rfl
      · rw [if_neg starts, if_neg starts]

theorem readItem (readers : ReadersIgnorePlaces calls) :
    IgnoresPlaces (readItem (calls + 1)) := by
  intro lexemes
  unfold GrammarText.readItem
  simp only [isOperator_peek_placeless]
  by_cases opens : (peek lexemes).isOperator "[" = true
  · rw [if_pos opens, if_pos opens, ← List.map_tail, readers.alternatives]
    cases GrammarText.readAlternatives calls lexemes.tail with
    | error error => rfl
    | ok outcome =>
        obtain ⟨body, rest⟩ := outcome
        simp only [placelessReading, expectOperator_placeless]
        cases expectOperator "]" rest with
        | error error => rfl
        | ok outcome => rfl
  · rw [if_neg opens, if_neg opens, readers.atom]
    cases GrammarText.readAtom calls lexemes with
    | error error => rfl
    | ok outcome =>
        obtain ⟨atom, rest⟩ := outcome
        simp only [placelessReading, readRepetition_placeless]

theorem readAtom (readers : ReadersIgnorePlaces calls) :
    IgnoresPlaces (readAtom (calls + 1)) := by
  intro lexemes
  unfold GrammarText.readAtom
  simp only [isOperator_peek_placeless, kind_peek_placeless, text_peek_placeless]
  by_cases opens : (peek lexemes).isOperator "(" = true
  · rw [if_pos opens, if_pos opens, ← List.map_tail, readers.alternatives]
    cases GrammarText.readAlternatives calls lexemes.tail with
    | error error => rfl
    | ok outcome =>
        obtain ⟨body, rest⟩ := outcome
        simp only [placelessReading, expectOperator_placeless]
        cases expectOperator ")" rest with
        | error error => rfl
        | ok outcome => rfl
  · rw [if_neg opens, if_neg opens]
    cases (peek lexemes).kind with
    | name | quoted =>
        simp only [placelessReading, peek_placeless, List.map_tail]
        rfl
    | operator | newline | endMarker => exact refuse_placeless lexemes _ _

end ReadersIgnorePlaces

theorem readersIgnorePlaces (calls : Nat) : ReadersIgnorePlaces calls := by
  induction calls with
  | zero =>
      have refuses : IgnoresPlaces fun lexemes =>
          refuse lexemes (.missingAtom (peek lexemes).text) := by
        intro lexemes
        simp only [text_peek_placeless]
        exact refuse_placeless lexemes _ _
      exact ⟨refuses, refuses, refuses, refuses⟩
  | succ calls readers =>
      exact ⟨readers.readAlternatives, readers.readItems, readers.readItem, readers.readAtom⟩

theorem readRule_placeless (lexemes : List Lexeme) :
    readRule (lexemes.map Lexeme.placeless) =
      placelessReading Rule.placeless (readRule lexemes) := by
  unfold readRule
  rw [expectKind_placeless]
  cases expectKind .name lexemes with
  | error error => rfl
  | ok outcome =>
      obtain ⟨name, behindName⟩ := outcome
      simp only [placelessReading, expectOperator_placeless]
      cases expectOperator ":" behindName with
      | error error => rfl
      | ok outcome =>
          obtain ⟨colon, behindColon⟩ := outcome
          have sameBound :
              callBound (behindColon.map Lexeme.placeless) = callBound behindColon := by
            rw [callBound, callBound, List.length_map]
          simp only [placelessReading, sameBound,
            (readersIgnorePlaces (callBound behindColon)).alternatives behindColon]
          cases readAlternatives (callBound behindColon) behindColon with
          | error error => rfl
          | ok outcome =>
              obtain ⟨body, behindBody⟩ := outcome
              simp only [placelessReading, expectKind_placeless]
              cases expectKind .newline behindBody with
              | error error => rfl
              | ok outcome => rfl

/-- An outcome of reading rules without the places in it. -/
def placelessRules : Except GrammarError (List Rule) → Except GrammarError (List Rule)
  | .error error => .error error.placeless
  | .ok rules => .ok (rules.map Rule.placeless)

theorem any_name_placeless (rules : List Rule) (name : String) :
    (rules.map Rule.placeless).any (·.name == name) = rules.any (·.name == name) :=
  List.any_map

theorem readFile_placeless (calls : Nat) (earlier : List Rule) (lexemes : List Lexeme) :
    readFile calls (earlier.map Rule.placeless) (lexemes.map Lexeme.placeless) =
      placelessRules (readFile calls earlier lexemes) := by
  induction calls generalizing earlier lexemes with
  | zero => rw [readFile_zero, readFile_zero, placelessRules]
  | succ calls inductionHypothesis =>
      rw [readFile_succ, readFile_succ, kind_peek_placeless]
      cases (peek lexemes).kind with
      | endMarker => rfl
      | newline =>
          simp only [← List.map_tail]
          exact inductionHypothesis earlier lexemes.tail
      | name | quoted | operator =>
          simp only [readRule_placeless]
          cases readRule lexemes with
          | error error => rfl
          | ok outcome =>
              obtain ⟨rule, behind⟩ := outcome
              simp only [placelessReading]
              have sameNames : (earlier.map Rule.placeless).any (·.name == rule.placeless.name) =
                  earlier.any (·.name == rule.name) :=
                any_name_placeless earlier rule.name
              rw [sameNames]
              by_cases isKnown : earlier.any (·.name == rule.name) = true
              · rw [if_pos isKnown, if_pos isKnown, peek_placeless]
                rfl
              · rw [if_neg isKnown, if_neg isKnown, ← inductionHypothesis, List.map_append]
                rfl

theorem rulesOf_placeless (lexemes : List Lexeme) :
    rulesOf (lexemes.map Lexeme.placeless) = placelessRules (rulesOf lexemes) := by
  unfold rulesOf
  have read := readFile_placeless lexemes.length [] lexemes
  rw [List.map_nil] at read
  rw [List.length_map, read]
  cases readFile lexemes.length [] lexemes with
  | error error => rfl
  | ok rules =>
      cases rules with
      | nil => rfl
      | cons rule later => rfl

end GrammarText

/-! ## Compiling rules -/

namespace Grammar

variable (symbolIds : Dictionary String SymbolId) (vocabulary : Vocabulary)

theorem labelOf_placeless (term : Term) :
    labelOf symbolIds vocabulary term.placeless =
      (labelOf symbolIds vocabulary term).mapError GrammarError.placeless := by
  have sameLiteral : term.placeless.literal = term.literal := rfl
  have sameText : term.placeless.text = term.text := rfl
  have sameMark : term.placeless.isQuoted = term.isQuoted := rfl
  unfold labelOf
  rw [sameLiteral, sameText]
  by_cases isQuoted : term.isQuoted = true
  · rw [if_pos (sameMark.trans isQuoted), if_pos isQuoted]
    by_cases isKeyword : isKeyword term.literal = true
    · rw [if_pos isKeyword, if_pos isKeyword]
      rfl
    · rw [if_neg isKeyword, if_neg isKeyword]
      cases vocabulary.operatorKind? term.literal with
      | none => rfl
      | some kind => rfl
  · rw [if_neg isQuoted, if_neg (sameMark ▸ isQuoted)]
    cases symbolIds.get? term.text with
    | some symbol => rfl
    | none =>
        simp only
        cases vocabulary.tokenKind? term.text with
        | none => rfl
        | some kind => rfl

theorem resolve_placeless (body : Expr Term) (table : LabelTable) :
    resolve symbolIds vocabulary (body.map Term.placeless) table =
      (resolve symbolIds vocabulary body table).mapError GrammarError.placeless := by
  induction body generalizing table with
  | term term =>
      simp only [Expr.map, resolve, labelOf_placeless]
      cases labelOf symbolIds vocabulary term with
      | error error => rfl
      | ok label => rfl
  | seq left right leftHypothesis rightHypothesis
  | alt left right leftHypothesis rightHypothesis =>
      simp only [Expr.map, resolve, leftHypothesis]
      cases resolve symbolIds vocabulary left table with
      | error error => rfl
      | ok outcome =>
          obtain ⟨resolvedLeft, afterLeft⟩ := outcome
          simp only [mapError_ok, rightHypothesis]
          cases resolve symbolIds vocabulary right afterLeft with
          | error error => rfl
          | ok outcome => rfl
  | opt body inductionHypothesis
  | plus body inductionHypothesis
  | star body inductionHypothesis =>
      simp only [Expr.map, resolve, inductionHypothesis]
      cases resolve symbolIds vocabulary body table with
      | error error => rfl
      | ok outcome => rfl

theorem automatonOf_placeless (index : Nat) (rule : Rule) (table : LabelTable) :
    automatonOf symbolIds vocabulary index rule.placeless table =
      (automatonOf symbolIds vocabulary index rule table).mapError GrammarError.placeless := by
  unfold automatonOf
  simp only [Rule.placeless, resolve_placeless]
  cases resolve symbolIds vocabulary rule.body table with
  | error error => rfl
  | ok outcome =>
      obtain ⟨body, extended⟩ := outcome
      by_cases tooMany : RuleAutomaton.maxStates < (Dfa.ofExpr body).length
      · simp only [mapError_ok, if_pos tooMany]
        rfl
      · simp only [mapError_ok, if_neg tooMany]

theorem automataOf_placeless (index : Nat) (rules : List Rule) (table : LabelTable) :
    automataOf symbolIds vocabulary index (rules.map Rule.placeless) table =
      (automataOf symbolIds vocabulary index rules table).mapError GrammarError.placeless := by
  induction rules generalizing index table with
  | nil => rfl
  | cons rule later inductionHypothesis =>
      simp only [List.map_cons, automataOf, automatonOf_placeless]
      cases automatonOf symbolIds vocabulary index rule table with
      | error error => rfl
      | ok outcome =>
          obtain ⟨automaton, extended⟩ := outcome
          simp only [mapError_ok, inductionHypothesis]
          cases automataOf symbolIds vocabulary (index + 1) later extended with
          | error error => rfl
          | ok outcome => rfl

theorem symbolsOf_placeless (rules : List Rule) :
    symbolsOf (rules.map Rule.placeless) = symbolsOf rules := by
  unfold symbolsOf
  rw [List.zipIdx_map, List.map_map]
  rfl

/-- Rules that differ only in places give the same grammar, or errors that differ only in
their places. -/
theorem assemble_placeless (rules : List Rule) (start : Option String) :
    (assemble (rules.map Rule.placeless) vocabulary start).mapError GrammarError.placeless =
      (assemble rules vocabulary start).mapError GrammarError.placeless := by
  unfold assemble
  simp only [symbolsOf_placeless, automataOf_placeless]
  cases startSymbol (symbolsOf rules) start with
  | error error => rfl
  | ok symbol =>
      simp only
      cases automataOf (symbolsOf rules) vocabulary 0 rules .empty with
      | error error => exact congrArg Except.error error.placeless_placeless
      | ok outcome => rfl

theorem assembleUnder_placeless (policy : AmbiguityPolicy) (rules : List Rule)
    (start : Option String) :
    (assembleUnder policy (rules.map Rule.placeless) vocabulary start).mapError
        GrammarError.placeless =
      (assembleUnder policy rules vocabulary start).mapError GrammarError.placeless := by
  unfold assembleUnder
  rcases cases_of_mapError_eq (assemble_placeless vocabulary rules start) with
    ⟨grammar, first_eq, second_eq⟩ | ⟨error, other, first_eq, second_eq, same⟩
  · rw [first_eq, second_eq]
  · rw [first_eq, second_eq]
    exact congrArg Except.error same

theorem build_placeless (rules : List Rule) (start : Option String) (policy : AmbiguityPolicy) :
    (build (rules.map Rule.placeless) vocabulary start policy).mapError
        CompileFailure.placeless =
      (build rules vocabulary start policy).mapError CompileFailure.placeless := by
  unfold build
  rw [List.length_map]
  by_cases tooMany : SymbolId.ruleCapacity < rules.length
  · rw [if_pos tooMany, if_pos tooMany]
  · rw [if_neg tooMany, if_neg tooMany]
    rcases cases_of_mapError_eq (assembleUnder_placeless vocabulary policy rules start) with
      ⟨grammar, first_eq, second_eq⟩ | ⟨error, other, first_eq, second_eq, same⟩
    · rw [first_eq, second_eq]
    · rw [first_eq, second_eq]
      exact congrArg (Except.error ∘ CompileFailure.refused) same

/-- Texts whose lexemes differ only in their places are compiled to the same grammar, or
are refused with errors that differ only in their places. -/
theorem compile_eq_of_placeless_eq {source other : String} {lexemes others : List Lexeme}
    (scanned : GrammarText.scan source = .ok lexemes)
    (otherScanned : GrammarText.scan other = .ok others)
    (same : others.map Lexeme.placeless = lexemes.map Lexeme.placeless)
    (start : Option String) (policy : AmbiguityPolicy) :
    (compile other vocabulary start policy).mapError CompileFailure.placeless =
      (compile source vocabulary start policy).mapError CompileFailure.placeless := by
  have read := GrammarText.rulesOf_placeless lexemes
  rw [← same, GrammarText.rulesOf_placeless] at read
  unfold compile GrammarText.readRules
  rw [scanned, otherScanned]
  simp only
  cases first_eq : GrammarText.rulesOf others with
  | error error =>
      cases second_eq : GrammarText.rulesOf lexemes with
      | error otherError =>
          rw [first_eq, second_eq] at read
          exact congrArg (Except.error ∘ CompileFailure.refused) (Except.error.inj read)
      | ok rules =>
          rw [first_eq, second_eq] at read
          cases read
  | ok rules =>
      cases second_eq : GrammarText.rulesOf lexemes with
      | error otherError =>
          rw [first_eq, second_eq] at read
          cases read
      | ok otherRules =>
          rw [first_eq, second_eq] at read
          have sameRules := Except.ok.inj read
          simp only
          rw [← build_placeless, sameRules, build_placeless]

end Grammar

end RuleMachine
