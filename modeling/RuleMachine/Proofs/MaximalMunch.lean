import RuleMachine.Proofs.LexerRuns

/-!
# The longest operator wins

Operators are tried in the order of their sizes in bytes.  Of two operators at the front of
one text the longer one has more bytes, so the first operator that is found is the longest
one, however the operators overlap.  An operator without characters is found last and is
never taken: where no other operator and no other pattern matches, the lexer reports an error.

That the lexer reports an error at a place also says that it got no further: behind every
piece it is at a later place.
-/

namespace RuleMachine.Lexer

/-! ## Operators at the front of a text -/

/-- Some operator with characters stands at the front of a text. -/
def HasOperator (vocabulary : Vocabulary) (text : List Char) : Prop :=
  ∃ literal kind, vocabulary.operatorKind? literal = some kind ∧ literal ≠ "" ∧
    literal.toList <+: text

/-- An operator with characters is the longest one at the front of a text. -/
structure IsLongestOperator (vocabulary : Vocabulary) (text : List Char) (literal : String) :
    Prop where
  isOperator : ∃ kind, vocabulary.operatorKind? literal = some kind
  notEmpty : literal ≠ ""
  atFront : literal.toList <+: text
  longest : ∀ other kind, vocabulary.operatorKind? other = some kind →
    other.toList <+: text → other.length ≤ literal.length

/-! ## The first operator and the longest one -/

/-- The part of an operator that goes on behind another one has bytes. -/
theorem utf8ByteSize_lt_of_prefix {short long : String} (isFront : short.toList <+: long.toList)
    (shorter : short.length < long.length) : short.utf8ByteSize < long.utf8ByteSize := by
  obtain ⟨rest, rest_eq⟩ := isFront
  have long_eq : long = short ++ String.ofList rest := by
    rw [← String.ofList_toList (s := long), ← rest_eq, String.ofList_append, String.ofList_toList]
  have notEmpty : String.ofList rest ≠ "" := by
    intro isEmpty
    rw [isEmpty, String.append_empty] at long_eq
    rw [long_eq] at shorter
    exact Nat.lt_irrefl _ shorter
  rw [long_eq, String.utf8ByteSize_append]
  have positive := Nat.pos_of_ne_zero (mt String.utf8ByteSize_eq_zero_iff.mp notEmpty)
  omega

/-- Of two operators at the front of a text, the one that is tried first is not the shorter
one. -/
theorem length_le_of_isTriedBefore {first second : String} {text : List Char}
    (before : isTriedBefore first second = true) (firstAtFront : first.toList <+: text)
    (secondAtFront : second.toList <+: text) : second.length ≤ first.length := by
  by_contra longer
  have shorter : first.length < second.length := Nat.lt_of_not_le longer
  have isFront : first.toList <+: second.toList := by
    apply List.prefix_of_prefix_length_le firstAtFront secondAtFront
    rw [String.length_toList, String.length_toList]
    exact Nat.le_of_lt shorter
  have fewer := utf8ByteSize_lt_of_prefix isFront shorter
  simp only [isTriedBefore, Bool.or_eq_true, Bool.and_eq_true, decide_eq_true_eq,
    beq_iff_eq] at before
  omega

/-- The first operator that is found at the front of a text is no shorter than the others. -/
theorem length_le_of_find? {vocabulary : Vocabulary} {text : List Char} {literal : String}
    (found : (operatorsInOrder vocabulary).find? (standsAtFront · text) = some literal)
    {other : String} {kind : TokenKind} (isOperator : vocabulary.operatorKind? other = some kind)
    (atFront : other.toList <+: text) : other.length ≤ literal.length := by
  obtain ⟨literalAtFront, earlier, later, order_eq, notFound⟩ :=
    List.find?_eq_some_iff_append.mp found
  rw [standsAtFront, List.isPrefixOf_iff_prefix] at literalAtFront
  have isMember := mem_operatorsInOrder_iff.mpr ⟨kind, isOperator⟩
  have pairwise := pairwise_operatorsInOrder vocabulary
  rw [order_eq] at isMember pairwise
  rcases List.mem_append.mp isMember with isEarlier | isLater
  -- No operator before the one that is found stands at the front.
  · have stands : standsAtFront other text = true := by
      rw [standsAtFront, List.isPrefixOf_iff_prefix]
      exact atFront
    have stopsBefore := notFound other isEarlier
    rw [stands] at stopsBefore
    cases stopsBefore
  · rcases List.mem_cons.mp isLater with rfl | isBehind
    · exact Nat.le_refl _
    · have before := (List.pairwise_cons.mp (List.pairwise_append.mp pairwise).2.1).1 other isBehind
      exact length_le_of_isTriedBefore before literalAtFront atFront

theorem isLongestOperator_of_find? {vocabulary : Vocabulary} {text : List Char}
    {literal : String}
    (found : (operatorsInOrder vocabulary).find? (standsAtFront · text) = some literal)
    (notEmpty : literal ≠ "") : IsLongestOperator vocabulary text literal := by
  have atFront := List.find?_some found
  rw [standsAtFront, List.isPrefixOf_iff_prefix] at atFront
  exact ⟨mem_operatorsInOrder_iff.mp (List.mem_of_find?_eq_some found), notEmpty, atFront,
    fun _ _ => length_le_of_find? found⟩

/-- The match of the operators is that of the longest operator, if one has characters. -/
theorem exists_operatorLength {vocabulary : Vocabulary} {text : List Char}
    (hasOperator : HasOperator vocabulary text) :
    ∃ literal, IsLongestOperator vocabulary text literal ∧
      operatorLength (operatorsInOrder vocabulary) text = some literal.length := by
  obtain ⟨literal, kind, isOperator, notEmpty, atFront⟩ := hasOperator
  have stands : standsAtFront literal text = true := by
    rw [standsAtFront, List.isPrefixOf_iff_prefix]
    exact atFront
  cases found : (operatorsInOrder vocabulary).find? (standsAtFront · text) with
  | none =>
      have isMember := mem_operatorsInOrder_iff.mpr ⟨kind, isOperator⟩
      exact absurd stands (List.find?_eq_none.mp found literal isMember)
  | some longest =>
      refine ⟨longest, isLongestOperator_of_find? found ?_, ?_⟩
      · rintro rfl
        have isLe := length_le_of_find? found isOperator atFront
        exact notEmpty (String.length_eq_zero_iff.mp (Nat.le_zero.mp isLe))
      · rw [operatorLength, found]
        rfl

/-- Otherwise the operators match nothing, or no characters. -/
theorem eq_zero_of_operatorLength {vocabulary : Vocabulary} {text : List Char}
    (noOperator : ¬ HasOperator vocabulary text) {length : Nat}
    (matched : operatorLength (operatorsInOrder vocabulary) text = some length) :
    length = 0 := by
  rw [operatorLength] at matched
  obtain ⟨literal, found, rfl⟩ := Option.map_eq_some_iff.mp matched
  by_contra notZero
  have notEmpty : literal ≠ "" := by
    rintro rfl
    exact notZero rfl
  have isLongest := isLongestOperator_of_find? found notEmpty
  obtain ⟨kind, isOperator⟩ := isLongest.isOperator
  exact noOperator ⟨literal, kind, isOperator, notEmpty, isLongest.atFront⟩

theorem matchFront_of_noOther {vocabulary : Vocabulary} {text : List Char}
    (noOther : ∀ pattern, pattern ≠ .operator → (expression vocabulary pattern).lengths text = []) :
    matchFront vocabulary text =
      (operatorLength (operatorsInOrder vocabulary) text).map (Pattern.operator, ·) := by
  have none_of : ∀ pattern, pattern ≠ .operator → patternLength vocabulary text pattern = none := by
    intro pattern notOperator
    rw [← length?_expression, Regex.length?, noOther pattern notOperator]
    rfl
  rw [matchFront, matchWith, show skipLength text = none from none_of .skip (by decide),
    show newlineLength text = none from none_of .newline (by decide),
    show numberLength text = none from none_of .number (by decide),
    show stringLength text = none from none_of .string (by decide),
    show nameLength text = none from none_of .name (by decide)]
  rfl

/-! ## Later places -/

/-- A place comes before another one. -/
def Precedes (earlier later : Position) : Prop :=
  earlier.line < later.line ∨ earlier.line = later.line ∧ earlier.column < later.column

theorem Precedes.trans {first second third : Position} (before : Precedes first second)
    (further : Precedes second third) : Precedes first third := by
  unfold Precedes at before further ⊢
  omega

theorem not_precedes_self (position : Position) : ¬ Precedes position position := by
  unfold Precedes
  omega

theorem Step.precedes {vocabulary : Vocabulary} {cursor : Cursor} {text rest : List Char}
    {piece : Piece} (step : Step vocabulary cursor text piece rest) :
    Precedes cursor.position (cursor.behind piece rest).position := by
  have positive := List.length_pos_iff.mpr step.notEmpty
  rw [Cursor.behind_position]
  by_cases noBreak : piece.characters.count '\n' = 0
  · rw [if_pos noBreak]
    exact .inr ⟨rfl, Nat.lt_add_of_pos_right positive⟩
  · rw [if_neg noBreak]
    exact .inl (Nat.lt_add_of_pos_right (Nat.pos_of_ne_zero noBreak))

theorem Run.eq_or_precedes {vocabulary : Vocabulary} {cursor last : Cursor}
    {text final : List Char} {pieces : List Piece}
    (run : Run vocabulary cursor text pieces last final) :
    last.position = cursor.position ∨ Precedes cursor.position last.position := by
  induction run with
  | done cursor text => exact .inl rfl
  | step step _ inductionHypothesis =>
      cases inductionHypothesis with
      | inl same => exact .inr (same ▸ step.precedes)
      | inr further => exact .inr (step.precedes.trans further)

/-- An error is reported where the lexer is, or at a later place. -/
theorem eq_or_precedes_of_error {vocabulary : Vocabulary} {cursor : Cursor} {text : List Char}
    {error : LexError} (failed : lexFrom vocabulary cursor text = .error error) :
    error.position = cursor.position ∨ Precedes cursor.position error.position := by
  obtain ⟨pieces, last, final, run, outcome⟩ := exists_run vocabulary cursor text
  rw [run.lexFrom_eq] at failed
  rcases outcome with rfl | ⟨found, stops, position_eq⟩
  · rw [lexFrom, lexWith] at failed
    cases failed
  · rw [stops] at failed
    cases failed
    rw [position_eq]
    exact run.eq_or_precedes

/-! ## Sources -/

/-- Where no other pattern matches, the lexer takes the longest operator. -/
theorem step_of_isLongestOperator {vocabulary : Vocabulary} {text : List Char}
    {literal : String} (isLongest : IsLongestOperator vocabulary text literal)
    (matched : matchFront vocabulary text = some (.operator, literal.length)) {kind : TokenKind}
    (isOperator : vocabulary.operatorKind? literal = some kind) (cursor : Cursor) :
    Step vocabulary cursor text ⟨.operator, literal.toList, some (cursor.tokenOf literal kind)⟩
      (text.drop literal.length) := by
  have take_eq : text.take literal.length = literal.toList := by
    rw [← String.length_toList]
    exact (List.prefix_iff_eq_take.mp isLongest.atFront).symm
  have positive : 0 < literal.length := by
    apply Nat.pos_of_ne_zero
    intro isZero
    exact isLongest.notEmpty (String.length_eq_zero_iff.mp isZero)
  have kind_eq : kindOf vocabulary cursor .operator (String.ofList (text.take literal.length)) =
      .ok (some kind) := by
    rw [take_eq, String.ofList_toList, kindOf, isOperator]
  have step := step_of_matchFront matched positive kind_eq
  rw [take_eq, String.ofList_toList] at step
  exact step

theorem exists_step_of_hasOperator {vocabulary : Vocabulary} {text : List Char}
    (noOther : ∀ pattern, pattern ≠ .operator → (expression vocabulary pattern).lengths text = [])
    (hasOperator : HasOperator vocabulary text) (cursor : Cursor) :
    ∃ literal kind, IsLongestOperator vocabulary text literal ∧
      vocabulary.operatorKind? literal = some kind ∧
      Step vocabulary cursor text
        ⟨.operator, literal.toList, some (cursor.tokenOf literal kind)⟩
        (text.drop literal.length) := by
  obtain ⟨literal, isLongest, length_eq⟩ := exists_operatorLength hasOperator
  obtain ⟨kind, isOperator⟩ := isLongest.isOperator
  have matched := matchFront_of_noOther noOther
  rw [length_eq] at matched
  exact ⟨literal, kind, isLongest, isOperator,
    step_of_isLongestOperator isLongest matched isOperator cursor⟩

theorem lexFrom_of_not_hasOperator {vocabulary : Vocabulary} {first : Char} {later : List Char}
    (noOther : ∀ pattern, pattern ≠ .operator →
      (expression vocabulary pattern).lengths (first :: later) = [])
    (noOperator : ¬ HasOperator vocabulary (first :: later)) (cursor : Cursor) :
    lexFrom vocabulary cursor (first :: later) = .error ⟨cursor.position, first.toString⟩ := by
  apply lexFrom_of_unmatched
  intro pattern length matched
  rw [matchFront_of_noOther noOther] at matched
  obtain ⟨_, isLength, same⟩ := Option.map_eq_some_iff.mp matched
  cases same
  exact eq_zero_of_operatorLength noOperator isLength

/-- Behind a piece the lexer reports no error at the place before it. -/
theorem Step.lexFrom_ne_error {vocabulary : Vocabulary} {cursor : Cursor}
    {text rest : List Char} {piece : Piece} (step : Step vocabulary cursor text piece rest)
    (found : String) : lexFrom vocabulary cursor text ≠ .error ⟨cursor.position, found⟩ := by
  intro failed
  rw [lexFrom_of_step step] at failed
  cases outcome : lexFrom vocabulary (cursor.behind piece rest) rest with
  | ok tokens =>
      rw [outcome] at failed
      cases failed
  | error error =>
      rw [outcome] at failed
      cases failed
      apply not_precedes_self cursor.position
      cases eq_or_precedes_of_error outcome with
      | inl same =>
          have precedes := step.precedes
          rwa [← same] at precedes
      | inr further => exact step.precedes.trans further

/-- A run fails as the lexer fails behind it. -/
theorem Run.lexFrom_eq_error_iff {vocabulary : Vocabulary} {cursor last : Cursor}
    {text final : List Char} {pieces : List Piece}
    (run : Run vocabulary cursor text pieces last final) (error : LexError) :
    lexFrom vocabulary cursor text = .error error ↔
      lexFrom vocabulary last final = .error error := by
  rw [run.lexFrom_eq]
  cases lexFrom vocabulary last final with
  | error found => exact Iff.rfl
  | ok tokens =>
      constructor
      · intro failed
        cases failed
      · intro failed
        cases failed

/-- Operators are lexed by maximal munch.  At every place that the lexer gets to and where no
other pattern matches, it gives the token of the longest operator there and goes on behind it;
it stops with an error there exactly if there is no operator with characters. -/
theorem lex_takes_longest_operator {vocabulary : Vocabulary} {source : String}
    {pieces : List Piece} {cursor : Cursor} {first : Char} {later : List Char}
    (reached : Run vocabulary (.start source.toList) source.toList pieces cursor (first :: later))
    (noOther : ∀ pattern, pattern ≠ .operator →
      (expression vocabulary pattern).lengths (first :: later) = []) :
    cursor.position = positionBehind pieces ∧
    (HasOperator vocabulary (first :: later) →
      ∃ literal kind next, IsLongestOperator vocabulary (first :: later) literal ∧
        vocabulary.operatorKind? literal = some kind ∧
        Run vocabulary (.start source.toList) source.toList
          (pieces ++ [⟨.operator, literal.toList, some (cursor.tokenOf literal kind)⟩]) next
          ((first :: later).drop literal.length) ∧
        lex vocabulary source =
          (lexFrom vocabulary next ((first :: later).drop literal.length)).map
            (tokensOf pieces ++ [cursor.tokenOf literal kind] ++ ·)) ∧
    (lex vocabulary source = .error ⟨cursor.position, first.toString⟩ ↔
      ¬ HasOperator vocabulary (first :: later)) := by
  refine ⟨(reached.placed (placed_start source.toList)).position_eq, ?_, ?_⟩
  · intro hasOperator
    obtain ⟨literal, kind, isLongest, isOperator, step⟩ :=
      exists_step_of_hasOperator noOther hasOperator cursor
    have further := reached.append (.step step (.done _ _))
    refine ⟨literal, kind, _, isLongest, isOperator, further, ?_⟩
    rw [lex, further.lexFrom_eq, tokensOf_append]
    rfl
  · rw [lex, reached.lexFrom_eq_error_iff]
    constructor
    · intro failed hasOperator
      obtain ⟨literal, kind, _, _, step⟩ := exists_step_of_hasOperator noOther hasOperator cursor
      exact step.lexFrom_ne_error _ failed
    · intro noOperator
      exact lexFrom_of_not_hasOperator noOther noOperator cursor

/-- Operators that begin with each other, one of several bytes and one without characters. -/
def overlappingOperators : Vocabulary :=
  (Vocabulary.unnamed 1 0).addOperators [("", 2), ("*", 3), ("**", 4), ("**≠", 5), ("≠", 6)]

/-- An operator of several bytes between a name and a character that begins nothing. -/
def powerSource : String := "a**≠$"

theorem run_powerSource :
    ∃ pieces cursor, Run overlappingOperators (.start powerSource.toList) powerSource.toList pieces
      cursor ['*', '*', '≠', '$'] := by
  have toList_eq : powerSource.toList = ['a', '*', '*', '≠', '$'] := by decide +kernel
  have matched : matchFront overlappingOperators ['a', '*', '*', '≠', '$'] = some (.name, 1) := by
    decide +kernel
  have kind_eq : kindOf overlappingOperators (.start ['a', '*', '*', '≠', '$']) .name
      (String.ofList (['a', '*', '*', '≠', '$'].take 1)) =
      .ok (some overlappingOperators.keywordToken) := rfl
  rw [toList_eq]
  exact ⟨_, _, .step (step_of_matchFront matched Nat.one_pos kind_eq) (.done _ _)⟩

theorem lex_takes_longest_operator_powerSource :
    ∃ pieces cursor, Run overlappingOperators (.start powerSource.toList) powerSource.toList pieces
        cursor ['*', '*', '≠', '$'] ∧
      (∀ pattern, pattern ≠ .operator →
        (expression overlappingOperators pattern).lengths ['*', '*', '≠', '$'] = []) ∧
      ∃ literal kind next,
        IsLongestOperator overlappingOperators ['*', '*', '≠', '$'] literal ∧
        overlappingOperators.operatorKind? literal = some kind ∧
        Run overlappingOperators (.start powerSource.toList) powerSource.toList
          (pieces ++ [⟨.operator, literal.toList, some (cursor.tokenOf literal kind)⟩]) next
          (['*', '*', '≠', '$'].drop literal.length) := by
  obtain ⟨pieces, cursor, reached⟩ := run_powerSource
  have noOther : ∀ pattern, pattern ≠ .operator →
      (expression overlappingOperators pattern).lengths ['*', '*', '≠', '$'] = [] := by
    intro pattern notOperator
    cases pattern with
    | operator => exact absurd rfl notOperator
    | skip => rfl
    | newline => rfl
    | number => rfl
    | string => rfl
    | name => rfl
  have hasOperator : HasOperator overlappingOperators ['*', '*', '≠', '$'] :=
    ⟨"*", 3, by decide +kernel, by decide, by decide⟩
  obtain ⟨literal, kind, next, isLongest, isOperator, run, _⟩ :=
    (lex_takes_longest_operator reached noOther).2.1 hasOperator
  exact ⟨pieces, cursor, reached, noOther, literal, kind, next, isLongest, isOperator, run⟩

/-- The operator without characters does not hold the lexer up. -/
example : lex overlappingOperators powerSource = .error ⟨⟨1, 4⟩, "$"⟩ := by
  have ordered : operatorsInOrder overlappingOperators = ["**≠", "≠", "**", "*", ""] :=
    operatorsInOrder_eq (by decide +kernel) (by decide +kernel)
  rw [lex, lexFrom, ordered]
  decide +kernel

end RuleMachine.Lexer
