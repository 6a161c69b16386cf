import RuleMachine.Proofs.LexerRuns

/-!
# Logical lines

If no other token has the kind of line ends, the tokens of a source are logical lines and the
end marker behind them.  A logical line is at least one token and one line end; where the line
end is written as a line break, every bracket is closed.

The lexer knows of the tokens before only the number of open brackets and the kind of the last
one.  Both are enough: the last kind tells whether a logical line is open.
-/

namespace RuleMachine.Lexer

/-! ## Lines and brackets -/

/-- No other token has the kind of line ends. -/
structure IsApart (vocabulary : Vocabulary) (newline : TokenKind) : Prop where
  name : vocabulary.keywordToken ≠ newline
  number : vocabulary.tokenKind? "NUMBER" ≠ some newline
  string : vocabulary.tokenKind? "STRING" ≠ some newline
  operator : ∀ literal, vocabulary.operatorKind? literal ≠ some newline

/-- A logical line: tokens that are no line ends, and one line end. -/
def IsLogicalLine (newline : TokenKind) (line : List Token) : Prop :=
  ∃ body last, line = body ++ [last] ∧ body ≠ [] ∧ (∀ token ∈ body, token.kind ≠ newline) ∧
    last.kind = newline

/-- The number of open brackets behind a token.  A closing bracket without an opening one
counts for nothing. -/
def depthBehind (depth : Nat) (token : Token) : Nat :=
  if token.value ∈ ["(", "[", "\x7b"] then depth + 1
  else if token.value ∈ [")", "]", "\x7d"] then depth - 1
  else depth

/-- The number of open brackets behind tokens; only operators are written like brackets. -/
def openBrackets (tokens : List Token) : Nat :=
  tokens.foldl depthBehind 0

/-- Tokens are logical lines, and behind them the tokens of a line that has no end yet. -/
def AreLines (newline : TokenKind) (tokens : List Token) : Prop :=
  ∃ (lines : List (List Token)) (body : List Token), tokens = lines.flatten ++ body ∧
    (∀ line ∈ lines, IsLogicalLine newline line) ∧ ∀ token ∈ body, token.kind ≠ newline

/-- Every bracket is closed where a line ends. -/
def AreClosed (newline : TokenKind) (tokens : List Token) : Prop :=
  ∀ before token behind, tokens = before ++ token :: behind → token.kind = newline →
    openBrackets before = 0

/-- The last token of a list is no line end. -/
def IsOpen (newline : TokenKind) (tokens : List Token) : Prop :=
  ∃ kind, tokens.getLast?.map Token.kind = some kind ∧ kind ≠ newline

/-! ## Lines grow -/

/-- A line is open exactly if the last token is no line end. -/
theorem isOpen_iff_body_ne_nil {newline : TokenKind} {lines : List (List Token)}
    {body : List Token} (areLines : ∀ line ∈ lines, IsLogicalLine newline line)
    (noEnd : ∀ token ∈ body, token.kind ≠ newline) :
    IsOpen newline (lines.flatten ++ body) ↔ body ≠ [] := by
  constructor
  · rintro ⟨kind, isLast, notEnd⟩ isEmpty
    rw [isEmpty, List.append_nil] at isLast
    cases lines using List.reverseRecOn with
    | nil => cases isLast
    | append_singleton earlier line =>
        obtain ⟨inner, last, rfl, _, _, isEnd⟩ :=
          areLines line (List.mem_append_right _ (.head _))
        rw [List.flatten_concat, ← List.append_assoc, List.getLast?_concat] at isLast
        exact notEnd ((Option.some.inj isLast).symm.trans isEnd)
  · intro notEmpty
    refine ⟨(body.getLast notEmpty).kind, ?_, noEnd _ (List.getLast_mem notEmpty)⟩
    rw [List.getLast?_append_of_ne_nil _ notEmpty, List.getLast?_eq_getLast_of_ne_nil notEmpty]
    rfl

/-- A line end completes the open line. -/
theorem AreLines.complete {newline : TokenKind} {tokens : List Token}
    (areLines : AreLines newline tokens) (isOpen : IsOpen newline tokens) {token : Token}
    (isEnd : token.kind = newline) :
    ∃ lines : List (List Token), tokens ++ [token] = lines.flatten ∧
      ∀ line ∈ lines, IsLogicalLine newline line := by
  obtain ⟨lines, body, rfl, areComplete, noEnd⟩ := areLines
  have notEmpty := (isOpen_iff_body_ne_nil areComplete noEnd).mp isOpen
  refine ⟨lines ++ [body ++ [token]], ?_, ?_⟩
  · rw [List.flatten_concat, List.append_assoc]
  · have isLine : IsLogicalLine newline (body ++ [token]) :=
      ⟨body, token, rfl, notEmpty, noEnd, isEnd⟩
    exact List.forall_mem_append.mpr ⟨areComplete, List.forall_mem_singleton.mpr isLine⟩

/-- Where no line is open, the lines are complete. -/
theorem AreLines.complete_of_not_isOpen {newline : TokenKind} {tokens : List Token}
    (areLines : AreLines newline tokens) (notOpen : ¬ IsOpen newline tokens) :
    ∃ lines : List (List Token), tokens = lines.flatten ∧
      ∀ line ∈ lines, IsLogicalLine newline line := by
  obtain ⟨lines, body, rfl, areComplete, noEnd⟩ := areLines
  have isEmpty : body = [] := by
    by_contra notEmpty
    exact notOpen ((isOpen_iff_body_ne_nil areComplete noEnd).mpr notEmpty)
  exact ⟨lines, by rw [isEmpty, List.append_nil], areComplete⟩

/-- A token that is no line end stands on the open line. -/
theorem AreLines.concat_of_ne {newline : TokenKind} {tokens : List Token}
    (areLines : AreLines newline tokens) {token : Token} (notEnd : token.kind ≠ newline) :
    AreLines newline (tokens ++ [token]) := by
  obtain ⟨lines, body, rfl, areComplete, noEnd⟩ := areLines
  refine ⟨lines, body ++ [token], List.append_assoc _ _ _, areComplete, ?_⟩
  exact List.forall_mem_append.mpr ⟨noEnd, List.forall_mem_singleton.mpr notEnd⟩

theorem AreLines.concat_of_isOpen {newline : TokenKind} {tokens : List Token}
    (areLines : AreLines newline tokens) (isOpen : IsOpen newline tokens) {token : Token}
    (isEnd : token.kind = newline) : AreLines newline (tokens ++ [token]) := by
  obtain ⟨lines, tokens_eq, areComplete⟩ := areLines.complete isOpen isEnd
  refine ⟨lines, [], by rw [List.append_nil, tokens_eq], areComplete, ?_⟩
  intro other isOther
  cases isOther

theorem AreClosed.concat {newline : TokenKind} {tokens : List Token}
    (areClosed : AreClosed newline tokens) {token : Token}
    (isClosed : token.kind = newline → openBrackets tokens = 0) :
    AreClosed newline (tokens ++ [token]) := by
  intro before other behind isSplit isEnd
  cases behind using List.reverseRecOn with
  | nil =>
      obtain ⟨rfl, same⟩ := List.append_inj' isSplit rfl
      cases same
      exact isClosed isEnd
  | append_singleton inner last =>
      rw [← List.cons_append, ← List.append_assoc] at isSplit
      obtain ⟨same, _⟩ := List.append_inj' isSplit rfl
      exact areClosed before other inner same isEnd

theorem isOpen_iff_lastKind (newline : TokenKind) {tokens : List Token} {cursor : Cursor}
    (lastKind_eq : cursor.lastKind = tokens.getLast?.map Token.kind) :
    (cursor.lastKind.isSome && cursor.lastKind != some newline) = true ↔
      IsOpen newline tokens := by
  rw [IsOpen, ← lastKind_eq]
  cases cursor.lastKind with
  | none => simp
  | some kind => simp

/-! ## Steps -/

/-- No pattern but that of operators matches a text that begins with a bracket. -/
theorem patternLength_of_bracket {vocabulary : Vocabulary} {character : Char}
    (isBracket : character ∈ ['(', '[', '\x7b', ')', ']', '\x7d']) (rest : List Char)
    {pattern : Pattern} (notOperator : pattern ≠ .operator) :
    patternLength vocabulary (character :: rest) pattern = none := by
  simp only [List.mem_cons, List.not_mem_nil, or_false] at isBracket
  cases pattern with
  | operator => exact absurd rfl notOperator
  | skip => rcases isBracket with rfl | rfl | rfl | rfl | rfl | rfl <;> rfl
  | newline => rcases isBracket with rfl | rfl | rfl | rfl | rfl | rfl <;> rfl
  | number => rcases isBracket with rfl | rfl | rfl | rfl | rfl | rfl <;> rfl
  | string => rcases isBracket with rfl | rfl | rfl | rfl | rfl | rfl <;> rfl
  | name => rcases isBracket with rfl | rfl | rfl | rfl | rfl | rfl <;> rfl

/-- Only operators are written like brackets. -/
theorem Step.pattern_of_bracket {vocabulary : Vocabulary} {cursor : Cursor}
    {text rest : List Char} {piece : Piece} (step : Step vocabulary cursor text piece rest)
    (isBracket : piece.value ∈ ["(", "[", "\x7b", ")", "]", "\x7d"]) :
    piece.pattern = .operator := by
  have toList_mem := List.mem_map_of_mem (f := String.toList) isBracket
  have toLists_eq : ["(", "[", "\x7b", ")", "]", "\x7d"].map String.toList =
      ['(', '[', '\x7b', ')', ']', '\x7d'].map fun character => [character] := by
    decide +kernel
  rw [toLists_eq, Piece.value, String.toList_ofList] at toList_mem
  obtain ⟨character, isCharacter, characters_eq⟩ := List.mem_map.mp toList_mem
  by_contra notOperator
  have matched := step.patternLength_eq
  rw [step.text_eq, ← characters_eq, List.singleton_append,
    patternLength_of_bracket isCharacter rest notOperator] at matched
  cases matched

theorem depth_noteOperator (cursor : Cursor) (value : String) (kind : TokenKind) :
    (cursor.noteOperator value).depth =
      depthBehind cursor.depth (cursor.tokenOf value kind) := by
  rw [Cursor.noteOperator, depthBehind]
  simp only [Cursor.tokenOf, List.mem_cons, List.not_mem_nil, or_false]
  split_ifs <;> rfl

theorem depthBehind_of_not_bracket {token : Token}
    (notBracket : token.value ∉ ["(", "[", "\x7b", ")", "]", "\x7d"]) (depth : Nat) :
    depthBehind depth token = depth := by
  rw [depthBehind, if_neg, if_neg]
  · intro closes
    exact notBracket (List.mem_append_right ["(", "[", "\x7b"] closes)
  · intro opens
    exact notBracket (List.mem_append_left [")", "]", "\x7d"] opens)

theorem Step.depth_eq {vocabulary : Vocabulary} {cursor : Cursor} {text rest : List Char}
    {piece : Piece} (step : Step vocabulary cursor text piece rest) :
    (cursor.behind piece rest).depth = piece.token?.toList.foldl depthBehind cursor.depth := by
  rw [Cursor.behind_depth]
  by_cases isOperator : piece.pattern = .operator
  · obtain ⟨kind, found⟩ := step.exists_operator isOperator
    have kind_eq : piece.kind? = some kind := by
      have kind_eq := step.kind_eq
      rw [isOperator, kindOf, found] at kind_eq
      exact (Except.ok.inj kind_eq).symm
    rw [step.token_eq, kind_eq, isOperator]
    exact depth_noteOperator cursor piece.value kind
  · have unchanged : cursor.note piece.pattern piece.value = cursor := by
      cases isPattern : piece.pattern with
      | operator => exact absurd isPattern isOperator
      | skip => rfl
      | newline => rfl
      | number => rfl
      | string => rfl
      | name => rfl
    rw [unchanged]
    cases isToken : piece.token? with
    | none => rfl
    | some token =>
        have notBracket : token.value ∉ ["(", "[", "\x7b", ")", "]", "\x7d"] := by
          rw [step.eq_tokenOf isToken]
          exact fun isBracket => isOperator (step.pattern_of_bracket isBracket)
        exact (depthBehind_of_not_bracket notBracket cursor.depth).symm

/-- A line end is a line break that ends a logical line. -/
theorem Step.endsLine_of_newline {vocabulary : Vocabulary} {newline : TokenKind}
    (apart : IsApart vocabulary newline) {cursor : Cursor} {text rest : List Char}
    {piece : Piece} (step : Step vocabulary cursor text piece rest) {token : Token}
    (isToken : piece.token? = some token) (isEnd : token.kind = newline) :
    endsLine vocabulary cursor = true := by
  have kind_eq := step.kind_eq
  rw [Piece.kind?, isToken, Option.map_some, isEnd] at kind_eq
  cases isPattern : piece.pattern with
  | newline =>
      rw [isPattern, kindOf] at kind_eq
      by_contra notEnds
      rw [if_neg notEnds] at kind_eq
      cases kind_eq
  | skip =>
      rw [isPattern] at kind_eq
      cases kind_eq
  | number =>
      rw [isPattern] at kind_eq
      obtain ⟨kind, found, same⟩ := exists_kind_of_requiredKind kind_eq
      exact absurd (found.trans same.symm) apart.number
  | string =>
      rw [isPattern] at kind_eq
      obtain ⟨kind, found, same⟩ := exists_kind_of_requiredKind kind_eq
      exact absurd (found.trans same.symm) apart.string
  | name =>
      rw [isPattern] at kind_eq
      exact absurd (Option.some.inj (Except.ok.inj kind_eq)) apart.name
  | operator =>
      rw [isPattern] at kind_eq
      exact absurd (Except.ok.inj kind_eq) (apart.operator piece.value)

/-! ## Runs -/

/-- What the lexer remembers of the tokens before is true, and they are lines that end where
every bracket is closed. -/
structure InLines (newline : TokenKind) (before : List Token) (cursor : Cursor) : Prop where
  depth_eq : cursor.depth = openBrackets before
  lastKind_eq : cursor.lastKind = before.getLast?.map Token.kind
  areLines : AreLines newline before
  areClosed : AreClosed newline before

theorem inLines_start (newline : TokenKind) (source : List Char) :
    InLines newline [] (.start source) := by
  refine ⟨rfl, rfl, ⟨[], [], rfl, ?_, ?_⟩, ?_⟩
  · intro line isLine
    cases isLine
  · intro token isToken
    cases isToken
  · intro before token behind isSplit
    cases before <;> cases isSplit

theorem Step.inLines {vocabulary : Vocabulary} {newline : TokenKind}
    (isNewline : newlineKind? vocabulary = some newline) (apart : IsApart vocabulary newline)
    {cursor : Cursor} {text rest : List Char} {piece : Piece}
    (step : Step vocabulary cursor text piece rest) {before : List Token}
    (inLines : InLines newline before cursor) :
    InLines newline (before ++ piece.token?.toList) (cursor.behind piece rest) := by
  have depth_eq : (cursor.behind piece rest).depth =
      openBrackets (before ++ piece.token?.toList) := by
    rw [step.depth_eq, inLines.depth_eq, openBrackets, openBrackets, List.foldl_append]
  have lastKind_eq := cursor.behind_lastKind piece rest
  rw [inLines.lastKind_eq, Piece.kind?] at lastKind_eq
  cases isToken : piece.token? with
  | none =>
      rw [isToken] at depth_eq lastKind_eq
      rw [Option.toList_none, List.append_nil] at depth_eq ⊢
      exact ⟨depth_eq, lastKind_eq, inLines.areLines, inLines.areClosed⟩
  | some token =>
      rw [isToken] at depth_eq lastKind_eq
      rw [Option.toList_some] at depth_eq ⊢
      have lastKind_eq : (cursor.behind piece rest).lastKind =
          (before ++ [token]).getLast?.map Token.kind := by
        rw [lastKind_eq, List.getLast?_concat]
        rfl
      -- What the lexer remembers decides only about line ends.
      by_cases isEnd : token.kind = newline
      · have ends := step.endsLine_of_newline apart isToken isEnd
        rw [endsLine, Bool.and_assoc, Bool.and_eq_true, beq_iff_eq, isNewline,
          isOpen_iff_lastKind newline inLines.lastKind_eq] at ends
        refine ⟨depth_eq, lastKind_eq, inLines.areLines.concat_of_isOpen ends.2 isEnd,
          inLines.areClosed.concat ?_⟩
        intro _
        rw [← inLines.depth_eq]
        exact ends.1
      · refine ⟨depth_eq, lastKind_eq, inLines.areLines.concat_of_ne isEnd,
          inLines.areClosed.concat ?_⟩
        intro isNewline
        exact absurd isNewline isEnd

theorem Run.inLines {vocabulary : Vocabulary} {newline : TokenKind}
    (isNewline : newlineKind? vocabulary = some newline) (apart : IsApart vocabulary newline)
    {cursor last : Cursor} {text final : List Char} {pieces : List Piece}
    (run : Run vocabulary cursor text pieces last final) {before : List Token}
    (inLines : InLines newline before cursor) :
    InLines newline (before ++ tokensOf pieces) last := by
  induction run generalizing before with
  | done cursor text =>
      rw [tokensOf, List.filterMap_nil, List.append_nil]
      exact inLines
  | step step _ inductionHypothesis =>
      rw [tokensOf_cons, ← List.append_assoc]
      exact inductionHypothesis (step.inLines isNewline apart inLines)

/-! ## Sources -/

/-- The closing tokens complete the open line and add the end marker. -/
theorem InLines.exists_lines {vocabulary : Vocabulary} {newline : TokenKind}
    (isNewline : newlineKind? vocabulary = some newline) {before : List Token} {cursor : Cursor}
    (inLines : InLines newline before cursor) :
    ∃ (lines : List (List Token)) (marker : Token),
      before ++ closing vocabulary cursor = lines.flatten ++ [marker] ∧
      marker.kind = vocabulary.endMarker ∧ ∀ line ∈ lines, IsLogicalLine newline line := by
  have isOpen_iff := isOpen_iff_lastKind newline inLines.lastKind_eq
  have isEnd : (Token.endMarkerAt newline cursor.position).kind = newline := rfl
  rw [closing, isNewline]
  by_cases isOpen : IsOpen newline before
  · obtain ⟨lines, lines_eq, areLines⟩ := inLines.areLines.complete isOpen isEnd
    refine ⟨lines, Token.endMarkerAt vocabulary.endMarker cursor.position, ?_, rfl, areLines⟩
    rw [← lines_eq, List.append_assoc]
    simp only [isOpen_iff.mpr isOpen, if_true]
    rfl
  · obtain ⟨lines, lines_eq, areLines⟩ := inLines.areLines.complete_of_not_isOpen isOpen
    refine ⟨lines, Token.endMarkerAt vocabulary.endMarker cursor.position, ?_, rfl, areLines⟩
    rw [← lines_eq]
    simp only [mt isOpen_iff.mp isOpen]
    rfl

theorem value_of_isClosing {vocabulary : Vocabulary} {position : Position}
    {closing : List Token} (isClosing : IsClosing vocabulary position closing) :
    ∀ token ∈ closing, token.value = "" := by
  intro token isToken
  cases isClosing with
  | marker =>
      rw [List.mem_singleton.mp isToken]
  | newline _ =>
      cases List.mem_cons.mp isToken with
      | inl isFirst => rw [isFirst]
      | inr isSecond => rw [List.mem_singleton.mp isSecond]

/-- The tokens of a source are logical lines and the end marker, and a line break ends a line
only where every bracket is closed. -/
theorem lex_gives_logical_lines {vocabulary : Vocabulary} {newline : TokenKind}
    (isNewline : newlineKind? vocabulary = some newline) (apart : IsApart vocabulary newline)
    {source : String} {tokens : List Token} (lexed : lex vocabulary source = .ok tokens) :
    (∃ (lines : List (List Token)) (marker : Token), tokens = lines.flatten ++ [marker] ∧
      marker.kind = vocabulary.endMarker ∧ ∀ line ∈ lines, IsLogicalLine newline line) ∧
    ∀ before token behind, tokens = before ++ token :: behind → token.kind = newline →
      token.value = "\n" → openBrackets before = 0 := by
  obtain ⟨pieces, last, run, tokens_eq⟩ := exists_run_of_lexFrom lexed
  have inLines := run.inLines isNewline apart (inLines_start newline source.toList)
  rw [List.nil_append] at inLines
  subst tokens_eq
  refine ⟨inLines.exists_lines isNewline, ?_⟩
  intro before token behind isSplit isEnd isBreak
  have notClosing : token ∉ closing vocabulary last := by
    intro isClosing
    have isEmpty := value_of_isClosing (isClosing_closing vocabulary last) token isClosing
    rw [isEmpty] at isBreak
    exact absurd isBreak (by decide)
  have inPieces : ∃ inner, tokensOf pieces = before ++ token :: inner := by
    rcases List.append_eq_append_iff.mp isSplit with
      ⟨inner, _, closing_eq⟩ | ⟨inner, tokens_eq, behind_eq⟩
    · rw [closing_eq] at notClosing
      exact absurd (List.mem_append_right _ (.head _)) notClosing
    · cases inner with
      | nil =>
          rw [List.nil_append] at behind_eq
          rw [← behind_eq] at notClosing
          exact absurd (.head _) notClosing
      | cons first inner =>
          cases behind_eq
          exact ⟨inner, tokens_eq⟩
  obtain ⟨inner, tokens_eq⟩ := inPieces
  exact inLines.areClosed before token inner tokens_eq isEnd

theorem isApart_of_entries {vocabulary : Vocabulary} {newline : TokenKind}
    (name : vocabulary.keywordToken ≠ newline)
    (number : vocabulary.tokenKind? "NUMBER" ≠ some newline)
    (string : vocabulary.tokenKind? "STRING" ≠ some newline)
    (operators : ∀ entry ∈ vocabulary.operators.entries, entry.2 ≠ newline) :
    IsApart vocabulary newline := by
  refine ⟨name, number, string, ?_⟩
  intro literal isOperator
  exact operators _ (Dictionary.mem_entries_of_get? isOperator) rfl

/-- In the standard vocabularies no other token has the kind of line ends. -/
theorem isApart_standard :
    IsApart .python 5 ∧ IsApart .mini Vocabulary.Mini.newline := by
  constructor
  · apply isApart_of_entries <;> decide +kernel
  · apply isApart_of_entries <;> decide +kernel

/-- Lines without tokens, a line that is broken inside brackets and one that is joined, a
closing bracket too much, and no line break at the end. -/
def untidySource : String := "\n# x\n)f(a,\n b)\n\n1 + \\\n2"

theorem lex_gives_logical_lines_untidySource :
    newlineKind? .mini = some Vocabulary.Mini.newline ∧
      IsApart .mini Vocabulary.Mini.newline ∧ ∃ tokens, lex .mini untidySource = .ok tokens ∧
      tokens.map (fun token => (token.kind, token.value)) =
        [(5, ")"), (1, "f"), (5, "("), (1, "a"), (5, ","), (1, "b"), (5, ")"), (4, "\n"),
          (2, "1"), (5, "+"), (2, "2"), (4, ""), (0, "")] ∧
      (∃ (lines : List (List Token)) (marker : Token), tokens = lines.flatten ++ [marker] ∧
        marker.kind = Vocabulary.mini.endMarker ∧
        ∀ line ∈ lines, IsLogicalLine Vocabulary.Mini.newline line) ∧
      ∀ before token behind, tokens = before ++ token :: behind →
        token.kind = Vocabulary.Mini.newline → token.value = "\n" → openBrackets before = 0 := by
  have isNewline : newlineKind? .mini = some Vocabulary.Mini.newline := by decide +kernel
  have apart := isApart_standard.2
  have contents : (lex .mini untidySource).map
      (List.map fun token => (token.kind, token.value)) =
      .ok [(5, ")"), (1, "f"), (5, "("), (1, "a"), (5, ","), (1, "b"), (5, ")"), (4, "\n"),
          (2, "1"), (5, "+"), (2, "2"), (4, ""), (0, "")] := by
    rw [lex, lexFrom, operatorsInOrder_mini]
    decide +kernel
  cases lexed : lex .mini untidySource with
  | error error =>
      rw [lexed] at contents
      cases contents
  | ok tokens =>
      rw [lexed] at contents
      exact ⟨isNewline, apart, tokens, rfl, Except.ok.inj contents,
        lex_gives_logical_lines isNewline apart lexed⟩

end RuleMachine.Lexer
