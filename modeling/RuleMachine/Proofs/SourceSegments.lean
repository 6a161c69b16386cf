import RuleMachine.Proofs.LexerRuns

/-!
# The segments of a source

The lexer loses nothing.  A source for which it gives tokens is a sequence of segments, none
of them empty.  A segment with a token is the text of the token, and the token says truly on
which line and at which column it begins and how that line reads; a segment without a token
is blank space, a joined line break, a comment or a line break.

Places, lines and gaps are defined on the characters of the source, without the lexer.  Here
no operator of the vocabulary has a line break in it, so a line break is always the last
character of its segment.
-/

namespace RuleMachine.Lexer

open RuleMachine.Text

/-! ## Places and gaps -/

/-- The characters behind the last line break. -/
def sinceBreak (before : List Char) : List Char :=
  before.rtakeWhile (· != '\n')

/-- The place behind some characters of a source. -/
def placeBehind (before : List Char) : Position where
  line := 1 + before.count '\n'
  column := (sinceBreak before).length

/-- A line is the first one of a text, which ends with the line, or goes on behind a line feed
or a carriage return and a line feed. -/
inductive IsFirstLine : List Char → List Char → Prop
  | whole {line : List Char} : '\n' ∉ line → IsFirstLine line line
  | broken {line rest : List Char} : '\n' ∉ line → line.getLast? ≠ some '\r' →
      IsFirstLine line (line ++ '\n' :: rest)
  | brokenByTwo {line rest : List Char} : '\n' ∉ line →
      IsFirstLine line (line ++ '\r' :: '\n' :: rest)

/-- Text that gives no token. -/
inductive IsGap : List Char → Prop
  | blank {characters : List Char} :
      (∀ character ∈ characters, character ∈ [' ', '\t', '\x0c', '\r']) → IsGap characters
  | joined : IsGap ['\\', '\n']
  | joinedByTwo : IsGap ['\\', '\r', '\n']
  | comment {characters : List Char} : '\n' ∉ characters → IsGap ('#' :: characters)
  | lineBreak : IsGap ['\n']

/-- No operator of a vocabulary has a line break in it. -/
def OperatorsOnLine (vocabulary : Vocabulary) : Prop :=
  ∀ literal kind, vocabulary.operatorKind? literal = some kind → '\n' ∉ literal.toList

/-- A token is what a source reads between some characters and others. -/
structure StandsBetween (before characters behind : List Char) (token : Token) : Prop where
  value_eq : token.value = String.ofList characters
  position_eq : token.position = placeBehind before
  isLine : IsFirstLine token.sourceLine.toList (sinceBreak before ++ characters ++ behind)

/-- The tokens of a source that is cut into segments. -/
structure IsCutInto (vocabulary : Vocabulary) (source : List Char) (segments : List Piece)
    (tokens : List Token) : Prop where
  joined : textOf segments = source
  notEmpty : ∀ segment ∈ segments, segment.characters ≠ []
  tokens_eq : ∃ closing, IsClosing vocabulary (placeBehind source) closing ∧
    tokens = tokensOf segments ++ closing
  stands : ∀ before segment behind token, segments = before ++ segment :: behind →
    segment.token? = some token →
      StandsBetween (textOf before) segment.characters (textOf behind) token
  isGap : ∀ segment ∈ segments, segment.token? = none → IsGap segment.characters

/-! ## Lines -/

theorem not_mem_takeWhile_ne (text : List Char) : '\n' ∉ text.takeWhile (· != '\n') := by
  intro isThere
  have passes := List.mem_takeWhile_imp isThere
  rw [bne_self_eq_false] at passes
  cases passes

theorem isFirstLine_firstLine (text : List Char) : IsFirstLine (firstLine text) text := by
  have noBreak := not_mem_takeWhile_ne text
  have split := List.takeWhile_append_dropWhile (p := (· != '\n')) (l := text)
  rw [firstLine]
  -- The line is the whole text, or a line break stands right behind it.
  cases rest_eq : text.dropWhile (· != '\n') with
  | nil =>
      rw [rest_eq, List.append_nil] at split
      rw [split, if_neg fun isShorter => Nat.lt_irrefl _ isShorter.1]
      rw [split] at noBreak
      exact .whole noBreak
  | cons first rest =>
      have isBreak : first = '\n' := by
        have fails := List.dropWhile_get_zero_not (· != '\n') text (by rw [rest_eq]; simp)
        simpa [rest_eq] using fails
      subst isBreak
      rw [rest_eq] at split
      generalize text.takeWhile (· != '\n') = line at noBreak split ⊢
      subst split
      have isShorter : line.length < (line ++ '\n' :: rest).length := by
        rw [List.length_append, List.length_cons]
        omega
      by_cases endsByTwo : line.getLast? = some '\r'
      · obtain ⟨inside, rfl⟩ := List.getLast?_eq_some_iff.mp endsByTwo
        rw [if_pos ⟨isShorter, endsByTwo⟩, List.dropLast_concat, List.append_assoc]
        exact .brokenByTwo fun isThere => noBreak (List.mem_append_left _ isThere)
      · rw [if_neg fun both => endsByTwo both.2]
        exact .broken noBreak endsByTwo

theorem sinceBreak_append_of_not_mem (before : List Char) {characters : List Char}
    (noBreak : '\n' ∉ characters) :
    sinceBreak (before ++ characters) = sinceBreak before ++ characters := by
  have allPass : ∀ character ∈ characters.reverse, (character != '\n') = true := by
    intro character isThere
    rw [bne_iff_ne]
    rintro rfl
    exact noBreak (List.mem_reverse.mp isThere)
  rw [sinceBreak, List.rtakeWhile, List.reverse_append, List.takeWhile_append_of_pos allPass,
    List.reverse_append, List.reverse_reverse]
  rfl

theorem sinceBreak_append_of_mem (before : List Char) {characters : List Char}
    (isBroken : '\n' ∈ characters) (atEnd : '\n' ∉ characters.dropLast) :
    sinceBreak (before ++ characters) = [] := by
  have notEmpty := List.ne_nil_of_mem isBroken
  rw [← List.dropLast_concat_getLast notEmpty] at isBroken ⊢
  cases List.mem_append.mp isBroken with
  | inl isInside => exact absurd isInside atEnd
  | inr isLast =>
      rw [← List.mem_singleton.mp isLast, ← List.append_assoc, sinceBreak]
      exact List.rtakeWhile_concat_neg _ _ _ (by decide)

/-- If line breaks stand at the ends of pieces, the pieces behind the last piece with a line
break are the text behind the last line break. -/
theorem textOf_lastLine {pieces : List Piece}
    (atEnd : ∀ piece ∈ pieces, '\n' ∉ piece.characters.dropLast) :
    textOf (lastLine pieces) = sinceBreak (textOf pieces) := by
  induction pieces using List.reverseRecOn with
  | nil => rfl
  | append_singleton pieces piece inductionHypothesis =>
      rw [textOf_concat]
      by_cases isBroken : '\n' ∈ piece.characters
      · have stops : lastLine (pieces ++ [piece]) = [] := by
          apply List.rtakeWhile_concat_neg
          rw [beq_iff_eq]
          exact Nat.ne_of_gt (List.count_pos_iff.mpr isBroken)
        rw [stops, sinceBreak_append_of_mem _ isBroken
          (atEnd piece (List.mem_append_right _ (.head _)))]
        rfl
      · have goesOn : lastLine (pieces ++ [piece]) = lastLine pieces ++ [piece] := by
          apply List.rtakeWhile_concat_pos
          rw [beq_iff_eq]
          exact List.count_eq_zero_of_not_mem isBroken
        rw [goesOn, textOf_concat, sinceBreak_append_of_not_mem _ isBroken,
          inductionHypothesis fun earlier isEarlier =>
            atEnd earlier (List.mem_append_left _ isEarlier)]

theorem positionBehind_eq {pieces : List Piece}
    (atEnd : ∀ piece ∈ pieces, '\n' ∉ piece.characters.dropLast) :
    positionBehind pieces = placeBehind (textOf pieces) := by
  rw [positionBehind, textOf_lastLine atEnd, placeBehind]

/-! ## The text of a step -/

theorem take_run (test : Char → Bool) (text : List Char) :
    text.take (run test text) = text.takeWhile test :=
  (List.prefix_iff_eq_take.mp (List.takeWhile_prefix test)).symm

theorem isGap_of_skipLength {text : List Char} {length : Nat} :
    skipLength text = some length → IsGap (text.take length) := by
  fun_cases skipLength text with
  | case1 =>
      intro matched
      cases matched
  | case2 later =>
      intro matched
      cases matched
      rw [Nat.add_comm, List.take_succ_cons, take_run]
      exact .comment (not_mem_takeWhile_ne later)
  | case3 later =>
      intro matched
      cases matched
      exact .joined
  | case4 later =>
      intro matched
      cases matched
      exact .joinedByTwo
  | case5 first later =>
      intro matched
      cases matched
      rw [take_run]
      apply IsGap.blank
      intro character isThere
      have isBlank := List.mem_takeWhile_imp isThere
      simpa only [isInlineBlank, Bool.or_eq_true, beq_iff_eq, or_assoc, List.mem_cons,
        List.not_mem_nil, or_false] using isBlank
  | case6 first later =>
      intro matched
      cases matched

theorem IsGap.not_mem_dropLast {characters : List Char} (isGap : IsGap characters) :
    '\n' ∉ characters.dropLast := by
  cases isGap with
  | blank areBlank =>
      intro isThere
      have isBlank := areBlank _ (List.dropLast_subset _ isThere)
      revert isBlank
      decide
  | joined => decide
  | joinedByTwo => decide
  | comment noBreak =>
      intro isThere
      cases List.mem_cons.mp (List.dropLast_subset _ isThere) with
      | inl isMark => cases isMark
      | inr isInside => exact noBreak isInside
  | lineBreak => decide

/-- Numbers, strings and names have no line break in them. -/
theorem refuses_lineBreak (vocabulary : Vocabulary) {pattern : Pattern}
    (isToken : pattern = .number ∨ pattern = .string ∨ pattern = .name) :
    ∀ test ∈ (expression vocabulary pattern).tests, test '\n' = false := by
  have allRefuse : (expression vocabulary pattern).tests.all (fun test => !test '\n') = true := by
    rcases isToken with rfl | rfl | rfl <;> rfl
  intro test isTest
  have refuses := List.all_eq_true.mp allRefuse test isTest
  rwa [Bool.not_eq_true'] at refuses

theorem isGap_of_newlineLength {text : List Char} {length : Nat} :
    newlineLength text = some length → IsGap (text.take length) := by
  fun_cases newlineLength text with
  | case1 later =>
      intro matched
      cases matched
      exact .lineBreak
  | case2 =>
      intro matched
      cases matched

theorem Step.isGap_of_pattern {vocabulary : Vocabulary} {cursor : Cursor}
    {text rest : List Char} {piece : Piece} (step : Step vocabulary cursor text piece rest)
    (isPattern : piece.pattern = .skip ∨ piece.pattern = .newline) : IsGap piece.characters := by
  have length_eq := step.patternLength_eq
  rw [← step.take_eq]
  cases isPattern with
  | inl isSkip =>
      rw [isSkip] at length_eq
      exact isGap_of_skipLength length_eq
  | inr isNewline =>
      rw [isNewline] at length_eq
      exact isGap_of_newlineLength length_eq

/-- A segment gives no token only if it is a gap: the vocabulary knows every operator that
the patterns match. -/
theorem Step.isGap {vocabulary : Vocabulary} {cursor : Cursor} {text rest : List Char}
    {piece : Piece} (step : Step vocabulary cursor text piece rest)
    (noToken : piece.token? = none) : IsGap piece.characters := by
  have kind_eq := step.kind_eq
  rw [Piece.kind?, noToken, Option.map_none] at kind_eq
  cases isPattern : piece.pattern with
  | skip => exact step.isGap_of_pattern (.inl isPattern)
  | newline => exact step.isGap_of_pattern (.inr isPattern)
  | number =>
      rw [isPattern] at kind_eq
      obtain ⟨kind, _, isSome⟩ := exists_kind_of_requiredKind kind_eq
      cases isSome
  | string =>
      rw [isPattern] at kind_eq
      obtain ⟨kind, _, isSome⟩ := exists_kind_of_requiredKind kind_eq
      cases isSome
  | name =>
      rw [isPattern] at kind_eq
      cases kind_eq
  | operator =>
      obtain ⟨kind, isOperator⟩ := step.exists_operator isPattern
      rw [isPattern, kindOf, isOperator] at kind_eq
      cases kind_eq

/-- A line break is the last character of its piece. -/
theorem Step.not_mem_dropLast {vocabulary : Vocabulary} (onLine : OperatorsOnLine vocabulary)
    {cursor : Cursor} {text rest : List Char} {piece : Piece}
    (step : Step vocabulary cursor text piece rest) : '\n' ∉ piece.characters.dropLast := by
  have noBreak : '\n' ∉ piece.characters → '\n' ∉ piece.characters.dropLast :=
    fun noBreak isThere => noBreak (List.dropLast_subset _ isThere)
  have avoided : piece.pattern = .number ∨ piece.pattern = .string ∨ piece.pattern = .name →
      '\n' ∉ piece.characters := by
    intro isToken
    rw [← step.take_eq]
    exact Regex.not_mem_take_of_mem_lengths (refuses_lineBreak vocabulary isToken) text _
      (mem_lengths_of_matchFront step.match_eq)
  cases isPattern : piece.pattern with
  | skip => exact (step.isGap_of_pattern (.inl isPattern)).not_mem_dropLast
  | newline => exact (step.isGap_of_pattern (.inr isPattern)).not_mem_dropLast
  | number => exact noBreak (avoided (.inl isPattern))
  | string => exact noBreak (avoided (.inr (.inl isPattern)))
  | name => exact noBreak (avoided (.inr (.inr isPattern)))
  | operator =>
      obtain ⟨kind, isOperator⟩ := step.exists_operator isPattern
      have free := onLine piece.value kind isOperator
      rw [Piece.value, String.toList_ofList] at free
      exact noBreak free

/-! ## The segments of a run -/

/-- What holds of the piece of every step holds of every piece of a run. -/
theorem Run.forall_mem {vocabulary : Vocabulary} {cursor last : Cursor} {text final : List Char}
    {pieces : List Piece} (run : Run vocabulary cursor text pieces last final)
    {holds : Piece → Prop}
    (stepHolds : ∀ {cursor text piece rest}, Step vocabulary cursor text piece rest → holds piece) :
    ∀ piece ∈ pieces, holds piece := by
  induction run with
  | done cursor text =>
      intro piece isPiece
      cases isPiece
  | step step _ inductionHypothesis =>
      exact List.forall_mem_cons.mpr ⟨stepHolds step, inductionHypothesis⟩

/-- The token of a piece stands where the lexer took the piece. -/
theorem Run.standsBetween {vocabulary : Vocabulary} (onLine : OperatorsOnLine vocabulary)
    {source : List Char} {last : Cursor} {before behind : List Piece} {piece : Piece}
    (run : Run vocabulary (.start source) source (before ++ piece :: behind) last [])
    {token : Token} (isToken : piece.token? = some token) :
    StandsBetween (textOf before) piece.characters (textOf behind) token := by
  obtain ⟨middle, rest, reached, step, further⟩ := run.exists_split
  have placed := reached.placed (placed_start source)
  have atEnd := reached.forall_mem (Step.not_mem_dropLast onLine)
  have rest_eq : rest = textOf behind := by
    rw [further.text_eq, List.append_nil]
  have line_eq : middle.fromLineStart =
      sinceBreak (textOf before) ++ piece.characters ++ textOf behind := by
    rw [placed.fromLineStart_eq, List.nil_append, textOf_lastLine atEnd, rest_eq,
      List.append_assoc]
  rw [step.eq_tokenOf isToken]
  constructor
  · rfl
  · exact placed.position_eq.trans (positionBehind_eq atEnd)
  · rw [Cursor.tokenOf, String.toList_ofList, line_eq]
    exact isFirstLine_firstLine _

/-- The lexer cuts every source that it has tokens for into segments, and its tokens are
those of the segments and the closing ones. -/
theorem lex_cuts_into_segments {vocabulary : Vocabulary} (onLine : OperatorsOnLine vocabulary)
    {source : String} {tokens : List Token} (lexed : lex vocabulary source = .ok tokens) :
    ∃ segments, IsCutInto vocabulary source.toList segments tokens := by
  obtain ⟨pieces, last, run, tokens_eq⟩ := exists_run_of_lexFrom lexed
  have text_eq := run.text_eq
  rw [List.append_nil] at text_eq
  refine ⟨pieces, text_eq.symm, run.forall_mem Step.notEmpty, ?_, ?_, ?_⟩
  · have placed := run.placed (placed_start source.toList)
    have position_eq : last.position = placeBehind source.toList := by
      rw [placed.position_eq, List.nil_append, text_eq]
      exact positionBehind_eq (run.forall_mem (Step.not_mem_dropLast onLine))
    have isClosing := isClosing_closing vocabulary last
    rw [position_eq] at isClosing
    exact ⟨closing vocabulary last, isClosing, tokens_eq⟩
  · intro before segment behind token pieces_eq isToken
    subst pieces_eq
    exact run.standsBetween onLine isToken
  · exact run.forall_mem Step.isGap

theorem operatorsOnLine_of_entries {vocabulary : Vocabulary}
    (free : ∀ entry ∈ vocabulary.operators.entries, '\n' ∉ entry.1.toList) :
    OperatorsOnLine vocabulary := by
  intro literal kind isOperator
  exact free (literal, kind) (Dictionary.mem_entries_of_get? isOperator)

/-- A source with brackets over several lines, a joined line break and characters of more
than one byte. -/
def spreadSource : String := "é = (\\\r\n  1, # one\r\n 'ü')\r\nf"

theorem lex_cuts_into_segments_spreadSource :
    OperatorsOnLine .mini ∧ ∃ tokens segments, lex .mini spreadSource = .ok tokens ∧
      IsCutInto .mini spreadSource.toList segments tokens ∧
      tokens.map (fun token => (token.value, token.position.line, token.position.column)) =
        [("é", 1, 0), ("=", 1, 2), ("(", 1, 4), ("1", 2, 2), (",", 2, 3), ("'ü'", 3, 1),
          (")", 3, 4), ("\n", 3, 6), ("f", 4, 0), ("", 4, 1), ("", 4, 1)] := by
  have onLine : OperatorsOnLine .mini := operatorsOnLine_of_entries (by decide +kernel)
  have places : (lex .mini spreadSource).map
      (List.map fun token => (token.value, token.position.line, token.position.column)) =
      .ok [("é", 1, 0), ("=", 1, 2), ("(", 1, 4), ("1", 2, 2), (",", 2, 3), ("'ü'", 3, 1),
          (")", 3, 4), ("\n", 3, 6), ("f", 4, 0), ("", 4, 1), ("", 4, 1)] := by
    rw [lex, lexFrom, operatorsInOrder_mini]
    decide +kernel
  cases lexed : lex .mini spreadSource with
  | error error =>
      rw [lexed] at places
      cases places
  | ok tokens =>
      rw [lexed] at places
      obtain ⟨segments, isCut⟩ := lex_cuts_into_segments onLine lexed
      exact ⟨onLine, tokens, segments, rfl, isCut, Except.ok.inj places⟩

end RuleMachine.Lexer
