import Mathlib.Data.List.DropRight
import RuleMachine.Lexer.Lex
import RuleMachine.Proofs.PatternExpressions
import RuleMachine.Vocabulary.Standard

/-!
# Runs of the lexer

The lexer cuts a source into pieces, one after the other.  A step takes the piece that the
patterns match at the front of the text, and a run is a sequence of steps.  Every run can be
continued up to the end of the source, or up to a place where the lexer reports an error;
the tokens of a source are the tokens of the pieces of such a run.

A run also says where the lexer is: lines are counted by the line breaks before, columns
from the end of the last piece with a line break on.
-/

namespace RuleMachine.Lexer

/-! ## Steps -/

/-- A piece of source text: the pattern that it matches, its characters, and the token that
it gives. -/
structure Piece where
  pattern : Pattern
  characters : List Char
  token? : Option Token

/-- The text of a piece. -/
def Piece.value (piece : Piece) : String :=
  String.ofList piece.characters

/-- The kind of the token of a piece. -/
def Piece.kind? (piece : Piece) : Option TokenKind :=
  piece.token?.map Token.kind

/-- The characters of several pieces. -/
def textOf (pieces : List Piece) : List Char :=
  pieces.flatMap Piece.characters

/-- The tokens of several pieces. -/
def tokensOf (pieces : List Piece) : List Token :=
  pieces.filterMap Piece.token?

/-- The token that begins where the lexer is. -/
def Cursor.tokenOf (cursor : Cursor) (value : String) (kind : TokenKind) : Token where
  kind
  value
  position := cursor.position
  sourceLine := String.ofList (firstLine cursor.fromLineStart)

/-- The kind of the last token is remembered, if there is a token. -/
def Cursor.noteKind? (cursor : Cursor) : Option TokenKind → Cursor
  | none => cursor
  | some kind => cursor.noteKind kind

/-- The lexer behind a piece. -/
def Cursor.behind (cursor : Cursor) (piece : Piece) (rest : List Char) : Cursor :=
  ((cursor.note piece.pattern piece.value).noteKind? piece.kind?).advance piece.characters rest

/-- The lexer takes a piece from the front of a text. -/
structure Step (vocabulary : Vocabulary) (cursor : Cursor) (text : List Char) (piece : Piece)
    (rest : List Char) : Prop where
  text_eq : text = piece.characters ++ rest
  notEmpty : piece.characters ≠ []
  match_eq : matchFront vocabulary text = some (piece.pattern, piece.characters.length)
  kind_eq : kindOf vocabulary cursor piece.pattern piece.value = .ok piece.kind?
  token_eq : piece.token? = piece.kind?.map (cursor.tokenOf piece.value)

/-- The lexer takes pieces one after the other. -/
inductive Run (vocabulary : Vocabulary) :
    Cursor → List Char → List Piece → Cursor → List Char → Prop
  | done (cursor : Cursor) (text : List Char) : Run vocabulary cursor text [] cursor text
  | step {cursor last : Cursor} {text rest final : List Char} {piece : Piece}
      {pieces : List Piece} :
      Step vocabulary cursor text piece rest →
      Run vocabulary (cursor.behind piece rest) rest pieces last final →
      Run vocabulary cursor text (piece :: pieces) last final

theorem textOf_append (front behind : List Piece) :
    textOf (front ++ behind) = textOf front ++ textOf behind :=
  List.flatMap_append

theorem textOf_cons (piece : Piece) (later : List Piece) :
    textOf (piece :: later) = piece.characters ++ textOf later :=
  List.flatMap_cons

theorem textOf_concat (front : List Piece) (piece : Piece) :
    textOf (front ++ [piece]) = textOf front ++ piece.characters := by
  rw [textOf_append, textOf_cons]
  exact congrArg (textOf front ++ ·) (List.append_nil _)

theorem tokensOf_append (front behind : List Piece) :
    tokensOf (front ++ behind) = tokensOf front ++ tokensOf behind :=
  List.filterMap_append

theorem tokensOf_cons (piece : Piece) (later : List Piece) :
    tokensOf (piece :: later) = piece.token?.toList ++ tokensOf later := by
  rw [tokensOf, List.filterMap_cons]
  cases piece.token? <;> rfl

/-! ## What the lexer does where it is -/

theorem lexFrom_of_step {vocabulary : Vocabulary} {cursor : Cursor} {text rest : List Char}
    {piece : Piece} (step : Step vocabulary cursor text piece rest) :
    lexFrom vocabulary cursor text =
      (lexFrom vocabulary (cursor.behind piece rest) rest).map (piece.token?.toList ++ ·) := by
  obtain ⟨pattern, characters, token?⟩ := piece
  obtain ⟨text_eq, notEmpty, match_eq, kind_eq, token_eq⟩ := step
  cases characters with
  | nil => exact absurd rfl notEmpty
  | cons first inside =>
      subst text_eq
      simp only [List.cons_append, List.length_cons, Piece.value, matchFront] at match_eq kind_eq
      rw [List.cons_append, lexFrom, lexWith, match_eq]
      simp only [List.take_left, List.drop_left, kind_eq]
      -- Both sides go on from the same cursor; only the token before the rest differs.
      cases token? with
      | none =>
          have next_eq : cursor.behind ⟨pattern, first :: inside, none⟩ rest =
              (cursor.note pattern (String.ofList (first :: inside))).advance (first :: inside)
                rest := rfl
          simp only [next_eq, lexFrom, Piece.kind?, Option.map_none]
          cases lexWith (operatorsInOrder vocabulary) vocabulary ((cursor.note pattern
            (String.ofList (first :: inside))).advance (first :: inside) rest) rest with
          | error error => rfl
          | ok tokens => rfl
      | some token =>
          have isToken : token = cursor.tokenOf (String.ofList (first :: inside)) token.kind :=
            Option.some.inj token_eq
          have next_eq : cursor.behind ⟨pattern, first :: inside, some token⟩ rest =
              ((cursor.note pattern (String.ofList (first :: inside))).noteKind token.kind).advance
                (first :: inside) rest := rfl
          simp only [next_eq, lexFrom, Piece.kind?, Option.map_some]
          cases lexWith (operatorsInOrder vocabulary) vocabulary (((cursor.note pattern
            (String.ofList (first :: inside))).noteKind token.kind).advance (first :: inside)
            rest) rest with
          | error error => rfl
          | ok tokens => exact congrArg (fun token => Except.ok (token :: tokens)) isToken.symm

/-- A match of at least one character can be taken, unless the vocabulary has no kind for
it. -/
theorem step_of_matchFront {vocabulary : Vocabulary} {text : List Char} {pattern : Pattern}
    {length : Nat} (matched : matchFront vocabulary text = some (pattern, length))
    (positive : 0 < length) {cursor : Cursor} {kind? : Option TokenKind}
    (kind_eq : kindOf vocabulary cursor pattern (String.ofList (text.take length)) = .ok kind?) :
    Step vocabulary cursor text
      ⟨pattern, text.take length,
        kind?.map (cursor.tokenOf (String.ofList (text.take length)))⟩
      (text.drop length) := by
  have bounded := (expression vocabulary pattern).le_length_of_mem_lengths text length
    (mem_lengths_of_matchFront matched)
  have length_eq : (text.take length).length = length := by
    rw [List.length_take, Nat.min_eq_left bounded]
  have kind?_eq : (kind?.map (cursor.tokenOf (String.ofList (text.take length)))).map
      Token.kind = kind? := by
    cases kind? <;> rfl
  constructor
  · exact (List.take_append_drop length text).symm
  · intro isEmpty
    rw [show text.take length = [] from isEmpty, List.length_nil] at length_eq
    omega
  · rw [length_eq, matched]
  · rw [Piece.kind?, kind?_eq]
    exact kind_eq
  · rw [Piece.kind?, kind?_eq]
    rfl

theorem Step.patternLength_eq {vocabulary : Vocabulary} {cursor : Cursor}
    {text rest : List Char} {piece : Piece} (step : Step vocabulary cursor text piece rest) :
    patternLength vocabulary text piece.pattern = some piece.characters.length :=
  patternLength_of_matchFront step.match_eq

theorem Step.take_eq {vocabulary : Vocabulary} {cursor : Cursor} {text rest : List Char}
    {piece : Piece} (step : Step vocabulary cursor text piece rest) :
    text.take piece.characters.length = piece.characters := by
  rw [step.text_eq, List.take_left]

/-- A text that no pattern matches, and a match without characters, stop the lexer. -/
theorem lexFrom_of_unmatched {vocabulary : Vocabulary} {first : Char} {later : List Char}
    (unmatched : ∀ pattern length,
      matchFront vocabulary (first :: later) = some (pattern, length) → length = 0)
    (cursor : Cursor) :
    lexFrom vocabulary cursor (first :: later) = .error ⟨cursor.position, first.toString⟩ := by
  simp only [matchFront] at unmatched
  rw [lexFrom, lexWith]
  cases matched : matchWith (operatorsInOrder vocabulary) (first :: later) with
  | none => rfl
  | some found =>
      obtain ⟨pattern, length⟩ := found
      rw [unmatched pattern length matched]

theorem exists_kind_of_requiredKind {vocabulary : Vocabulary} {name : String} {cursor : Cursor}
    {text : String} {kind? : Option TokenKind}
    (required : requiredKind vocabulary name cursor text = .ok kind?) :
    ∃ kind, vocabulary.tokenKind? name = some kind ∧ kind? = some kind := by
  rw [requiredKind] at required
  cases found : vocabulary.tokenKind? name with
  | none =>
      rw [found] at required
      cases required
  | some kind =>
      rw [found] at required
      cases required
      exact ⟨kind, rfl, rfl⟩

theorem position_of_kindOf_error {vocabulary : Vocabulary} {cursor : Cursor}
    {pattern : Pattern} {text : String} {error : LexError}
    (refused : kindOf vocabulary cursor pattern text = .error error) :
    error.position = cursor.position := by
  have required : ∀ name, requiredKind vocabulary name cursor text = .error error →
      error.position = cursor.position := by
    intro name refused
    rw [requiredKind] at refused
    cases found : vocabulary.tokenKind? name with
    | none =>
        rw [found] at refused
        cases refused
        rfl
    | some kind =>
        rw [found] at refused
        cases refused
  cases pattern with
  | number => exact required "NUMBER" refused
  | string => exact required "STRING" refused
  | skip => cases refused
  | newline => cases refused
  | name => cases refused
  | operator => cases refused

/-- The lexer takes a piece or reports an error where it is. -/
theorem exists_step_or_error (vocabulary : Vocabulary) (cursor : Cursor) (first : Char)
    (later : List Char) :
    (∃ piece rest, Step vocabulary cursor (first :: later) piece rest) ∨
      ∃ error, lexFrom vocabulary cursor (first :: later) = .error error ∧
        error.position = cursor.position := by
  by_cases unmatched : ∀ pattern length,
      matchFront vocabulary (first :: later) = some (pattern, length) → length = 0
  · exact .inr ⟨_, lexFrom_of_unmatched unmatched cursor, rfl⟩
  · simp only [not_forall] at unmatched
    obtain ⟨pattern, length, matched, notZero⟩ := unmatched
    cases kind_eq : kindOf vocabulary cursor pattern
        (String.ofList ((first :: later).take length)) with
    | ok kind? =>
        exact .inl ⟨_, _, step_of_matchFront matched (Nat.pos_of_ne_zero notZero) kind_eq⟩
    | error error =>
        obtain ⟨more, rfl⟩ := Nat.exists_eq_succ_of_ne_zero notZero
        refine .inr ⟨error, ?_, position_of_kindOf_error kind_eq⟩
        rw [List.take_succ_cons] at kind_eq
        rw [matchFront] at matched
        rw [lexFrom, lexWith, matched]
        simp only [kind_eq]

/-! ## Runs -/

/-- A run takes its pieces from the front of the text. -/
theorem Run.text_eq {vocabulary : Vocabulary} {cursor last : Cursor} {text final : List Char}
    {pieces : List Piece} (run : Run vocabulary cursor text pieces last final) :
    text = textOf pieces ++ final := by
  induction run with
  | done cursor text => rfl
  | step step _ inductionHypothesis =>
      rw [step.text_eq, inductionHypothesis, textOf_cons, List.append_assoc]

/-- Behind a run the lexer goes on, and the tokens of the run stand before what it gives. -/
theorem Run.lexFrom_eq {vocabulary : Vocabulary} {cursor last : Cursor}
    {text final : List Char} {pieces : List Piece}
    (run : Run vocabulary cursor text pieces last final) :
    lexFrom vocabulary cursor text =
      (lexFrom vocabulary last final).map (tokensOf pieces ++ ·) := by
  induction run with
  | done cursor text =>
      cases lexFrom vocabulary cursor text <;> rfl
  | step step _ inductionHypothesis =>
      rw [lexFrom_of_step step, inductionHypothesis, tokensOf_cons]
      cases lexFrom vocabulary _ _ with
      | error error => rfl
      | ok tokens => exact congrArg Except.ok (List.append_assoc _ _ _).symm

theorem Run.append {vocabulary : Vocabulary} {cursor middle last : Cursor}
    {text rest final : List Char} {front behind : List Piece}
    (first : Run vocabulary cursor text front middle rest)
    (second : Run vocabulary middle rest behind last final) :
    Run vocabulary cursor text (front ++ behind) last final := by
  induction first with
  | done cursor text => exact second
  | step step _ inductionHypothesis => exact .step step (inductionHypothesis second)

/-- A run passes the front of each of its pieces. -/
theorem Run.exists_split {vocabulary : Vocabulary} {cursor last : Cursor}
    {text final : List Char} {before behind : List Piece} {piece : Piece}
    (run : Run vocabulary cursor text (before ++ piece :: behind) last final) :
    ∃ middle rest, Run vocabulary cursor text before middle (piece.characters ++ rest) ∧
      Step vocabulary middle (piece.characters ++ rest) piece rest ∧
      Run vocabulary (middle.behind piece rest) rest behind last final := by
  induction before generalizing cursor text with
  | nil =>
      cases run with
      | step step later =>
          have text_eq := step.text_eq
          subst text_eq
          exact ⟨cursor, _, .done cursor _, step, later⟩
  | cons first before inductionHypothesis =>
      cases run with
      | step step later =>
          obtain ⟨middle, rest, reached, taken, further⟩ := inductionHypothesis later
          exact ⟨middle, rest, .step step reached, taken, further⟩

/-- The lexer goes on up to the end of the text, or to an error where it is then. -/
theorem exists_run (vocabulary : Vocabulary) (cursor : Cursor) (text : List Char) :
    ∃ pieces last final, Run vocabulary cursor text pieces last final ∧
      (final = [] ∨ ∃ error, lexFrom vocabulary last final = .error error ∧
        error.position = last.position) := by
  -- Every piece has characters, so the induction is on the length of the text.
  induction length_eq : text.length using Nat.strongRecOn generalizing cursor text with
  | ind length inductionHypothesis =>
      cases text with
      | nil => exact ⟨[], cursor, [], .done cursor [], .inl rfl⟩
      | cons first later =>
          rcases exists_step_or_error vocabulary cursor first later with
            ⟨piece, rest, step⟩ | stops
          · have shorter : rest.length < length := by
              have positive := List.length_pos_iff.mpr step.notEmpty
              rw [← length_eq, step.text_eq, List.length_append]
              omega
            obtain ⟨pieces, last, final, run, outcome⟩ :=
              inductionHypothesis rest.length shorter (cursor.behind piece rest) rest rfl
            exact ⟨piece :: pieces, last, final, .step step run, outcome⟩
          · exact ⟨[], cursor, first :: later, .done cursor _, .inr stops⟩

/-- If the lexer gives tokens, it gives those of a run through the whole text and the closing
ones. -/
theorem exists_run_of_lexFrom {vocabulary : Vocabulary} {cursor : Cursor} {text : List Char}
    {tokens : List Token} (lexed : lexFrom vocabulary cursor text = .ok tokens) :
    ∃ pieces last, Run vocabulary cursor text pieces last [] ∧
      tokens = tokensOf pieces ++ closing vocabulary last := by
  obtain ⟨pieces, last, final, run, outcome⟩ := exists_run vocabulary cursor text
  rw [run.lexFrom_eq] at lexed
  rcases outcome with rfl | ⟨error, stops, _⟩
  · rw [lexFrom, lexWith] at lexed
    cases lexed
    exact ⟨pieces, last, run, rfl⟩
  · rw [stops] at lexed
    cases lexed

/-! ## Operators -/

theorem isTriedBefore_trans (first second third : String)
    (before : isTriedBefore first second = true) (further : isTriedBefore second third = true) :
    isTriedBefore first third = true := by
  simp only [isTriedBefore, Bool.or_eq_true, Bool.and_eq_true, decide_eq_true_eq,
    beq_iff_eq] at before further ⊢
  rcases before with more | ⟨same, isLe⟩
  · left
    omega
  · rcases further with more | ⟨sameToo, isLeToo⟩
    · left
      omega
    · right
      exact ⟨same.trans sameToo, String.le_trans isLe isLeToo⟩

theorem isTriedBefore_total (first second : String) :
    (isTriedBefore first second || isTriedBefore second first) = true := by
  simp only [isTriedBefore, Bool.or_eq_true, Bool.and_eq_true, decide_eq_true_eq, beq_iff_eq]
  rcases Nat.lt_trichotomy first.utf8ByteSize second.utf8ByteSize with fewer | same | more
  · exact .inr (.inl fewer)
  · cases String.le_total first second with
    | inl isLe => exact .inl (.inr ⟨same, isLe⟩)
    | inr isGe => exact .inr (.inr ⟨same.symm, isGe⟩)
  · exact .inl (.inl more)

theorem isTriedBefore_antisymm {first second : String}
    (before : isTriedBefore first second = true) (behind : isTriedBefore second first = true) :
    first = second := by
  simp only [isTriedBefore, Bool.or_eq_true, Bool.and_eq_true, decide_eq_true_eq,
    beq_iff_eq] at before behind
  rcases before with more | ⟨same, isLe⟩
  · omega
  · rcases behind with more | ⟨_, isGe⟩
    · omega
    · exact String.le_antisymm isLe isGe

theorem pairwise_operatorsInOrder (vocabulary : Vocabulary) :
    (operatorsInOrder vocabulary).Pairwise fun first second => isTriedBefore first second = true :=
  List.pairwise_mergeSort isTriedBefore_trans isTriedBefore_total _

/-- Operators in order are put in order in no other way. -/
theorem operatorsInOrder_eq {vocabulary : Vocabulary} {operators : List String}
    (ordered : operators.Pairwise fun first second => isTriedBefore first second = true)
    (same : operators.Perm (vocabulary.operators.entries.map Prod.fst)) :
    operatorsInOrder vocabulary = operators := by
  have together : (operatorsInOrder vocabulary).Perm operators :=
    (List.mergeSort_perm _ _).trans same.symm
  apply together.eq_of_pairwise _ (pairwise_operatorsInOrder vocabulary) ordered
  intro first second _ _
  exact isTriedBefore_antisymm

theorem operatorsInOrder_mini :
    operatorsInOrder .mini = ["(", ")", "*", "+", ",", "-", "/", ":", "="] := by
  apply operatorsInOrder_eq
  · decide +kernel
  · decide +kernel

theorem mem_operatorsInOrder_iff {vocabulary : Vocabulary} {literal : String} :
    literal ∈ operatorsInOrder vocabulary ↔
      ∃ kind, vocabulary.operatorKind? literal = some kind := by
  rw [operatorsInOrder, List.mem_mergeSort, List.mem_map]
  constructor
  · rintro ⟨⟨_, kind⟩, isEntry, rfl⟩
    exact ⟨kind, Dictionary.get?_of_mem_entries isEntry⟩
  · rintro ⟨kind, found⟩
    exact ⟨(literal, kind), Dictionary.mem_entries_of_get? found, rfl⟩

/-- A piece that the pattern of operators matches spells an operator of the vocabulary. -/
theorem Step.exists_operator {vocabulary : Vocabulary} {cursor : Cursor}
    {text rest : List Char} {piece : Piece} (step : Step vocabulary cursor text piece rest)
    (isPattern : piece.pattern = .operator) :
    ∃ kind, vocabulary.operatorKind? piece.value = some kind := by
  have matched := step.patternLength_eq
  rw [isPattern, patternLength, operatorLength] at matched
  obtain ⟨literal, found, length_eq⟩ := Option.map_eq_some_iff.mp matched
  obtain ⟨kind, isOperator⟩ := mem_operatorsInOrder_iff.mp (List.mem_of_find?_eq_some found)
  have atFront := List.find?_some found
  rw [standsAtFront, List.isPrefixOf_iff_prefix] at atFront
  have value_eq : piece.value = literal := by
    rw [Piece.value, ← step.take_eq, ← length_eq, ← String.length_toList,
      ← List.prefix_iff_eq_take.mp atFront, String.ofList_toList]
  exact ⟨kind, value_eq ▸ isOperator⟩

/-- The token of a piece is written as the piece, and begins where the lexer is. -/
theorem Step.eq_tokenOf {vocabulary : Vocabulary} {cursor : Cursor} {text rest : List Char}
    {piece : Piece} (step : Step vocabulary cursor text piece rest) {token : Token}
    (isToken : piece.token? = some token) :
    token = cursor.tokenOf piece.value token.kind := by
  have token_eq := step.token_eq
  rw [Piece.kind?, isToken] at token_eq
  exact Option.some.inj token_eq

/-! ## The cursor behind a piece -/

theorem Cursor.note_place (cursor : Cursor) (pattern : Pattern) (text : String) :
    (cursor.note pattern text).position = cursor.position ∧
      (cursor.note pattern text).fromLineStart = cursor.fromLineStart ∧
      (cursor.note pattern text).lastKind = cursor.lastKind := by
  cases pattern with
  | operator =>
      rw [note, noteOperator]
      split_ifs <;> exact ⟨rfl, rfl, rfl⟩
  | skip => exact ⟨rfl, rfl, rfl⟩
  | newline => exact ⟨rfl, rfl, rfl⟩
  | number => exact ⟨rfl, rfl, rfl⟩
  | string => exact ⟨rfl, rfl, rfl⟩
  | name => exact ⟨rfl, rfl, rfl⟩

theorem Cursor.noteKind?_eq (cursor : Cursor) (kind? : Option TokenKind) :
    cursor.noteKind? kind? = { cursor with lastKind := kind?.or cursor.lastKind } := by
  cases kind? <;> rfl

theorem Cursor.behind_position (cursor : Cursor) (piece : Piece) (rest : List Char) :
    (cursor.behind piece rest).position =
      if piece.characters.count '\n' = 0 then
        ⟨cursor.position.line, cursor.position.column + piece.characters.length⟩
      else
        ⟨cursor.position.line + piece.characters.count '\n', 0⟩ := by
  obtain ⟨position_eq, _⟩ := cursor.note_place piece.pattern piece.value
  rw [behind, noteKind?_eq, advance, ← position_eq]
  split_ifs <;> rfl

theorem Cursor.behind_fromLineStart (cursor : Cursor) (piece : Piece) (rest : List Char) :
    (cursor.behind piece rest).fromLineStart =
      if piece.characters.count '\n' = 0 then cursor.fromLineStart else rest := by
  obtain ⟨_, fromLineStart_eq, _⟩ := cursor.note_place piece.pattern piece.value
  rw [behind, noteKind?_eq, advance, ← fromLineStart_eq]
  split_ifs <;> rfl

theorem Cursor.behind_lastKind (cursor : Cursor) (piece : Piece) (rest : List Char) :
    (cursor.behind piece rest).lastKind = piece.kind?.or cursor.lastKind := by
  obtain ⟨_, _, lastKind_eq⟩ := cursor.note_place piece.pattern piece.value
  rw [behind, noteKind?_eq, advance, ← lastKind_eq]
  split_ifs <;> rfl

theorem Cursor.behind_depth (cursor : Cursor) (piece : Piece) (rest : List Char) :
    (cursor.behind piece rest).depth = (cursor.note piece.pattern piece.value).depth := by
  rw [behind, noteKind?_eq, advance]
  split_ifs <;> rfl

/-! ## Where the lexer is -/

/-- The pieces behind the last piece with a line break. -/
def lastLine (pieces : List Piece) : List Piece :=
  pieces.rtakeWhile fun piece => piece.characters.count '\n' == 0

/-- The place behind pieces that stand at the front of a source. -/
def positionBehind (pieces : List Piece) : Position where
  line := 1 + (textOf pieces).count '\n'
  column := (textOf (lastLine pieces)).length

/-- What the lexer remembers of its place is true of the pieces before. -/
structure Placed (before : List Piece) (cursor : Cursor) (text : List Char) : Prop where
  position_eq : cursor.position = positionBehind before
  fromLineStart_eq : cursor.fromLineStart = textOf (lastLine before) ++ text

theorem placed_start (source : List Char) : Placed [] (.start source) source :=
  ⟨rfl, rfl⟩

theorem Step.placed {vocabulary : Vocabulary} {cursor : Cursor} {text rest : List Char}
    {piece : Piece} (step : Step vocabulary cursor text piece rest) {before : List Piece}
    (placed : Placed before cursor text) :
    Placed (before ++ [piece]) (cursor.behind piece rest) rest := by
  have line_eq : (textOf (before ++ [piece])).count '\n' =
      (textOf before).count '\n' + piece.characters.count '\n' := by
    rw [textOf_concat, List.count_append]
  by_cases noBreak : piece.characters.count '\n' = 0
  · have onLine : lastLine (before ++ [piece]) = lastLine before ++ [piece] :=
      List.rtakeWhile_concat_pos _ _ _ (beq_iff_eq.mpr noBreak)
    have onLine_eq : textOf (lastLine (before ++ [piece])) =
        textOf (lastLine before) ++ piece.characters := by
      rw [onLine, textOf_concat]
    constructor
    · rw [Cursor.behind_position, if_pos noBreak, placed.position_eq, positionBehind,
        positionBehind, line_eq, onLine_eq, noBreak, List.length_append]
      rfl
    · rw [Cursor.behind_fromLineStart, if_pos noBreak, placed.fromLineStart_eq, onLine_eq,
        step.text_eq, List.append_assoc]
  · have onLine : lastLine (before ++ [piece]) = [] :=
      List.rtakeWhile_concat_neg _ _ _ (by rwa [beq_iff_eq])
    constructor
    · rw [Cursor.behind_position, if_neg noBreak, placed.position_eq, positionBehind,
        positionBehind, line_eq, onLine, Nat.add_assoc]
      rfl
    · rw [Cursor.behind_fromLineStart, if_neg noBreak, onLine]
      rfl

theorem Run.placed {vocabulary : Vocabulary} {cursor last : Cursor} {text final : List Char}
    {pieces : List Piece} (run : Run vocabulary cursor text pieces last final)
    {before : List Piece} (placed : Placed before cursor text) :
    Placed (before ++ pieces) last final := by
  induction run generalizing before with
  | done cursor text =>
      rw [List.append_nil]
      exact placed
  | step step _ inductionHypothesis =>
      have further := inductionHypothesis (step.placed placed)
      rw [List.append_assoc] at further
      exact further

/-! ## Tokens without text -/

/-- The tokens that have no text: the end marker, and before it a line end or none. -/
inductive IsClosing (vocabulary : Vocabulary) (position : Position) : List Token → Prop
  | marker :
      IsClosing vocabulary position [⟨vocabulary.endMarker, "", position, ""⟩]
  | newline {kind : TokenKind} : newlineKind? vocabulary = some kind →
      IsClosing vocabulary position
        [⟨kind, "", position, ""⟩, ⟨vocabulary.endMarker, "", position, ""⟩]

theorem isClosing_closing (vocabulary : Vocabulary) (cursor : Cursor) :
    IsClosing vocabulary cursor.position (closing vocabulary cursor) := by
  rw [closing]
  cases found : newlineKind? vocabulary with
  | none => exact .marker
  | some newline =>
      by_cases isOpen : (cursor.lastKind.isSome && cursor.lastKind != some newline) = true
      · simp only [isOpen, if_true]
        exact .newline found
      · simp only [isOpen]
        exact .marker

end RuleMachine.Lexer
