import RuleMachine.Proofs.CheckedReading

/-!
# The lexemes of one line

A line is scanned from left to right.  What has been scanned up to a column are lexemes,
each of which is the stretch of the line at which it points, and blank characters between
them.  Scanning goes on up to the line break or a comment, or to a place where there is
no lexeme: the character there begins none, or it is a quote that is not closed.

The lines of a text, the faults and the number of open brackets are defined without the
scanner.
-/

namespace RuleMachine

/-- A column lies in a stretch of a line. -/
def Location.Covers (location : Location) (column : Nat) : Prop :=
  location.startColumn ≤ column ∧ column < location.endColumn

namespace GrammarText

open RuleMachine.Text

/-! ## The lines of a text -/

/-- A line is characters other than line breaks, and a line break behind them. -/
def IsLine (characters : List Char) : Prop :=
  ∃ inner, '\n' ∉ inner ∧ characters = inner ++ ['\n']

/-- The lines of a text.  A last line without a line break is given one. -/
structure IsLines (text : List Char) (lines : List (List Char)) : Prop where
  isLine : ∀ characters ∈ lines, IsLine characters
  joined : lines.flatten = text ∨
    text ≠ [] ∧ text.getLast? ≠ some '\n' ∧ lines.flatten = text ++ ['\n']

theorem IsLine.cons {character : Char} {characters : List Char} (isLine : IsLine characters)
    (notBreak : character ≠ '\n') : IsLine (character :: characters) := by
  obtain ⟨inner, noBreak, rfl⟩ := isLine
  refine ⟨character :: inner, ?_, rfl⟩
  intro isBreak
  cases List.mem_cons.mp isBreak with
  | inl isFirst => exact notBreak isFirst.symm
  | inr inLater => exact noBreak inLater

/-- The line break of a line is its last character. -/
theorem IsLine.eq_of_getElem? {characters : List Char} (isLine : IsLine characters) {column : Nat}
    (isBreak : characters[column]? = some '\n') : column + 1 = characters.length := by
  obtain ⟨inner, noBreak, rfl⟩ := isLine
  rw [List.length_append, List.length_singleton]
  by_cases isInner : column < inner.length
  · rw [List.getElem?_append_left isInner] at isBreak
    exact absurd (List.mem_of_getElem? isBreak) noBreak
  · obtain ⟨inRange, _⟩ := List.getElem?_eq_some_iff.mp isBreak
    rw [List.length_append, List.length_singleton] at inRange
    omega

theorem isLine_of_mem_splitLines (text : List Char) :
    ∀ characters ∈ splitLines text, IsLine characters := by
  have emptyLine : IsLine ['\n'] := ⟨[], List.not_mem_nil, rfl⟩
  fun_induction splitLines text with
  | case1 =>
      intro characters isLine
      cases isLine
  | case2 later inductionHypothesis =>
      exact List.forall_mem_cons.mpr ⟨emptyLine, inductionHypothesis⟩
  | case3 character later notBreak _ _ =>
      exact List.forall_mem_singleton.mpr (emptyLine.cons notBreak)
  | case4 character later notBreak line lines split_eq inductionHypothesis =>
      rw [split_eq] at inductionHypothesis
      obtain ⟨isLine, areLines⟩ := List.forall_mem_cons.mp inductionHypothesis
      exact List.forall_mem_cons.mpr ⟨isLine.cons notBreak, areLines⟩

theorem flatten_splitLines (text : List Char) :
    (splitLines text).flatten = text ∨
      text ≠ [] ∧ text.getLast? ≠ some '\n' ∧ (splitLines text).flatten = text ++ ['\n'] := by
  fun_induction splitLines text with
  | case1 => exact .inl rfl
  | case2 later inductionHypothesis =>
      rcases inductionHypothesis with joined | ⟨notEmpty, notBroken, joined⟩
      · exact .inl (congrArg ('\n' :: ·) joined)
      · refine .inr ⟨List.cons_ne_nil _ _, ?_, congrArg ('\n' :: ·) joined⟩
        rwa [List.getLast?_cons_of_ne_nil notEmpty]
  | case3 character later notBreak split_eq inductionHypothesis =>
      rw [split_eq] at inductionHypothesis
      rcases inductionHypothesis with joined | ⟨_, _, joined⟩
      · subst joined
        refine .inr ⟨List.cons_ne_nil _ _, ?_, rfl⟩
        intro isBreak
        exact notBreak (Option.some.inj isBreak)
      · exact absurd joined.symm (List.append_ne_nil_of_right_ne_nil _ (List.cons_ne_nil _ _))
  | case4 character later notBreak line lines split_eq inductionHypothesis =>
      rw [split_eq] at inductionHypothesis
      rcases inductionHypothesis with joined | ⟨notEmpty, notBroken, joined⟩
      · exact .inl (congrArg (character :: ·) joined)
      · refine .inr ⟨List.cons_ne_nil _ _, ?_, congrArg (character :: ·) joined⟩
        rwa [List.getLast?_cons_of_ne_nil notEmpty]

theorem isLines_splitLines (text : List Char) : IsLines text (splitLines text) :=
  ⟨isLine_of_mem_splitLines text, flatten_splitLines text⟩

/-! ## Where there is no lexeme -/

theorem quotedExtent_append {quote : Char} {body : List Char} (behind : List Char)
    (isBody : QuotedBody quote body) (notBackslash : quote ≠ '\\') :
    quotedExtent quote (body ++ quote :: behind) = .closed (body.length + 1) := by
  induction isBody with
  | nil =>
      rw [List.nil_append, quotedExtent.eq_def]
      simp only [if_true, List.length_nil]
  | plain notQuote notEscape notBreak _ inductionHypothesis =>
      rw [List.cons_append, quotedExtent.eq_def]
      simp only [if_neg notQuote, if_neg notEscape, if_neg notBreak, inductionHypothesis,
        QuotedExtent.after, List.length_cons, Nat.add_comm 1]
  | escaped _ inductionHypothesis =>
      rw [List.cons_append, List.cons_append, quotedExtent.eq_def]
      simp only [if_neg (Ne.symm notBackslash), if_true, inductionHypothesis, QuotedExtent.after,
        List.length_cons, Nat.add_comm 2]

theorem ne_backslash_of_isQuote {quote : Char} (opens : isQuote quote = true) : quote ≠ '\\' := by
  rintro rfl
  exact absurd opens (by decide)

/-- What stands at the place of a fault: a character with which no lexeme begins, or a
quote that is not closed. -/
inductive IsFault : Malformation → List Char → Prop
  | unexpectedCharacter {first : Char} {later : List Char} :
      (∀ kind more, ¬HasForm kind (first :: more)) →
      IsFault (.unexpectedCharacter first) (first :: later)
  | unterminatedString {quote : Char} {later : List Char} :
      isQuote quote = true →
      (∀ body behind, QuotedBody quote body → later ≠ body ++ quote :: behind) →
      IsFault .unterminatedString (quote :: later)

theorem isFault_of_lexemeAt {first : Char} {later : List Char} {reason : Malformation}
    {length : Nat} (isError : lexemeAt first later = .error (reason, length))
    (notBreak : first ≠ '\n') : IsFault reason (first :: later) := by
  unfold lexemeAt at isError
  by_cases starts : isNameStart first = true
  · rw [if_pos starts] at isError
    cases isError
  · rw [if_neg starts] at isError
    by_cases opens : isQuote first = true
    · rw [if_pos opens] at isError
      cases extent_eq : quotedExtent first later with
      | closed length =>
          rw [extent_eq] at isError
          cases isError
      | unclosed length =>
          rw [extent_eq] at isError
          cases isError
          refine .unterminatedString opens ?_
          rintro body behind isBody rfl
          rw [quotedExtent_append behind isBody (ne_backslash_of_isQuote opens)] at extent_eq
          cases extent_eq
    · rw [if_neg opens] at isError
      by_cases isOperator : first ∈ operators
      · rw [if_pos isOperator] at isError
        cases isError
      · rw [if_neg isOperator] at isError
        cases isError
        refine .unexpectedCharacter ?_
        intro kind more hasForm
        cases hasForm with
        | name isStart _ => exact starts isStart
        | quoted isOpening _ => exact opens isOpening
        | operator isMember => exact isOperator isMember
        | newline => exact notBreak rfl

/-! ## Open brackets -/

/-- The number of open brackets behind a lexeme. -/
def bracketStep (depth : Nat) (lexeme : Lexeme) : Nat :=
  if lexeme.isOperator "(" || lexeme.isOperator "[" then depth + 1
  else if lexeme.isOperator ")" || lexeme.isOperator "]" then depth - 1
  else depth

/-- The number of open brackets behind lexemes.  A closing bracket without an opening one
does not count. -/
def bracketDepth (depth : Nat) (lexemes : List Lexeme) : Nat :=
  lexemes.foldl bracketStep depth

theorem bracketStep_of_kind {lexeme : Lexeme} (depth : Nat)
    (notOperator : lexeme.kind ≠ .operator) : bracketStep depth lexeme = depth := by
  simp only [bracketStep, isOperator_eq_false_of_kind notOperator, Bool.or_self,
    Bool.false_eq_true, if_false]

theorem depthAfter_of_ne {first : Char} (depth : Nat)
    (noBracket : first ≠ '(' ∧ first ≠ '[' ∧ first ≠ ')' ∧ first ≠ ']') :
    depthAfter depth first = depth := by
  obtain ⟨notOpening, notSquare, notClosing, notSquareClosing⟩ := noBracket
  rw [depthAfter, if_neg (not_or.mpr ⟨notOpening, notSquare⟩),
    if_neg (not_or.mpr ⟨notClosing, notSquareClosing⟩)]

/-- The first character of a lexeme tells what it does to the open brackets. -/
theorem bracketStep_eq_depthAfter {kind : LexemeKind} {first : Char} {later : List Char}
    (hasForm : HasForm kind (first :: later)) (notNewline : kind ≠ .newline) (depth : Nat)
    (location : Location) :
    bracketStep depth ⟨kind, String.ofList (first :: later), location⟩ =
      depthAfter depth first := by
  cases hasForm with
  | name isStart _ =>
      rw [bracketStep_of_kind depth (fun isOperator => by cases isOperator), depthAfter_of_ne]
      refine ⟨?_, ?_, ?_, ?_⟩ <;> rintro rfl <;> exact absurd isStart (by decide)
  | quoted opens _ =>
      rw [bracketStep_of_kind depth (fun isOperator => by cases isOperator), depthAfter_of_ne]
      refine ⟨?_, ?_, ?_, ?_⟩ <;> rintro rfl <;> exact absurd opens (by decide)
  | operator isOperator =>
      simp only [operators, List.mem_cons, List.not_mem_nil, or_false] at isOperator
      rcases isOperator with rfl | rfl | rfl | rfl | rfl | rfl | rfl | rfl <;> rfl
  | newline => exact absurd rfl notNewline

/-! ## The lexemes of one line -/

/-- A lexeme is what stands in the stretch of a line at which it points. -/
structure IsStretch (characters : List Char) (lexeme : Lexeme) : Prop where
  lineText : lexeme.location.text = String.ofList characters
  notEmpty : lexeme.location.startColumn < lexeme.location.endColumn
  inLine : lexeme.location.endColumn ≤ characters.length
  spelled : lexeme.text.toList =
    (characters.drop lexeme.location.startColumn).take
      (lexeme.location.endColumn - lexeme.location.startColumn)
  hasForm : HasForm lexeme.kind lexeme.text.toList
  endsLine : lexeme.kind = .newline → lexeme.location.endColumn = characters.length

theorem HasForm.getLast?_ne {kind : LexemeKind} {text : List Char} (hasForm : HasForm kind text)
    (notNewline : kind ≠ .newline) : text.getLast? ≠ some '\n' := by
  cases hasForm with
  | name isStart areParts =>
      rename_i first later
      cases later with
      | nil =>
          intro isBreak
          cases isBreak
          exact absurd isStart (by decide)
      | cons second others =>
          rw [List.getLast?_cons_of_ne_nil (List.cons_ne_nil _ _)]
          intro isBreak
          exact absurd (areParts '\n' (List.mem_of_getLast? isBreak)) (by decide)
  | quoted opens _ =>
      rw [List.getLast?_concat]
      intro isBreak
      cases isBreak
      exact absurd opens (by decide)
  | operator isOperator =>
      intro isBreak
      cases isBreak
      exact absurd isOperator (by decide)
  | newline => exact absurd rfl notNewline

/-- Only a line end reaches the end of its line. -/
theorem IsStretch.endColumn_lt {characters : List Char} {lexeme : Lexeme}
    (isStretch : IsStretch characters lexeme) (isLine : IsLine characters)
    (notNewline : lexeme.kind ≠ .newline) :
    lexeme.location.endColumn < characters.length := by
  apply Nat.lt_of_not_le
  intro beyond
  have notEmpty := isStretch.notEmpty
  have inLine := isStretch.inLine
  have spelled := isStretch.spelled
  rw [List.take_of_length_le (by rw [List.length_drop]; omega)] at spelled
  apply isStretch.hasForm.getLast?_ne notNewline
  obtain ⟨inner, _, rfl⟩ := isLine
  rw [spelled, List.getLast?_drop, if_neg (by omega), List.getLast?_concat]

/-- Lexemes follow each other on a line between two columns, with blank characters
between them. -/
structure Segments (line : Line) (start stop : Nat) (lexemes : List Lexeme) : Prop where
  le : start ≤ stop
  stretch : ∀ lexeme ∈ lexemes, lexeme.location.line = line.number ∧
    lexeme.kind ≠ .newline ∧ IsStretch line.characters lexeme
  between : ∀ lexeme ∈ lexemes,
    start ≤ lexeme.location.startColumn ∧ lexeme.location.endColumn ≤ stop
  ordered : lexemes.Pairwise fun earlier later =>
    earlier.location.endColumn ≤ later.location.startColumn
  covered : ∀ column character, start ≤ column → column < stop →
    line.characters[column]? = some character →
    isBlank character = true ∨ ∃ lexeme ∈ lexemes, lexeme.location.Covers column

namespace Segments

variable {line : Line} {start stop : Nat} {lexemes : List Lexeme}

theorem nil (line : Line) (start : Nat) : Segments line start start [] where
  le := Nat.le_refl start
  stretch := by
    intro lexeme isLexeme
    cases isLexeme
  between := by
    intro lexeme isLexeme
    cases isLexeme
  ordered := .nil
  covered := by
    intro column character fromStart toStop
    omega

theorem blank {character : Char} (isFirst : line.characters[start]? = some character)
    (isBlank : isBlank character = true) (segments : Segments line (start + 1) stop lexemes) :
    Segments line start stop lexemes where
  le := Nat.le_of_succ_le segments.le
  stretch := segments.stretch
  between := by
    intro lexeme isLexeme
    obtain ⟨fromStart, toStop⟩ := segments.between lexeme isLexeme
    exact ⟨Nat.le_of_succ_le fromStart, toStop⟩
  ordered := segments.ordered
  covered := by
    intro column other fromStart toStop isOther
    by_cases atStart : column = start
    · subst atStart
      rw [isFirst] at isOther
      exact .inl (Option.some.inj isOther ▸ isBlank)
    · exact segments.covered column other (by omega) toStop isOther

theorem cons {lexeme : Lexeme} {middle : Nat} (lineNumber : lexeme.location.line = line.number)
    (notNewline : lexeme.kind ≠ .newline) (isStretch : IsStretch line.characters lexeme)
    (fromStart : lexeme.location.startColumn = start)
    (toMiddle : lexeme.location.endColumn = middle)
    (segments : Segments line middle stop lexemes) :
    Segments line start stop (lexeme :: lexemes) where
  le := by
    have notEmpty := isStretch.notEmpty
    have le := segments.le
    omega
  stretch := List.forall_mem_cons.mpr ⟨⟨lineNumber, notNewline, isStretch⟩, segments.stretch⟩
  between := by
    have notEmpty := isStretch.notEmpty
    have le := segments.le
    refine List.forall_mem_cons.mpr ⟨⟨by omega, by omega⟩, ?_⟩
    intro other isOther
    obtain ⟨fromMiddle, toStop⟩ := segments.between other isOther
    exact ⟨by omega, toStop⟩
  ordered := by
    refine List.pairwise_cons.mpr ⟨?_, segments.ordered⟩
    intro other isOther
    obtain ⟨fromMiddle, _⟩ := segments.between other isOther
    omega
  covered := by
    intro column character isBehind toStop isCharacter
    by_cases inFirst : column < middle
    · exact .inr ⟨lexeme, .head _, by omega, by omega⟩
    · rcases segments.covered column character (by omega) toStop isCharacter with
        isBlank | ⟨other, isOther, covers⟩
      · exact .inl isBlank
      · exact .inr ⟨other, .tail _ isOther, covers⟩

end Segments

section Line

variable {line : Line} {depth column : Nat} {characters : List Char}

/-- The lexeme that begins at a column is a stretch of the line. -/
theorem isStretch_of_lexemeAt {first : Char} {later : List Char} {kind : LexemeKind} {more : Nat}
    (isLexeme : lexemeAt first later = .ok (kind, more))
    (remaining : line.characters.drop column = first :: later) :
    IsStretch line.characters
      { kind, text := String.ofList (first :: later.take more),
        location := line.locate column (column + 1 + more) } := by
  obtain ⟨inRange, hasForm, notNewline⟩ := lexemeAt_spec isLexeme
  have remainingLength := congrArg List.length remaining
  rw [List.length_drop, List.length_cons] at remainingLength
  refine ⟨rfl, ?_, ?_, ?_, ?_, ?_⟩
  · simp only [Line.locate]
    omega
  · simp only [Line.locate]
    omega
  · have width : column + 1 + more - column = more + 1 := by omega
    simp only [Line.locate, String.toList_ofList, remaining, width, List.take_succ_cons]
  · rw [String.toList_ofList]
    exact hasForm
  · exact fun isNewline => absurd isNewline notNewline

theorem getElem?_of_drop {first : Char} {later : List Char}
    (remaining : characters.drop column = first :: later) :
    characters[column]? = some first := by
  have isFirst := congrArg (·[0]?) remaining
  simpa only [List.getElem?_drop, Nat.add_zero, List.getElem?_cons_zero] using isFirst

theorem drop_add_of_drop {first : Char} {later : List Char} (more : Nat)
    (remaining : characters.drop column = first :: later) :
    characters.drop (column + 1 + more) = later.drop more := by
  rw [Nat.add_assoc, ← List.drop_drop, remaining, Nat.add_comm, List.drop_succ_cons]

/-- Scanning of a line stops at its line break, at a comment or where nothing is left. -/
def StopsAt (characters : List Char) (stop : Nat) : Prop :=
  characters.length ≤ stop ∨ characters[stop]? = some '\n' ∨ characters[stop]? = some '#'

theorem segments_of_scanLine {lexemes : List Lexeme} {finalDepth : Nat}
    (scanned : scanLine line depth column characters = .ok (lexemes, finalDepth))
    (remaining : line.characters.drop column = characters) :
    finalDepth = bracketDepth depth lexemes ∧
      ∃ stop, Segments line column stop lexemes ∧ StopsAt line.characters stop := by
  fun_induction scanLine line depth column characters generalizing lexemes finalDepth with
  | case1 depth column =>
      cases scanned
      exact ⟨rfl, column, .nil line column, .inl (List.drop_eq_nil_iff.mp remaining)⟩
  | case2 depth column first later isEnd =>
      cases scanned
      refine ⟨rfl, column, .nil line column, .inr ?_⟩
      simp only [getElem?_of_drop remaining]
      exact isEnd.imp (congrArg some) (congrArg some)
  | case3 depth column first later _ isBlank inductionHypothesis =>
      obtain ⟨depth_eq, stop, segments, atStop⟩ :=
        inductionHypothesis scanned (drop_add_of_drop 0 remaining)
      exact ⟨depth_eq, stop, segments.blank (getElem?_of_drop remaining) isBlank, atStop⟩
  | case4 | case5 => cases scanned
  | case6 depth column first later _ _ kind more isLexeme others _ othersScanned lexeme =>
      rename_i inductionHypothesis
      cases scanned
      obtain ⟨_, hasForm, notNewline⟩ := lexemeAt_spec isLexeme
      obtain ⟨depth_eq, stop, segments, atStop⟩ :=
        inductionHypothesis othersScanned (drop_add_of_drop more remaining)
      refine ⟨?_, stop, ?_, atStop⟩
      · rw [depth_eq, ← bracketStep_eq_depthAfter hasForm notNewline depth lexeme.location]
        rfl
      · exact .cons rfl notNewline (isStretch_of_lexemeAt isLexeme remaining) rfl rfl segments

/-- A fault lies at a column of a line, up to which there are lexemes and blank characters. -/
structure FaultAt (line : Line) (start : Nat) (reason : Malformation) (location : Location) :
    Prop where
  lineNumber : location.line = line.number
  lineText : location.text = String.ofList line.characters
  notBlank : ∀ character, line.characters[location.startColumn]? = some character →
    isBlank character = false ∧ character ≠ '#'
  isFault : IsFault reason (line.characters.drop location.startColumn)
  reached : ∃ lexemes, Segments line start location.startColumn lexemes

theorem faultAt_of_scanLine {error : GrammarError}
    (failed : scanLine line depth column characters = .error error)
    (remaining : line.characters.drop column = characters) :
    ∃ reason location, error = .placed (.malformed reason) location ∧
      FaultAt line column reason location := by
  fun_induction scanLine line depth column characters with
  | case1 | case2 => cases failed
  | case3 depth column first later _ isBlank inductionHypothesis =>
      obtain ⟨reason, location, error_eq, fault⟩ :=
        inductionHypothesis failed (drop_add_of_drop 0 remaining)
      obtain ⟨lexemes, segments⟩ := fault.reached
      exact ⟨reason, location, error_eq,
        { fault with reached := ⟨lexemes, segments.blank (getElem?_of_drop remaining) isBlank⟩ }⟩
  | case4 depth column first later notEnd notBlank reason length isError =>
      cases failed
      obtain ⟨notBreak, notComment⟩ := not_or.mp notEnd
      refine ⟨reason, line.locate column (column + length), rfl, rfl, rfl, ?_, ?_, ?_⟩
      · intro character isCharacter
        have same := Option.some.inj ((getElem?_of_drop remaining).symm.trans isCharacter)
        exact same ▸ ⟨Bool.eq_false_iff.mpr notBlank, notComment⟩
      · simp only [Line.locate, remaining]
        exact isFault_of_lexemeAt isError notBreak
      · exact ⟨[], .nil line column⟩
  | case5 depth column first later _ _ kind more isLexeme error othersFailed inductionHypothesis =>
      cases failed
      obtain ⟨_, _, notNewline⟩ := lexemeAt_spec isLexeme
      obtain ⟨reason, location, error_eq, fault⟩ :=
        inductionHypothesis othersFailed (drop_add_of_drop more remaining)
      obtain ⟨lexemes, segments⟩ := fault.reached
      exact ⟨reason, location, error_eq,
        { fault with
          reached := ⟨_, segments.cons rfl notNewline (isStretch_of_lexemeAt isLexeme remaining)
            rfl rfl⟩ }⟩
  | case6 => cases failed

end Line

end GrammarText

end RuleMachine
