import RuleMachine.Proofs.LexemePlaces
import RuleMachine.Proofs.PlacelessReading

/-!
# The layout of a line

A line is lexemes with blank characters before, between and behind them, and perhaps a
comment.  Which lexemes they are does not depend on where they stand: a scanner finds
them at whatever column they are laid out (`exists_scanLine_of_spells`), and what it finds
is laid out in this way (`spells_of_scanLine`).  So a line can be cut at a blank
character, and blank characters and comments can be put behind it.
-/

namespace RuleMachine

/-! ## Blank characters do not go on with a name -/

namespace Text

/-- No code point lies in a range of both lists. -/
def apartRanges (first second : List (Nat × Nat)) : Bool :=
  first.all fun one => second.all fun other =>
    decide (one.2 < other.1) || decide (other.2 < one.1)

theorem exists_range_of_coversCode {code : Nat} {ranges : List (Nat × Nat)}
    (covered : CharSet.coversCode code ranges = true) :
    ∃ range ∈ ranges, range.1 ≤ code ∧ code ≤ range.2 := by
  fun_induction CharSet.coversCode code ranges with
  | case1 | case2 => cases covered
  | case3 low high later notBelow notAbove =>
      exact ⟨(low, high), .head _, Nat.le_of_not_lt notBelow, notAbove⟩
  | case4 low high later _ _ inductionHypothesis =>
      obtain ⟨range, isRange, within⟩ := inductionHypothesis covered
      exact ⟨range, .tail _ isRange, within⟩

theorem coversCode_eq_false_of_apart {code : Nat} {first second : List (Nat × Nat)}
    (apart : apartRanges first second = true) (covered : CharSet.coversCode code first = true) :
    CharSet.coversCode code second = false := by
  apply Bool.eq_false_iff.mpr
  intro alsoCovered
  obtain ⟨one, isOne, fromOne, toOne⟩ := exists_range_of_coversCode covered
  obtain ⟨other, isOther, fromOther, toOther⟩ := exists_range_of_coversCode alsoCovered
  have separate := List.all_eq_true.mp (List.all_eq_true.mp apart one isOne) other isOther
  simp only [Bool.or_eq_true, decide_eq_true_eq] at separate
  omega

end Text

namespace GrammarText

open RuleMachine.Text

theorem isNamePart_of_isBlank {character : Char} (blank : isBlank character = true) :
    isNamePart character = false := by
  have notAlphabetic : isAlphabetic character = false :=
    coversCode_eq_false_of_apart (by decide +kernel) blank
  have notNumeric : isNumeric character = false :=
    coversCode_eq_false_of_apart (by decide +kernel) blank
  have notLine : (character == '_') = false := by
    apply beq_eq_false_iff_ne.mpr
    rintro rfl
    exact absurd blank (by decide)
  rw [isNamePart, notAlphabetic, notNumeric, notLine]
  rfl

theorem isNamePart_of_isNameStart {character : Char} (starts : isNameStart character = true) :
    isNamePart character = true := by
  unfold isNameStart at starts
  unfold isNamePart
  rw [Bool.or_right_comm, starts, Bool.true_or]

/-! ## Lexemes by their form -/

/-- A name cannot go on with a text. -/
def EndsName (text : List Char) : Prop :=
  ∀ first ∈ text.head?, isNamePart first = false

theorem endsName_nil : EndsName [] :=
  nofun

theorem endsName_cons {first : Char} {later : List Char} (notPart : isNamePart first = false) :
    EndsName (first :: later) := by
  intro character isFirst
  cases isFirst
  exact notPart

theorem EndsName.append {front behind : List Char} (frontEnds : EndsName front)
    (behindEnds : EndsName behind) : EndsName (front ++ behind) := by
  cases front with
  | nil => exact behindEnds
  | cons first later => exact endsName_cons (frontEnds first rfl)

theorem EndsName.of_append {front behind : List Char} (ends : EndsName (front ++ behind)) :
    EndsName front := by
  cases front with
  | nil => exact endsName_nil
  | cons first later => exact endsName_cons (ends first rfl)

theorem takeWhile_isNamePart_append {body behind : List Char}
    (areParts : ∀ character ∈ body, isNamePart character = true) (ends : EndsName behind) :
    (body ++ behind).takeWhile isNamePart = body := by
  rw [List.takeWhile_append_of_pos areParts]
  cases behind with
  | nil => rw [List.takeWhile_nil, List.append_nil]
  | cons first later =>
      rw [List.takeWhile_cons_of_neg (Bool.eq_false_iff.mp (ends first rfl)), List.append_nil]

/-- Behind the longest beginning with name parts there is no further part. -/
theorem endsName_drop_takeWhile (text : List Char) :
    EndsName (text.drop (text.takeWhile isNamePart).length) := by
  induction text with
  | nil => exact endsName_nil
  | cons first later inductionHypothesis =>
      by_cases isPart : isNamePart first = true
      · rw [List.takeWhile_cons_of_pos isPart, List.length_cons, List.drop_succ_cons]
        exact inductionHypothesis
      · rw [List.takeWhile_cons_of_neg isPart]
        exact endsName_cons (Bool.eq_false_iff.mpr isPart)

/-- A lexeme that begins with a character, and the rest of the line behind it. -/
structure IsCut (kind : LexemeKind) (first : Char) (body behind : List Char) : Prop where
  hasForm : HasForm kind (first :: body)
  notNewline : kind ≠ .newline
  ends : kind = .name → EndsName behind

theorem IsCut.append {kind : LexemeKind} {first : Char} {body front behind : List Char}
    (isCut : IsCut kind first body front) (ends : EndsName behind) :
    IsCut kind first body (front ++ behind) :=
  ⟨isCut.hasForm, isCut.notNewline, fun isName => (isCut.ends isName).append ends⟩

theorem IsCut.of_append {kind : LexemeKind} {first : Char} {body front behind : List Char}
    (isCut : IsCut kind first body (front ++ behind)) : IsCut kind first body front :=
  ⟨isCut.hasForm, isCut.notNewline, fun isName => (isCut.ends isName).of_append⟩

theorem isCut_of_lexemeAt {first : Char} {later : List Char} {kind : LexemeKind} {more : Nat}
    (isLexeme : lexemeAt first later = .ok (kind, more)) :
    IsCut kind first (later.take more) (later.drop more) := by
  obtain ⟨_, hasForm, notNewline⟩ := lexemeAt_spec isLexeme
  refine ⟨hasForm, notNewline, ?_⟩
  rintro rfl
  cases hasForm with
  | name starts _ =>
      rw [lexemeAt, if_pos starts] at isLexeme
      cases isLexeme
      exact endsName_drop_takeWhile later

theorem lexemeAt_of_isCut {kind : LexemeKind} {first : Char} {body behind : List Char}
    (isCut : IsCut kind first body behind) :
    lexemeAt first (body ++ behind) = .ok (kind, body.length) := by
  obtain ⟨hasForm, notNewline, ends⟩ := isCut
  cases hasForm with
  | name starts areParts =>
      rw [lexemeAt, if_pos starts, takeWhile_isNamePart_append areParts (ends rfl)]
  | quoted opens isBody =>
      rename_i inner
      have notName : ¬isNameStart first = true := by
        intro starts
        unfold isQuote at opens
        simp only [Bool.or_eq_true, beq_iff_eq] at opens
        rcases opens with rfl | rfl <;> exact absurd starts (by decide)
      have extent := quotedExtent_append behind isBody (ne_backslash_of_isQuote opens)
      have whole : inner.append [first] ++ behind = inner ++ first :: behind :=
        List.append_cons inner first behind |>.symm
      have length_eq : (inner.append [first]).length = inner.length + 1 :=
        List.length_append
      rw [lexemeAt, if_neg notName, if_pos opens, whole, extent, length_eq]
  | operator isOperator =>
      simp only [operators, List.mem_cons, List.not_mem_nil, or_false] at isOperator
      rcases isOperator with rfl | rfl | rfl | rfl | rfl | rfl | rfl | rfl <;> rfl
  | newline => exact absurd rfl notNewline

/-- A lexeme begins with neither a blank character nor a comment mark. -/
theorem IsCut.first_spec {kind : LexemeKind} {first : Char} {body behind : List Char}
    (isCut : IsCut kind first body behind) : isBlank first = false ∧ first ≠ '#' := by
  obtain ⟨hasForm, notNewline, _⟩ := isCut
  cases hasForm with
  | name starts _ =>
      have isPart := isNamePart_of_isNameStart starts
      constructor
      · apply Bool.eq_false_iff.mpr
        intro blank
        rw [isNamePart_of_isBlank blank] at isPart
        cases isPart
      · rintro rfl
        exact absurd isPart (by decide)
  | quoted opens _ =>
      unfold isQuote at opens
      simp only [Bool.or_eq_true, beq_iff_eq] at opens
      rcases opens with rfl | rfl <;> exact ⟨by decide, by decide⟩
  | operator isOperator =>
      simp only [operators, List.mem_cons, List.not_mem_nil, or_false] at isOperator
      rcases isOperator with rfl | rfl | rfl | rfl | rfl | rfl | rfl | rfl <;>
        exact ⟨by decide, by decide⟩
  | newline => exact absurd rfl notNewline

/-! ## Lexemes laid out on a line -/

/-- A lexeme with the given spelling, at no place. -/
def spelled (kind : LexemeKind) (characters : List Char) : Lexeme where
  kind
  text := String.ofList characters
  location := .nowhere

/-- Characters are lexemes and blank characters, one after the other.  The numbers count
the open brackets before and behind them. -/
inductive LaidOut : Nat → List Char → List Lexeme → Nat → Prop
  | nil (depth : Nat) : LaidOut depth [] [] depth
  | blank {depth final : Nat} {character : Char} {later : List Char} {lexemes : List Lexeme} :
      isBlank character = true → character ≠ '\n' → LaidOut depth later lexemes final →
      LaidOut depth (character :: later) lexemes final
  | lexeme {depth final : Nat} {kind : LexemeKind} {first : Char} {body later : List Char}
      {lexemes : List Lexeme} :
      IsCut kind first body later → LaidOut (depthAfter depth first) later lexemes final →
      LaidOut depth (first :: body ++ later) (spelled kind (first :: body) :: lexemes) final

namespace LaidOut

variable {depth middle final : Nat} {front behind : List Char} {lexemes others : List Lexeme}

theorem append (isFront : LaidOut depth front lexemes middle)
    (isBehind : LaidOut middle behind others final) (ends : EndsName behind) :
    LaidOut depth (front ++ behind) (lexemes ++ others) final := by
  induction isFront with
  | nil depth => exact isBehind
  | blank isBlank notBreak _ inductionHypothesis =>
      exact .blank isBlank notBreak (inductionHypothesis isBehind)
  | lexeme isCut _ inductionHypothesis =>
      rw [List.append_assoc]
      exact .lexeme (isCut.append ends) (inductionHypothesis isBehind)

theorem of_blanks (depth : Nat) {blanks : List Char}
    (areBlank : ∀ character ∈ blanks, isBlank character = true) (noBreak : '\n' ∉ blanks) :
    LaidOut depth blanks [] depth := by
  induction blanks with
  | nil => exact .nil depth
  | cons character later inductionHypothesis =>
      obtain ⟨isBlank, laterAreBlank⟩ := List.forall_mem_cons.mp areBlank
      obtain ⟨notBreak, laterNoBreak⟩ := not_or.mp (mt List.mem_cons.mpr noBreak)
      exact .blank isBlank (Ne.symm notBreak) (inductionHypothesis laterAreBlank laterNoBreak)

theorem bracketDepth_eq (laidOut : LaidOut depth front lexemes final) :
    final = bracketDepth depth lexemes := by
  induction laidOut with
  | nil depth => rfl
  | blank _ _ _ inductionHypothesis => exact inductionHypothesis
  | lexeme isCut _ inductionHypothesis =>
      rw [inductionHypothesis,
        ← bracketStep_eq_depthAfter isCut.hasForm isCut.notNewline _ .nowhere]
      rfl

/-- No lexeme and no blank character between lexemes ends with a line break. -/
theorem getLast?_ne (laidOut : LaidOut depth front lexemes final) :
    front.getLast? ≠ some '\n' := by
  induction laidOut with
  | nil depth => nofun
  | @blank _ _ character later _ _ notBreak _ inductionHypothesis =>
      cases later with
      | nil => exact fun isBreak => notBreak (Option.some.inj isBreak)
      | cons second others =>
          rwa [List.getLast?_cons_of_ne_nil (List.cons_ne_nil second others)]
  | @lexeme _ _ kind first body later _ isCut _ inductionHypothesis =>
      cases later with
      | nil =>
          rw [List.append_nil]
          exact isCut.hasForm.getLast?_ne isCut.notNewline
      | cons second others =>
          rwa [List.getLast?_append, List.getLast?_cons, Option.some_or, ← List.getLast?_cons]

end LaidOut

/-! ## What a line spells -/

/-- Nothing behind a text belongs to the lexemes of its line. -/
def StopsLine (rest : List Char) : Prop :=
  ∀ first ∈ rest.head?, first = '\n' ∨ first = '#'

theorem StopsLine.endsName {rest : List Char} (stops : StopsLine rest) : EndsName rest := by
  intro first isFirst
  rcases stops first isFirst with rfl | rfl <;> decide

/-- A line spells lexemes: they are laid out on it up to its line break or a comment. -/
def Spells (depth : Nat) (characters : List Char) (lexemes : List Lexeme) (final : Nat) : Prop :=
  ∃ inner rest, characters = inner ++ rest ∧ LaidOut depth inner lexemes final ∧ StopsLine rest

theorem spells_of_scanLine {line : Line} {depth column final : Nat} {characters : List Char}
    {lexemes : List Lexeme}
    (scanned : scanLine line depth column characters = .ok (lexemes, final)) :
    Spells depth characters (lexemes.map Lexeme.placeless) final := by
  fun_induction scanLine line depth column characters generalizing lexemes final with
  | case1 depth column =>
      cases scanned
      refine ⟨[], [], rfl, .nil depth, ?_⟩
      intro character isFirst
      cases isFirst
  | case2 depth column first later isEnd =>
      cases scanned
      refine ⟨[], first :: later, rfl, .nil depth, ?_⟩
      intro character isFirst
      cases isFirst
      exact isEnd
  | case3 depth column first later notEnd isBlank inductionHypothesis =>
      obtain ⟨inner, rest, rfl, laidOut, stops⟩ := inductionHypothesis scanned
      exact ⟨first :: inner, rest, rfl, .blank isBlank (not_or.mp notEnd).1 laidOut, stops⟩
  | case4 | case5 => cases scanned
  | case6 depth column first later _ _ kind more isLexeme others _ othersScanned lexeme =>
      rename_i inductionHypothesis
      cases scanned
      obtain ⟨inner, rest, behind_eq, laidOut, stops⟩ := inductionHypothesis othersScanned
      have isCut := isCut_of_lexemeAt isLexeme
      rw [behind_eq] at isCut
      refine ⟨first :: later.take more ++ inner, rest, ?_, .lexeme isCut.of_append laidOut, stops⟩
      rw [List.append_assoc, ← behind_eq, List.cons_append, List.take_append_drop]

theorem exists_scanLine_of_laidOut {depth final : Nat} {inner rest : List Char}
    {lexemes : List Lexeme} (laidOut : LaidOut depth inner lexemes final) (stops : StopsLine rest)
    (line : Line) (column : Nat) :
    ∃ found, scanLine line depth column (inner ++ rest) = .ok (found, final) ∧
      found.map Lexeme.placeless = lexemes := by
  induction laidOut generalizing column with
  | nil depth =>
      refine ⟨[], ?_, rfl⟩
      rw [List.nil_append, scanLine.eq_def]
      cases rest with
      | nil => rfl
      | cons first later => simp only [if_pos (stops first rfl)]
  | @blank _ _ character _ _ isBlank notBreak _ inductionHypothesis =>
      have notEnd : ¬(character = '\n' ∨ character = '#') := by
        rintro (rfl | rfl)
        · exact notBreak rfl
        · exact absurd isBlank (by decide)
      obtain ⟨found, scanned, same⟩ := inductionHypothesis (column + 1)
      refine ⟨found, ?_, same⟩
      rw [List.cons_append, scanLine.eq_def]
      simp only [if_neg notEnd, if_pos isBlank, scanned]
  | @lexeme _ _ kind first body later _ isCut _ inductionHypothesis =>
      obtain ⟨notBlank, notMark⟩ := isCut.first_spec
      have notEnd : ¬(first = '\n' ∨ first = '#') := by
        rintro (rfl | rfl)
        · exact absurd notBlank (by decide)
        · exact notMark rfl
      have isLexeme : lexemeAt first (body ++ (later ++ rest)) = .ok (kind, body.length) :=
        lexemeAt_of_isCut (isCut.append stops.endsName)
      obtain ⟨found, scanned, rfl⟩ := inductionHypothesis (column + 1 + body.length)
      let lexeme : Lexeme :=
        { kind
          text := String.ofList (first :: body)
          location := line.locate column (column + 1 + body.length) }
      refine ⟨lexeme :: found, ?_, rfl⟩
      rw [List.append_assoc, List.cons_append, scanLine.eq_def]
      simp only [if_neg notEnd, notBlank, Bool.false_eq_true, if_false, isLexeme, List.drop_left,
        scanned, List.take_left]
      rfl

theorem exists_scanLine_of_spells {depth final : Nat} {characters : List Char}
    {lexemes : List Lexeme} (isSpelled : Spells depth characters lexemes final) (line : Line) :
    ∃ found, scanLine line depth 0 characters = .ok (found, final) ∧
      found.map Lexeme.placeless = lexemes := by
  obtain ⟨inner, rest, rfl, laidOut, stops⟩ := isSpelled
  exact exists_scanLine_of_laidOut laidOut stops line 0

/-! ## Fillers -/

/-- Blank characters and perhaps a comment behind them, all on one line. -/
structure IsFiller (characters : List Char) : Prop where
  oneLine : '\n' ∉ characters
  split : ∃ blanks comment, characters = blanks ++ comment ∧
    (∀ character ∈ blanks, isBlank character = true) ∧
    ∀ first ∈ comment.head?, first = '#'

/-- Blank characters lead up to a comment or to the end of the line. -/
theorem IsFiller.exists_blanks {filler : List Char} (isFiller : IsFiller filler) (depth : Nat) :
    ∃ blanks rest, filler ++ ['\n'] = blanks ++ rest ∧ LaidOut depth blanks [] depth ∧
      EndsName blanks ∧ StopsLine rest := by
  obtain ⟨oneLine, blanks, comment, rfl, areBlank, isComment⟩ := isFiller
  have noBreak : '\n' ∉ blanks := fun isBreak => oneLine (List.mem_append_left comment isBreak)
  refine ⟨blanks, comment ++ ['\n'], List.append_assoc .., .of_blanks depth areBlank noBreak,
    ?_, ?_⟩
  · intro first isFirst
    exact isNamePart_of_isBlank (areBlank first (List.mem_of_head? isFirst))
  · intro first isFirst
    cases comment with
    | nil =>
        cases isFirst
        exact .inl rfl
    | cons mark later =>
        cases isFirst
        exact .inr (isComment first rfl)

/-- A line of blank characters, or with nothing but a comment, spells nothing. -/
theorem spells_filler {filler : List Char} (isFiller : IsFiller filler) (depth : Nat) :
    Spells depth (filler ++ ['\n']) [] depth := by
  obtain ⟨blanks, rest, split, laidOut, _, stops⟩ := isFiller.exists_blanks depth
  exact ⟨blanks, rest, split, laidOut, stops⟩

/-- The lexemes of a line lie before its line break.  What is left of the line is a
comment. -/
theorem Spells.exists_comment {depth final : Nat} {inner : List Char} {lexemes : List Lexeme}
    (isSpelled : Spells depth (inner ++ ['\n']) lexemes final) (noBreak : '\n' ∉ inner) :
    ∃ laid comment, inner = laid ++ comment ∧ LaidOut depth laid lexemes final ∧
      ∀ first ∈ comment.head?, first = '#' := by
  obtain ⟨laid, rest, whole, laidOut, stops⟩ := isSpelled
  rcases List.append_eq_append_iff.mp whole with ⟨more, rfl, lineEnd⟩ | ⟨more, rfl, rest_eq⟩
  · cases more with
    | nil =>
        rw [List.append_nil] at laidOut
        exact ⟨inner, [], (List.append_nil inner).symm, laidOut, nofun⟩
    | cons first others =>
        obtain ⟨rfl, others_eq⟩ := List.cons.inj lineEnd
        obtain ⟨rfl, -⟩ := List.append_eq_nil_iff.mp others_eq.symm
        exact absurd List.getLast?_concat laidOut.getLast?_ne
  · refine ⟨laid, more, rfl, laidOut, ?_⟩
    intro first isFirst
    cases more with
    | nil => cases isFirst
    | cons mark others =>
        cases isFirst
        rcases stops first (rest_eq ▸ rfl) with rfl | isMark
        · exact absurd (List.mem_append_right laid (.head others)) noBreak
        · exact isMark

/-- Blank characters or a comment at the end of a line do not change what it spells. -/
theorem Spells.append_filler {depth final : Nat} {inner filler : List Char}
    {lexemes : List Lexeme} (isSpelled : Spells depth (inner ++ ['\n']) lexemes final)
    (noBreak : '\n' ∉ inner) (isFiller : IsFiller filler) :
    Spells depth (inner ++ filler ++ ['\n']) lexemes final := by
  obtain ⟨laid, comment, rfl, laidOut, isComment⟩ := isSpelled.exists_comment noBreak
  rw [List.append_assoc]
  cases comment with
  | nil =>
      obtain ⟨blanks, rest, split, areBlank, ends, stops⟩ := isFiller.exists_blanks final
      have extended := laidOut.append areBlank ends
      rw [List.append_nil] at extended
      refine ⟨laid ++ blanks, rest, ?_, extended, stops⟩
      rw [List.append_nil, split, List.append_assoc]
  | cons mark others =>
      -- There is a comment already, and it goes on.
      refine ⟨laid, mark :: others ++ (filler ++ ['\n']), List.append_assoc .., laidOut, ?_⟩
      intro first isFirst
      cases isFirst
      exact .inr (isComment mark rfl)

/-! ## Cutting a line -/

/-- The lexemes of a line from a column on are parted by the character behind `front`: some
are laid out before it, and what stands behind it spells the others. -/
def IsParted (depth column : Nat) (front back : List Char) (lexemes : List Lexeme)
    (final : Nat) : Prop :=
  ∃ earlier later middle, lexemes = earlier ++ later ∧
    (∀ lexeme ∈ earlier, lexeme.location.endColumn ≤ column + front.length) ∧
    (∀ lexeme ∈ later, column + front.length < lexeme.location.endColumn) ∧
    LaidOut depth front (earlier.map Lexeme.placeless) middle ∧
    Spells middle back (later.map Lexeme.placeless) final

section Cut

variable {line : Line} {depth column final : Nat} {front back : List Char}
  {lexemes : List Lexeme}

theorem IsParted.cons_blank {character : Char}
    (parted : IsParted depth (column + 1) front back lexemes final)
    (isBlank : isBlank character = true) (notBreak : character ≠ '\n') :
    IsParted depth column (character :: front) back lexemes final := by
  obtain ⟨earlier, later, middle, joined, before, beyond, laidOut, isSpelled⟩ := parted
  have place_eq : column + (character :: front).length = column + 1 + front.length := by
    rw [List.length_cons]
    omega
  rw [← place_eq] at before beyond
  exact ⟨earlier, later, middle, joined, before, beyond, .blank isBlank notBreak laidOut,
    isSpelled⟩

theorem IsParted.cons_lexeme {kind : LexemeKind} {first : Char} {body : List Char}
    (parted : IsParted (depthAfter depth first) (column + 1 + body.length) front back lexemes final)
    (isCut : IsCut kind first body front) :
    IsParted depth column (first :: body ++ front) back
      (⟨kind, String.ofList (first :: body), line.locate column (column + 1 + body.length)⟩ ::
        lexemes) final := by
  obtain ⟨earlier, later, middle, rfl, before, beyond, laidOut, isSpelled⟩ := parted
  have place_eq :
      column + (first :: body ++ front).length = column + 1 + body.length + front.length := by
    rw [List.length_append, List.length_cons]
    omega
  rw [← place_eq] at before beyond
  refine ⟨_ :: earlier, later, middle, rfl, List.forall_mem_cons.mpr ⟨?_, before⟩, beyond,
    .lexeme isCut laidOut, isSpelled⟩
  rw [place_eq]
  exact Nat.le_add_right _ _

/-- A character at which a line can be cut lies neither in a lexeme nor in a comment. -/
structure IsGapAt (line : Line) (column place : Nat) (lexemes : List Lexeme) : Prop where
  uncovered : ∀ lexeme ∈ lexemes, ¬lexeme.location.Covers place
  noComment : ∀ mark, column ≤ mark → mark ≤ place → line.characters[mark]? = some '#' →
    ∃ lexeme ∈ lexemes, mark < lexeme.location.endColumn

theorem IsGapAt.mono {further place : Nat} (gap : IsGapAt line column place lexemes)
    (isFurther : column ≤ further) : IsGapAt line further place lexemes :=
  ⟨gap.uncovered, fun mark fromColumn => gap.noComment mark (Nat.le_trans isFurther fromColumn)⟩

theorem IsGapAt.tail {place : Nat} {lexeme : Lexeme}
    (gap : IsGapAt line column place (lexeme :: lexemes))
    (isFurther : column ≤ lexeme.location.endColumn) :
    IsGapAt line lexeme.location.endColumn place lexemes := by
  refine ⟨fun other isOther => gap.uncovered other (.tail _ isOther), ?_⟩
  intro mark fromColumn toPlace isMark
  obtain ⟨other, isOther, reaches⟩ :=
    gap.noComment mark (Nat.le_trans isFurther fromColumn) toPlace isMark
  cases isOther with
  | head => exact absurd reaches (Nat.not_lt_of_le fromColumn)
  | tail _ isOther => exact ⟨other, isOther, reaches⟩

theorem isParted_of_scanLine {characters : List Char} {blank : Char}
    (scanned : scanLine line depth column characters = .ok (lexemes, final))
    (remaining : line.characters.drop column = characters) (isLine : IsLine line.characters)
    (whole : characters = front ++ blank :: back) (blank_spec : isBlank blank = true)
    (notBreak : blank ≠ '\n') (gap : IsGapAt line column (column + front.length) lexemes) :
    IsParted depth column front back lexemes final := by
  fun_induction scanLine line depth column characters generalizing lexemes final front with
  | case1 depth column => exact absurd whole.symm (List.append_ne_nil_of_right_ne_nil _ (List.cons_ne_nil _ _))
  | case2 depth column first later isEnd =>
      exfalso
      have isFirst := getElem?_of_drop remaining
      rcases isEnd with rfl | rfl
      · -- The line break is the last character of the line, so it is the one to cut at.
        have atEnd := isLine.eq_of_getElem? isFirst
        have nothingLeft := congrArg List.length remaining
        have length_eq := congrArg List.length whole
        rw [List.length_drop, List.length_cons] at nothingLeft
        rw [List.length_append, List.length_cons, List.length_cons] at length_eq
        cases front with
        | nil => exact notBreak (List.cons.inj whole).1.symm
        | cons other others =>
            rw [List.length_cons] at length_eq
            omega
      · cases scanned
        obtain ⟨lexeme, isLexeme, _⟩ := gap.noComment column (Nat.le_refl _) (by omega) isFirst
        cases isLexeme
  | case3 depth column first later notEnd isBlank inductionHypothesis =>
      have laterRemaining := drop_add_of_drop 0 remaining
      cases front with
      | nil =>
          cases whole
          obtain ⟨_, stop, segments, _⟩ := segments_of_scanLine scanned laterRemaining
          refine ⟨[], lexemes, depth, rfl, ?_, ?_, .nil depth, spells_of_scanLine scanned⟩
          · intro lexeme isLexeme
            cases isLexeme
          · intro lexeme isLexeme
            have behindColumn := (segments.between lexeme isLexeme).1
            have notEmpty := (segments.stretch lexeme isLexeme).2.2.notEmpty
            rw [List.length_nil]
            omega
      | cons other others =>
          rw [List.cons_append] at whole
          obtain ⟨rfl, rfl⟩ := List.cons.inj whole
          have innerGap := gap.mono (Nat.le_add_right column 1)
          rw [List.length_cons, Nat.add_comm others.length, ← Nat.add_assoc] at innerGap
          exact (inductionHypothesis scanned laterRemaining rfl innerGap).cons_blank isBlank
            (not_or.mp notEnd).1
  | case4 | case5 => cases scanned
  | case6 depth column first later _ notBlank kind more isLexeme others _ othersScanned lexeme =>
      rename_i inductionHypothesis
      cases scanned
      cases front with
      | nil =>
          cases whole
          exact absurd blank_spec notBlank
      | cons other inner =>
          rw [List.cons_append] at whole
          obtain ⟨rfl, rfl⟩ := List.cons.inj whole
          have inFront : more ≤ inner.length := by
            apply Nat.le_of_not_lt
            intro beyond
            apply gap.uncovered lexeme (.head _)
            rw [List.length_cons]
            exact ⟨Nat.le_add_right _ _, by simp only [lexeme, Line.locate]; omega⟩
          obtain ⟨body, rest, rfl, rfl⟩ : ∃ body rest, inner = body ++ rest ∧ more = body.length :=
            ⟨inner.take more, inner.drop more, (List.take_append_drop more inner).symm,
              (List.length_take_of_le inFront).symm⟩
          have lexeme_eq : lexeme = ⟨kind, String.ofList (first :: body),
              line.locate column (column + 1 + body.length)⟩ := by
            simp only [lexeme, List.append_assoc, List.take_left]
          have place_eq : column + (first :: (body ++ rest)).length =
              column + 1 + body.length + rest.length := by
            rw [List.length_cons, List.length_append]
            omega
          rw [place_eq] at gap
          have isCut := isCut_of_lexemeAt isLexeme
          have behind_eq : (body ++ rest ++ blank :: back).drop body.length =
              rest ++ blank :: back := by
            rw [List.append_assoc, List.drop_left]
          rw [behind_eq, List.append_assoc, List.take_left] at isCut
          rw [lexeme_eq]
          refine IsParted.cons_lexeme (inductionHypothesis othersScanned
            (drop_add_of_drop body.length remaining) behind_eq ?_) isCut.of_append
          exact gap.tail (Nat.le_add_right_of_le (Nat.le_add_right _ _))

end Cut

end GrammarText

end RuleMachine
