import Mathlib.Control.Monad.Basic
import RuleMachine.Proofs.LineSegments

/-!
# Where the lexemes of a text lie

A lexeme points at a stretch of one line of the text, and the characters of the stretch
are the lexeme.  The stretches follow each other without overlap.  Between them there
are blank characters only, and behind the last one of a line perhaps a comment.  If
scanning fails, the lexemes and blank characters reach up to the place of the fault, and
there is no lexeme there.

The induction goes over the lines: what holds of the lines behind the first one
(`Faithful`) is not changed by the lexemes of the first line.
-/

namespace RuleMachine

/-- A stretch ends before another one begins. -/
def Location.Before (earlier later : Location) : Prop :=
  earlier.line < later.line ∨
    earlier.line = later.line ∧ earlier.endColumn ≤ later.startColumn

namespace GrammarText

open RuleMachine.Text

/-! ## The lexemes of the lines -/

/-- A line is one of the lines that are counted from a first number on. -/
def HasLine (first : Nat) (lines : List (List Char)) (line : Line) : Prop :=
  ∃ index, line.number = first + index ∧ lines[index]? = some line.characters

/-- A comment of a line begins at a column: no lexeme but the line end lies behind it. -/
def CommentAt (lexemes : List Lexeme) (line : Line) (mark : Nat) : Prop :=
  line.characters[mark]? = some '#' ∧
    ∀ lexeme ∈ lexemes, lexeme.location.line = line.number → lexeme.kind ≠ .newline →
      lexeme.location.endColumn ≤ mark

/-- A character of a line is part of a lexeme, blank, the line break or part of a comment. -/
def IsAccounted (lexemes : List Lexeme) (line : Line) (column : Nat) (character : Char) : Prop :=
  (∃ lexeme ∈ lexemes, lexeme.location.line = line.number ∧ lexeme.location.Covers column) ∨
    isBlank character = true ∨ character = '\n' ∨ ∃ mark ≤ column, CommentAt lexemes line mark

/-- A line has a line end exactly if it has another lexeme and no bracket is open behind it. -/
def IsEnded (depth : Nat) (lexemes : List Lexeme) (line : Line) : Prop :=
  (∃ lexeme ∈ lexemes, lexeme.location.line = line.number ∧ lexeme.kind = .newline) ↔
    (∃ lexeme ∈ lexemes, lexeme.location.line = line.number ∧ lexeme.kind ≠ .newline) ∧
      bracketDepth depth (lexemes.filter (·.location.line ≤ line.number)) = 0

/-- Lexemes point at the lines from a first number on, before which `depth` brackets are
open. -/
structure Faithful (first depth : Nat) (lines : List (List Char)) (lexemes : List Lexeme) :
    Prop where
  placed : ∀ lexeme ∈ lexemes, ∃ line, HasLine first lines line ∧
    lexeme.location.line = line.number ∧ IsStretch line.characters lexeme
  ordered : lexemes.Pairwise fun earlier later => earlier.location.Before later.location
  covered : ∀ line, HasLine first lines line → ∀ column character,
    line.characters[column]? = some character → IsAccounted lexemes line column character
  ended : ∀ line, HasLine first lines line → IsEnded depth lexemes line

theorem hasLine_cons_iff {first : Nat} {characters : List Char} {later : List (List Char)}
    {line : Line} :
    HasLine first (characters :: later) line ↔
      line = ⟨first, characters⟩ ∨ HasLine (first + 1) later line := by
  constructor
  · rintro ⟨index, number_eq, isLine⟩
    cases index with
    | zero =>
        left
        obtain ⟨number, others⟩ := line
        cases isLine
        cases number_eq
        rfl
    | succ index => exact .inr ⟨index, by omega, isLine⟩
  · rintro (rfl | ⟨index, number_eq, isLine⟩)
    · exact ⟨0, rfl, rfl⟩
    · exact ⟨index + 1, by omega, isLine⟩

theorem HasLine.le_number {first : Nat} {lines : List (List Char)} {line : Line}
    (hasLine : HasLine first lines line) : first ≤ line.number := by
  obtain ⟨index, number_eq, _⟩ := hasLine
  omega

theorem Faithful.le_line {first depth : Nat} {lines : List (List Char)} {lexemes : List Lexeme}
    (faithful : Faithful first depth lines lexemes) :
    ∀ lexeme ∈ lexemes, first ≤ lexeme.location.line := by
  intro lexeme isLexeme
  obtain ⟨line, hasLine, number_eq, _⟩ := faithful.placed lexeme isLexeme
  rw [number_eq]
  exact hasLine.le_number

/-- The line end behind the lexemes of a line, if there is one. -/
def lineEnd (line : Line) (lexemes : List Lexeme) (depth : Nat) : List Lexeme :=
  if lexemes ≠ [] ∧ depth = 0 then [line.newline] else []

theorem mem_lineEnd_iff {line : Line} {lexemes : List Lexeme} {depth : Nat} {lexeme : Lexeme} :
    lexeme ∈ lineEnd line lexemes depth ↔ lexeme = line.newline ∧ lexemes ≠ [] ∧ depth = 0 := by
  unfold lineEnd
  by_cases hasEnd : lexemes ≠ [] ∧ depth = 0
  · rw [if_pos hasEnd, List.mem_singleton, and_iff_left hasEnd]
  · rw [if_neg hasEnd]
    exact ⟨fun isLexeme => (nomatch isLexeme), fun isEnd => absurd isEnd.2 hasEnd⟩

theorem isStretch_newline {line : Line} (isLine : IsLine line.characters) :
    IsStretch line.characters line.newline := by
  obtain ⟨inner, _, characters_eq⟩ := isLine
  have length_eq : line.characters.length = inner.length + 1 := by
    rw [characters_eq, List.length_append, List.length_singleton]
  have spelling : line.newline.text.toList = ['\n'] := String.toList_ofList
  refine ⟨rfl, ?_, Nat.le_refl _, ?_, spelling ▸ .newline, fun _ => rfl⟩
  · simp only [Line.newline, Line.locate]
    omega
  · rw [spelling]
    simp only [Line.newline, Line.locate, length_eq, Nat.add_sub_cancel, Nat.add_sub_cancel_left]
    rw [characters_eq, List.drop_left]
    rfl

theorem cases_of_scanLines {first depth : Nat} {characters : List Char}
    {later : List (List Char)} {lexemes : List Lexeme}
    (scanned : scanLines first depth (characters :: later) = .ok lexemes) :
    ∃ front finalDepth behind,
      scanLine ⟨first, characters⟩ depth 0 characters = .ok (front, finalDepth) ∧
      scanLines (first + 1) finalDepth later = .ok behind ∧
      lexemes = front ++ lineEnd ⟨first, characters⟩ front finalDepth ++ behind := by
  unfold scanLines at scanned
  simp only at scanned
  split at scanned
  · cases scanned
  · rename_i front finalDepth frontScanned
    split at scanned
    · cases scanned
    · rename_i behind laterScanned
      refine ⟨front, finalDepth, behind, frontScanned, laterScanned, ?_⟩
      unfold lineEnd
      split at scanned
      · rename_i hasEnd
        cases scanned
        rw [if_pos hasEnd, List.append_assoc, List.singleton_append]
      · rename_i noEnd
        cases scanned
        rw [if_neg noEnd, List.append_nil]

/-- The lexemes of a whole line, before which `depth` brackets are open. -/
structure ScannedLine (line : Line) (depth : Nat) (lexemes : List Lexeme)
    (finalDepth stop : Nat) : Prop where
  isLine : IsLine line.characters
  segments : Segments line 0 stop lexemes
  stopsAt : StopsAt line.characters stop
  depth_eq : finalDepth = bracketDepth depth lexemes

section Lines

variable {line : Line} {depth finalDepth stop : Nat} {later : List (List Char)}
  {front behind : List Lexeme}

/-- The lexemes of a line, with its line end, lie on that line. -/
theorem ScannedLine.line_eq (scanned : ScannedLine line depth front finalDepth stop) :
    ∀ lexeme ∈ front ++ lineEnd line front finalDepth,
      lexeme.location.line = line.number := by
  intro lexeme isLexeme
  cases List.mem_append.mp isLexeme with
  | inl inFront => exact (scanned.segments.stretch lexeme inFront).1
  | inr isEnd =>
      rw [(mem_lineEnd_iff.mp isEnd).1]
      rfl

theorem ScannedLine.bracketDepth_eq (scanned : ScannedLine line depth front finalDepth stop) :
    bracketDepth depth (front ++ lineEnd line front finalDepth) = finalDepth := by
  have depth_eq := scanned.depth_eq
  unfold bracketDepth at depth_eq ⊢
  rw [List.foldl_append, ← depth_eq]
  unfold lineEnd
  by_cases hasEnd : front ≠ [] ∧ finalDepth = 0
  · rw [if_pos hasEnd]
    have notOperator : line.newline.kind ≠ .operator := nofun
    exact bracketStep_of_kind finalDepth notOperator
  · rw [if_neg hasEnd]
    rfl

/-- The lexemes up to a line are those of the first line and, behind them, those of the
others up to that line. -/
theorem ScannedLine.filter_line_le (scanned : ScannedLine line depth front finalDepth stop)
    {number : Nat} (isBehind : line.number ≤ number) :
    (front ++ lineEnd line front finalDepth ++ behind).filter (·.location.line ≤ number) =
      front ++ lineEnd line front finalDepth ++ behind.filter (·.location.line ≤ number) := by
  rw [List.filter_append, List.filter_eq_self.mpr]
  intro lexeme isLexeme
  rw [scanned.line_eq lexeme isLexeme]
  exact decide_eq_true isBehind

theorem placed_cons (scanned : ScannedLine line depth front finalDepth stop)
    (faithful : Faithful (line.number + 1) finalDepth later behind) :
    ∀ lexeme ∈ front ++ lineEnd line front finalDepth ++ behind,
      ∃ holder, HasLine line.number (line.characters :: later) holder ∧
        lexeme.location.line = holder.number ∧ IsStretch holder.characters lexeme := by
  have isFirst : HasLine line.number (line.characters :: later) line :=
    hasLine_cons_iff.mpr (.inl rfl)
  refine List.forall_mem_append.mpr ⟨List.forall_mem_append.mpr ⟨?_, ?_⟩, ?_⟩
  · intro lexeme inFront
    obtain ⟨number_eq, _, isStretch⟩ := scanned.segments.stretch lexeme inFront
    exact ⟨line, isFirst, number_eq, isStretch⟩
  · intro lexeme isEnd
    rw [(mem_lineEnd_iff.mp isEnd).1]
    exact ⟨line, isFirst, rfl, isStretch_newline scanned.isLine⟩
  · intro lexeme isBehind
    obtain ⟨holder, hasLine, number_eq, isStretch⟩ := faithful.placed lexeme isBehind
    exact ⟨holder, hasLine_cons_iff.mpr (.inr hasLine), number_eq, isStretch⟩

theorem ordered_cons (scanned : ScannedLine line depth front finalDepth stop)
    (faithful : Faithful (line.number + 1) finalDepth later behind) :
    (front ++ lineEnd line front finalDepth ++ behind).Pairwise
      fun earlier later => earlier.location.Before later.location := by
  have onLine := scanned.segments.stretch
  refine List.pairwise_append.mpr ⟨List.pairwise_append.mpr ⟨?_, ?_, ?_⟩, faithful.ordered, ?_⟩
  · refine scanned.segments.ordered.imp_of_mem ?_
    intro earlier other isEarlier isOther apart
    exact .inr ⟨(onLine earlier isEarlier).1.trans (onLine other isOther).1.symm, apart⟩
  · unfold lineEnd
    by_cases hasEnd : front ≠ [] ∧ finalDepth = 0
    · rw [if_pos hasEnd]
      exact List.pairwise_singleton _ _
    · rw [if_neg hasEnd]
      exact .nil
  · intro earlier isEarlier newline isEnd
    obtain ⟨number_eq, notNewline, isStretch⟩ := onLine earlier isEarlier
    have inside := isStretch.endColumn_lt scanned.isLine notNewline
    rw [(mem_lineEnd_iff.mp isEnd).1]
    refine .inr ⟨number_eq, ?_⟩
    simp only [Line.newline, Line.locate]
    omega
  · intro earlier isEarlier other isBehind
    have onFirst := scanned.line_eq earlier isEarlier
    have onLater := faithful.le_line other isBehind
    exact .inl (by omega)

theorem isAccounted_first (scanned : ScannedLine line depth front finalDepth stop)
    (faithful : Faithful (line.number + 1) finalDepth later behind) {column : Nat}
    {character : Char} (isCharacter : line.characters[column]? = some character) :
    IsAccounted (front ++ lineEnd line front finalDepth ++ behind) line column character := by
  obtain ⟨inLine, _⟩ := List.getElem?_eq_some_iff.mp isCharacter
  by_cases isScanned : column < stop
  · rcases scanned.segments.covered column character (Nat.zero_le _) isScanned isCharacter with
      isBlank | ⟨lexeme, inFront, covers⟩
    · exact .inr (.inl isBlank)
    · have isLexeme := List.mem_append_left behind
        (List.mem_append_left (lineEnd line front finalDepth) inFront)
      exact .inl ⟨lexeme, isLexeme, (scanned.segments.stretch lexeme inFront).1, covers⟩
  · rcases scanned.stopsAt with beyond | isBreak | isMark
    · omega
    · have atEnd := scanned.isLine.eq_of_getElem? isBreak
      have same : column = stop := by omega
      subst same
      rw [isBreak] at isCharacter
      exact .inr (.inr (.inl (Option.some.inj isCharacter).symm))
    · refine .inr (.inr (.inr ⟨stop, by omega, isMark, ?_⟩))
      intro lexeme isLexeme onFirst notNewline
      rcases List.mem_append.mp isLexeme with isLexeme | isBehind
      · rcases List.mem_append.mp isLexeme with inFront | isEnd
        · exact (scanned.segments.between lexeme inFront).2
        · rw [(mem_lineEnd_iff.mp isEnd).1] at notNewline
          exact absurd rfl notNewline
      · have onLater := faithful.le_line lexeme isBehind
        omega

/-- What holds of a later line is not changed by the lexemes of the first one. -/
theorem isAccounted_later (scanned : ScannedLine line depth front finalDepth stop)
    {other : Line} (isLater : line.number < other.number) {column : Nat} {character : Char}
    (isAccounted : IsAccounted behind other column character) :
    IsAccounted (front ++ lineEnd line front finalDepth ++ behind) other column character := by
  rcases isAccounted with ⟨lexeme, isBehind, covers⟩ | isBlank | isBreak |
    ⟨mark, isBefore, isMark, noLexeme⟩
  · exact .inl ⟨lexeme, List.mem_append_right _ isBehind, covers⟩
  · exact .inr (.inl isBlank)
  · exact .inr (.inr (.inl isBreak))
  · refine .inr (.inr (.inr ⟨mark, isBefore, isMark, ?_⟩))
    intro lexeme isLexeme onOther
    rcases List.mem_append.mp isLexeme with isFront | isBehind
    · have onFirst := scanned.line_eq lexeme isFront
      omega
    · exact noLexeme lexeme isBehind onOther

theorem isEnded_first (scanned : ScannedLine line depth front finalDepth stop)
    (faithful : Faithful (line.number + 1) finalDepth later behind) :
    IsEnded depth (front ++ lineEnd line front finalDepth ++ behind) line := by
  have noneBehind : behind.filter (·.location.line ≤ line.number) = [] := by
    refine List.filter_eq_nil_iff.mpr ?_
    intro lexeme isBehind
    have onLater := faithful.le_line lexeme isBehind
    simp only [decide_eq_true_eq]
    omega
  have isFront : ∀ lexeme ∈ front ++ lineEnd line front finalDepth ++ behind,
      lexeme.location.line = line.number →
      lexeme ∈ front ∨ lexeme ∈ lineEnd line front finalDepth := by
    intro lexeme isLexeme onFirst
    rcases List.mem_append.mp isLexeme with isFront | isBehind
    · exact List.mem_append.mp isFront
    · have onLater := faithful.le_line lexeme isBehind
      omega
  unfold IsEnded
  rw [scanned.filter_line_le (Nat.le_refl _), noneBehind, List.append_nil,
    scanned.bracketDepth_eq]
  constructor
  · rintro ⟨lexeme, isLexeme, onFirst, isNewline⟩
    rcases isFront lexeme isLexeme onFirst with inFront | isEnd
    · exact absurd isNewline (scanned.segments.stretch lexeme inFront).2.1
    · obtain ⟨_, hasLexeme, noBracket⟩ := mem_lineEnd_iff.mp isEnd
      obtain ⟨other, inFront⟩ := List.exists_mem_of_ne_nil front hasLexeme
      obtain ⟨onLine, notNewline, _⟩ := scanned.segments.stretch other inFront
      exact ⟨⟨other, List.mem_append_left _ (List.mem_append_left _ inFront), onLine, notNewline⟩,
        noBracket⟩
  · rintro ⟨⟨lexeme, isLexeme, onFirst, notNewline⟩, noBracket⟩
    rcases isFront lexeme isLexeme onFirst with inFront | isEnd
    · have isEnd : line.newline ∈ lineEnd line front finalDepth :=
        mem_lineEnd_iff.mpr ⟨rfl, List.ne_nil_of_mem inFront, noBracket⟩
      exact ⟨_, List.mem_append_left _ (List.mem_append_right _ isEnd), rfl, rfl⟩
    · rw [(mem_lineEnd_iff.mp isEnd).1] at notNewline
      exact absurd rfl notNewline

theorem isEnded_later (scanned : ScannedLine line depth front finalDepth stop) {other : Line}
    (isLater : line.number < other.number) (isEnded : IsEnded finalDepth behind other) :
    IsEnded depth (front ++ lineEnd line front finalDepth ++ behind) other := by
  have onlyBehind : ∀ property : Lexeme → Prop,
      (∃ lexeme ∈ front ++ lineEnd line front finalDepth ++ behind,
        lexeme.location.line = other.number ∧ property lexeme) ↔
      ∃ lexeme ∈ behind, lexeme.location.line = other.number ∧ property lexeme := by
    intro property
    constructor
    · rintro ⟨lexeme, isLexeme, onOther, holds⟩
      rcases List.mem_append.mp isLexeme with isFront | isBehind
      · have onFirst := scanned.line_eq lexeme isFront
        omega
      · exact ⟨lexeme, isBehind, onOther, holds⟩
    · rintro ⟨lexeme, isBehind, onOther, holds⟩
      exact ⟨lexeme, List.mem_append_right _ isBehind, onOther, holds⟩
  unfold IsEnded
  rw [onlyBehind, onlyBehind, scanned.filter_line_le (Nat.le_of_lt isLater), bracketDepth,
    List.foldl_append, ← bracketDepth, ← bracketDepth, scanned.bracketDepth_eq]
  exact isEnded

/-- The lexemes of one line before those of the lines behind it. -/
theorem Faithful.cons (scanned : ScannedLine line depth front finalDepth stop)
    (faithful : Faithful (line.number + 1) finalDepth later behind) :
    Faithful line.number depth (line.characters :: later)
      (front ++ lineEnd line front finalDepth ++ behind) where
  placed := placed_cons scanned faithful
  ordered := ordered_cons scanned faithful
  covered := by
    intro other hasLine column character isCharacter
    rcases hasLine_cons_iff.mp hasLine with rfl | isLater
    · exact isAccounted_first scanned faithful isCharacter
    · exact isAccounted_later scanned isLater.le_number
        (faithful.covered other isLater column character isCharacter)
  ended := by
    intro other hasLine
    rcases hasLine_cons_iff.mp hasLine with rfl | isLater
    · exact isEnded_first scanned faithful
    · exact isEnded_later scanned isLater.le_number (faithful.ended other isLater)

end Lines

theorem Faithful.nil (first depth : Nat) : Faithful first depth [] [] where
  placed := by
    intro lexeme isLexeme
    cases isLexeme
  ordered := .nil
  covered := by
    rintro line ⟨_, _, isLine⟩
    cases isLine
  ended := by
    rintro line ⟨_, _, isLine⟩
    cases isLine

/-- What a run over the lines gives: lexemes that point at them, and the end marker on the
line behind the last one. -/
theorem faithful_of_scanLines {lines : List (List Char)} {first depth : Nat}
    {lexemes : List Lexeme} (areLines : ∀ characters ∈ lines, IsLine characters)
    (scanned : scanLines first depth lines = .ok lexemes) :
    ∃ inner, lexemes = inner ++ [Lexeme.finish (first + lines.length)] ∧
      Faithful first depth lines inner := by
  induction lines generalizing first depth lexemes with
  | nil =>
      cases scanned
      exact ⟨[], rfl, .nil first depth⟩
  | cons characters later inductionHypothesis =>
      obtain ⟨isLine, laterAreLines⟩ := List.forall_mem_cons.mp areLines
      obtain ⟨front, finalDepth, behind, frontScanned, laterScanned, rfl⟩ :=
        cases_of_scanLines scanned
      obtain ⟨depth_eq, stop, segments, stopsAt⟩ := segments_of_scanLine frontScanned rfl
      obtain ⟨inner, rfl, faithful⟩ := inductionHypothesis laterAreLines laterScanned
      have scannedLine : ScannedLine ⟨first, characters⟩ depth front finalDepth stop :=
        ⟨isLine, segments, stopsAt, depth_eq⟩
      refine ⟨_, ?_, faithful.cons scannedLine⟩
      rw [List.append_assoc _ inner, List.length_cons, Nat.add_right_comm, Nat.add_assoc]

theorem faultAt_of_scanLines {lines : List (List Char)} {first depth : Nat}
    {error : GrammarError} (failed : scanLines first depth lines = .error error) :
    ∃ line reason location, HasLine first lines line ∧
      error = .placed (.malformed reason) location ∧ FaultAt line 0 reason location := by
  induction lines generalizing first depth with
  | nil => cases failed
  | cons characters later inductionHypothesis =>
      unfold scanLines at failed
      simp only at failed
      split at failed
      · rename_i frontFailed
        cases failed
        obtain ⟨reason, location, error_eq, fault⟩ := faultAt_of_scanLine frontFailed rfl
        exact ⟨_, reason, location, hasLine_cons_iff.mpr (.inl rfl), error_eq, fault⟩
      · split at failed
        · rename_i laterFailed
          cases failed
          obtain ⟨line, reason, location, isLater, error_eq, fault⟩ :=
            inductionHypothesis laterFailed
          exact ⟨line, reason, location, hasLine_cons_iff.mpr (.inr isLater), error_eq, fault⟩
        · split at failed
          · cases failed
          · cases failed

/-- The lexemes of a text point at the lines of the text, and so does the fault if there
is one. -/
theorem scan_points_at_lines (source : String) :
    ∃ lines, IsLines source.toList lines ∧
      (∀ lexemes, scan source = .ok lexemes →
        ∃ inner, lexemes = inner ++ [Lexeme.finish (lines.length + 1)] ∧
          Faithful 1 0 lines inner) ∧
      ∀ error, scan source = .error error →
        ∃ line reason location, HasLine 1 lines line ∧
          error = .placed (.malformed reason) location ∧ FaultAt line 0 reason location := by
  have isLines := isLines_splitLines source.toList
  refine ⟨splitLines source.toList, isLines, ?_, ?_⟩
  · intro lexemes scanned
    rw [Nat.add_comm]
    exact faithful_of_scanLines isLines.isLine scanned
  · intro error failed
    exact faultAt_of_scanLines failed

/-- A comment mark in quotes, a comment, a bracket that is closed on the second line, and
no line break at the end. -/
def bracketText : String := "a: ('#' | # more\n b)"

/-- The second quote is taken along by the backslash before it. -/
def openQuoteText : String := "a: 'b\\'\n"

theorem scan_points_at_lines_bracketText :
    (∃ lines inner, IsLines bracketText.toList lines ∧
      scan bracketText = .ok (inner ++ [Lexeme.finish (lines.length + 1)]) ∧
      Faithful 1 0 lines inner ∧
      inner.map Lexeme.text = ["a", ":", "(", "'#'", "|", "b", ")", "\n"]) ∧
    ∃ line location,
      scan openQuoteText = .error (.placed (.malformed .unterminatedString) location) ∧
      location.startColumn = 3 ∧ FaultAt line 0 .unterminatedString location := by
  constructor
  · have texts : (scan bracketText).map (List.map Lexeme.text) =
        .ok (["a", ":", "(", "'#'", "|", "b", ")", "\n"] ++ [""]) := by
      decide +kernel
    cases scanned : scan bracketText with
    | error error =>
        rw [scanned] at texts
        cases texts
    | ok lexemes =>
        obtain ⟨lines, isLines, faithful, _⟩ := scan_points_at_lines bracketText
        obtain ⟨inner, rfl, isFaithful⟩ := faithful lexemes scanned
        rw [scanned] at texts
        have appended := Except.ok.inj texts
        rw [List.map_append] at appended
        exact ⟨lines, inner, isLines, rfl, isFaithful, List.append_cancel_right appended⟩
  · have failed : scan openQuoteText = .error (.placed (.malformed .unterminatedString)
        ⟨1, 3, 7, openQuoteText⟩) := by
      decide +kernel
    obtain ⟨_, _, _, faults⟩ := scan_points_at_lines openQuoteText
    obtain ⟨line, reason, location, _, error_eq, fault⟩ := faults _ failed
    cases error_eq
    exact ⟨line, _, failed, rfl, fault⟩

end GrammarText

end RuleMachine
