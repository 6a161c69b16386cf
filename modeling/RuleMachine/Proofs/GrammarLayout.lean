import Mathlib.Logic.Relation
import RuleMachine.Proofs.Compilation
import RuleMachine.Proofs.LineLayout
import RuleMachine.Vocabulary.Standard

/-!
# The layout of a grammar text does not matter

A grammar text may be laid out in many ways: with empty lines and lines of comments, with
blank characters or a comment behind a line, and with lines broken inside brackets.  Each
of these edits leaves the lexemes as they are, up to their places, because a line end
depends on two things only, which the edits keep: whether a line has lexemes, and how many
brackets are open behind it.  So no number of edits changes the grammar, or the error
apart from its place.
-/

namespace RuleMachine

namespace GrammarText

open RuleMachine.Text

/-! ## The lines of a text are determined by it -/

theorem splitLines_append_break {inner : List Char} (noBreak : '\n' ∉ inner)
    (later : List Char) :
    splitLines (inner ++ '\n' :: later) = (inner ++ ['\n']) :: splitLines later := by
  induction inner with
  | nil => rw [List.nil_append, splitLines, if_pos rfl, List.nil_append]
  | cons character others inductionHypothesis =>
      obtain ⟨notBreak, othersNoBreak⟩ := not_or.mp (mt List.mem_cons.mpr noBreak)
      rw [List.cons_append, splitLines, if_neg (Ne.symm notBreak),
        inductionHypothesis othersNoBreak]
      rfl

theorem splitLines_flatten {lines : List (List Char)}
    (areLines : ∀ characters ∈ lines, IsLine characters) : splitLines lines.flatten = lines := by
  induction lines with
  | nil => rfl
  | cons characters later inductionHypothesis =>
      obtain ⟨⟨inner, noBreak, rfl⟩, laterAreLines⟩ := List.forall_mem_cons.mp areLines
      rw [List.flatten_cons, List.append_assoc, List.singleton_append,
        splitLines_append_break noBreak, inductionHypothesis laterAreLines]

theorem splitLines_cons_congr {later other : List Char}
    (same : splitLines later = splitLines other) (character : Char) :
    splitLines (character :: later) = splitLines (character :: other) := by
  rw [splitLines, splitLines, same]

/-- A line break at the end of a text makes no further line. -/
theorem splitLines_concat_break {text : List Char} (notEmpty : text ≠ [])
    (notBroken : text.getLast? ≠ some '\n') : splitLines (text ++ ['\n']) = splitLines text := by
  induction text with
  | nil => exact absurd rfl notEmpty
  | cons character later inductionHypothesis =>
      cases later with
      | nil =>
          have notBreak : character ≠ '\n' := fun isBreak => notBroken (congrArg some isBreak)
          simp only [List.singleton_append, splitLines, if_neg notBreak, if_true]
      | cons second others =>
          rw [List.getLast?_cons_of_ne_nil (List.cons_ne_nil second others)] at notBroken
          exact splitLines_cons_congr
            (inductionHypothesis (List.cons_ne_nil second others) notBroken) character

theorem IsLines.eq_splitLines {text : List Char} {lines : List (List Char)}
    (isLines : IsLines text lines) : lines = splitLines text := by
  rcases isLines.joined with joined | ⟨notEmpty, notBroken, joined⟩
  · rw [← joined, splitLines_flatten isLines.isLine]
  · rw [← splitLines_concat_break notEmpty notBroken, ← joined, splitLines_flatten isLines.isLine]

/-- A line break behind a text makes at most one further line, without any characters. -/
theorem splitLines_concat (text : List Char) :
    splitLines (text ++ ['\n']) = splitLines text ∨
      splitLines (text ++ ['\n']) = splitLines text ++ [['\n']] := by
  induction text with
  | nil => exact .inr rfl
  | cons character later inductionHypothesis =>
      rcases inductionHypothesis with same | oneMore
      · exact .inl (splitLines_cons_congr same character)
      · rw [List.cons_append, splitLines, splitLines, oneMore]
        by_cases isBreak : character = '\n'
        · rw [if_pos isBreak, if_pos isBreak]
          exact .inr rfl
        · rw [if_neg isBreak, if_neg isBreak]
          cases splitLines later with
          | nil => exact .inl rfl
          | cons line lines => exact .inr rfl

/-! ## What lines spell -/

/-- The line end behind the lexemes of a line, at no place. -/
def spelledEnd (lexemes : List Lexeme) (depth : Nat) : List Lexeme :=
  if lexemes ≠ [] ∧ depth = 0 then [spelled .newline ['\n']] else []

theorem map_placeless_lineEnd (line : Line) (lexemes : List Lexeme) (depth : Nat) :
    (lineEnd line lexemes depth).map Lexeme.placeless =
      spelledEnd (lexemes.map Lexeme.placeless) depth := by
  have sameEnd : lexemes.map Lexeme.placeless ≠ [] ∧ depth = 0 ↔ lexemes ≠ [] ∧ depth = 0 :=
    and_congr_left' (not_congr List.map_eq_nil_iff)
  unfold lineEnd spelledEnd
  by_cases hasEnd : lexemes ≠ [] ∧ depth = 0
  · rw [if_pos hasEnd, if_pos (sameEnd.mpr hasEnd)]
    rfl
  · rw [if_neg hasEnd, if_neg (mt sameEnd.mp hasEnd)]
    rfl

/-- Lines spell lexemes.  The numbers count the open brackets before and behind them. -/
inductive SpellsLines : Nat → List (List Char) → List Lexeme → Nat → Prop
  | nil (depth : Nat) : SpellsLines depth [] [] depth
  | cons {depth middle final : Nat} {characters : List Char} {later : List (List Char)}
      {lexemes others : List Lexeme} :
      Spells depth characters lexemes middle → SpellsLines middle later others final →
      SpellsLines depth (characters :: later) (lexemes ++ spelledEnd lexemes middle ++ others) final

namespace SpellsLines

variable {depth middle final : Nat} {before behind : List (List Char)}
  {lexemes others : List Lexeme}

theorem append (first : SpellsLines depth before lexemes middle)
    (second : SpellsLines middle behind others final) :
    SpellsLines depth (before ++ behind) (lexemes ++ others) final := by
  induction first with
  | nil depth => exact second
  | cons isSpelled _ inductionHypothesis =>
      rw [List.cons_append, List.append_assoc]
      exact .cons isSpelled (inductionHypothesis second)

theorem exists_split (areSpelled : SpellsLines depth (before ++ behind) lexemes final) :
    ∃ earlier later middle, lexemes = earlier ++ later ∧
      SpellsLines depth before earlier middle ∧ SpellsLines middle behind later final := by
  induction before generalizing depth lexemes with
  | nil => exact ⟨[], lexemes, depth, rfl, .nil depth, areSpelled⟩
  | cons characters later inductionHypothesis =>
      cases areSpelled with
      | cons isSpelled laterSpelled =>
          obtain ⟨earlier, rest, middle, rfl, first, second⟩ := inductionHypothesis laterSpelled
          exact ⟨_, rest, middle, (List.append_assoc ..).symm, .cons isSpelled first, second⟩

end SpellsLines

theorem spellsLines_of_scanLines {lines : List (List Char)} {first depth : Nat}
    {lexemes : List Lexeme} (scanned : scanLines first depth lines = .ok lexemes) :
    ∃ inner final, lexemes.map Lexeme.placeless = inner ++ [Lexeme.finish 0] ∧
      SpellsLines depth lines inner final := by
  induction lines generalizing first depth lexemes with
  | nil =>
      cases scanned
      exact ⟨[], depth, rfl, .nil depth⟩
  | cons characters later inductionHypothesis =>
      obtain ⟨front, finalDepth, behind, frontScanned, laterScanned, rfl⟩ :=
        cases_of_scanLines scanned
      obtain ⟨inner, final, behind_eq, areSpelled⟩ := inductionHypothesis laterScanned
      refine ⟨_, final, ?_, .cons (spells_of_scanLine frontScanned) areSpelled⟩
      rw [List.map_append, List.map_append, map_placeless_lineEnd, behind_eq,
        List.append_assoc _ inner]

theorem exists_scanLines_of_spellsLines {lines : List (List Char)} {depth final : Nat}
    {inner : List Lexeme} (areSpelled : SpellsLines depth lines inner final) (first : Nat) :
    ∃ lexemes, scanLines first depth lines = .ok lexemes ∧
      lexemes.map Lexeme.placeless = inner ++ [Lexeme.finish 0] := by
  induction areSpelled generalizing first with
  | nil depth => exact ⟨[Lexeme.finish first], rfl, rfl⟩
  | @cons depth middle final characters later _ _ isSpelled _ inductionHypothesis =>
      obtain ⟨front, frontScanned, rfl⟩ := exists_scanLine_of_spells isSpelled ⟨first, characters⟩
      obtain ⟨behind, laterScanned, behind_eq⟩ := inductionHypothesis (first + 1)
      refine ⟨front ++ lineEnd ⟨first, characters⟩ front middle ++ behind, ?_, ?_⟩
      · rw [scanLines]
        simp only [frontScanned, laterScanned]
        unfold lineEnd
        by_cases hasEnd : front ≠ [] ∧ middle = 0
        · rw [if_pos hasEnd, if_pos hasEnd, List.append_assoc, List.singleton_append]
        · rw [if_neg hasEnd, if_neg hasEnd, List.append_nil]
      · rw [List.map_append, List.map_append, map_placeless_lineEnd, behind_eq,
          List.append_assoc _ _ [Lexeme.finish 0]]

/-! ## Edits -/

instance (earlier later : Location) : Decidable (earlier.Before later) :=
  inferInstanceAs (Decidable (_ ∨ _))

/-- A line may be broken at a column: the character there lies in no lexeme and no comment,
and a bracket that is opened before it is still open. -/
structure IsBreakable (lexemes : List Lexeme) (line : Line) (column : Nat) : Prop where
  outsideLexemes : ∀ lexeme ∈ lexemes, lexeme.location.line = line.number →
    ¬lexeme.location.Covers column
  outsideComments : ∀ mark ≤ column, ¬CommentAt lexemes line mark
  insideBrackets :
    1 ≤ bracketDepth 0 (lexemes.filter (·.location.Before (line.locate column (column + 1))))

/-- A change of the layout of a grammar text. -/
inductive LayoutEdit : String → String → Prop
  /-- A line of blank characters, or with nothing but a comment, is put between lines, or
  before or behind all of them. -/
  | insertLine {source edited : String} {before behind : List (List Char)} {filler : List Char} :
      IsFiller filler → IsLines source.toList (before ++ behind) →
      IsLines edited.toList (before ++ (filler ++ ['\n']) :: behind) →
      LayoutEdit source edited
  /-- Blank characters or a comment are put at the end of a line. -/
  | extendLine {source edited : String} {before behind : List (List Char)}
      {inner filler : List Char} :
      IsFiller filler → IsLines source.toList (before ++ (inner ++ ['\n']) :: behind) →
      IsLines edited.toList (before ++ (inner ++ filler ++ ['\n']) :: behind) →
      LayoutEdit source edited
  /-- A blank character between lexemes is replaced by a line break, inside brackets. -/
  | breakLine {source edited : String} {lexemes : List Lexeme} {before behind : List (List Char)}
      {front back rest : List Char} {blank : Char} :
      scan source = .ok lexemes → isBlank blank = true →
      IsLines source.toList (before ++ (front ++ blank :: back) :: behind) →
      IsBreakable lexemes ⟨1 + before.length, front ++ blank :: back⟩ front.length →
      source.toList = before.flatten ++ front ++ blank :: rest →
      edited.toList = before.flatten ++ front ++ '\n' :: rest →
      LayoutEdit source edited

/-! ## One edit -/

theorem exists_spellsLines_of_scan {source : String} {lines : List (List Char)}
    {lexemes : List Lexeme} (isLines : IsLines source.toList lines)
    (scanned : scan source = .ok lexemes) :
    ∃ inner final, lexemes.map Lexeme.placeless = inner ++ [Lexeme.finish 0] ∧
      SpellsLines 0 lines inner final := by
  rw [isLines.eq_splitLines]
  exact spellsLines_of_scanLines scanned

theorem Spells.eq_nil_of_break {depth final : Nat} {lexemes : List Lexeme}
    (isSpelled : Spells depth ['\n'] lexemes final) : lexemes = [] := by
  have onLine : Spells depth ([] ++ ['\n']) lexemes final := isSpelled
  obtain ⟨laid, comment, split, laidOut, _⟩ := onLine.exists_comment List.not_mem_nil
  obtain ⟨rfl, -⟩ := List.append_eq_nil_iff.mp split.symm
  cases laidOut with
  | nil => rfl

theorem SpellsLines.of_concat {depth final : Nat} {lines : List (List Char)}
    {lexemes : List Lexeme} (areSpelled : SpellsLines depth (lines ++ [['\n']]) lexemes final) :
    ∃ middle, SpellsLines depth lines lexemes middle := by
  obtain ⟨earlier, later, middle, rfl, first, second⟩ := areSpelled.exists_split
  cases second with
  | cons isSpelled nothing =>
      cases nothing
      rw [isSpelled.eq_nil_of_break]
      exact ⟨middle, (List.append_nil earlier).symm ▸ first⟩

/-- The lexemes that the lines of a text spell are the lexemes of the text. -/
theorem exists_scan_of_spellsLines {text : String} {lines : List (List Char)}
    {inner : List Lexeme} {final : Nat} (areLines : ∀ characters ∈ lines, IsLine characters)
    (joined : lines.flatten = text.toList ∨ lines.flatten = text.toList ++ ['\n'])
    (areSpelled : SpellsLines 0 lines inner final) :
    ∃ lexemes, scan text = .ok lexemes ∧
      lexemes.map Lexeme.placeless = inner ++ [Lexeme.finish 0] := by
  have wholeSpelled : ∃ middle, SpellsLines 0 (splitLines text.toList) inner middle := by
    have lines_eq := splitLines_flatten areLines
    rcases joined with joined | joined
    · rw [← joined, lines_eq]
      exact ⟨final, areSpelled⟩
    · rw [joined] at lines_eq
      rcases splitLines_concat text.toList with same | oneMore
      · rw [← same, lines_eq]
        exact ⟨final, areSpelled⟩
      · rw [← lines_eq, oneMore] at areSpelled
        exact areSpelled.of_concat
  obtain ⟨middle, wholeSpelled⟩ := wholeSpelled
  exact exists_scanLines_of_spellsLines wholeSpelled 1

theorem IsLines.exists_scan {text : String} {lines : List (List Char)} {inner : List Lexeme}
    {final : Nat} (isLines : IsLines text.toList lines)
    (areSpelled : SpellsLines 0 lines inner final) :
    ∃ lexemes, scan text = .ok lexemes ∧
      lexemes.map Lexeme.placeless = inner ++ [Lexeme.finish 0] :=
  exists_scan_of_spellsLines isLines.isLine (isLines.joined.imp id fun joined => joined.2.2)
    areSpelled

theorem SpellsLines.insert {depth final : Nat} {before behind : List (List Char)}
    {filler : List Char} {lexemes : List Lexeme}
    (areSpelled : SpellsLines depth (before ++ behind) lexemes final) (isFiller : IsFiller filler) :
    SpellsLines depth (before ++ (filler ++ ['\n']) :: behind) lexemes final := by
  obtain ⟨earlier, later, middle, rfl, first, second⟩ := areSpelled.exists_split
  exact first.append (.cons (spells_filler isFiller middle) second)

theorem SpellsLines.extend {depth final : Nat} {before behind : List (List Char)}
    {inner filler : List Char} {lexemes : List Lexeme}
    (areSpelled : SpellsLines depth (before ++ (inner ++ ['\n']) :: behind) lexemes final)
    (noBreak : '\n' ∉ inner) (isFiller : IsFiller filler) :
    SpellsLines depth (before ++ (inner ++ filler ++ ['\n']) :: behind) lexemes final := by
  obtain ⟨earlier, later, middle, rfl, first, second⟩ := areSpelled.exists_split
  cases second with
  | cons isSpelled behindSpelled =>
      exact first.append (.cons (isSpelled.append_filler noBreak isFiller) behindSpelled)

theorem not_mem_of_isLine_concat {inner : List Char} (isLine : IsLine (inner ++ ['\n'])) :
    '\n' ∉ inner := by
  obtain ⟨other, noBreak, same⟩ := isLine
  rw [List.append_cancel_right same]
  exact noBreak

/-! ## Breaking a line -/

theorem bracketDepth_append (depth : Nat) (lexemes others : List Lexeme) :
    bracketDepth depth (lexemes ++ others) = bracketDepth (bracketDepth depth lexemes) others :=
  List.foldl_append

theorem bracketDepth_placeless (depth : Nat) (lexemes : List Lexeme) :
    bracketDepth depth (lexemes.map Lexeme.placeless) = bracketDepth depth lexemes :=
  List.foldl_map

theorem Spells.bracketDepth_eq {depth final : Nat} {characters : List Char}
    {lexemes : List Lexeme} (isSpelled : Spells depth characters lexemes final) :
    final = bracketDepth depth lexemes := by
  obtain ⟨_, _, _, laidOut, _⟩ := isSpelled
  exact laidOut.bracketDepth_eq

/-- A line that is broken inside brackets spells what it spelled before.  The line break
gives no line end, and the one behind the line, if there is any, stays: a bracket that is
open at the break and closed at the end of the line is closed behind the break. -/
theorem spellsLines_broken {depth middle final : Nat} {front back : List Char}
    {lexemes others : List Lexeme} (laidOut : LaidOut depth front lexemes middle)
    (isOpen : 1 ≤ middle) (isSpelled : Spells middle back others final) :
    SpellsLines depth [front ++ ['\n'], back]
      (lexemes ++ others ++ spelledEnd (lexemes ++ others) final) final := by
  have frontSpelled : Spells depth (front ++ ['\n']) lexemes middle :=
    ⟨front, ['\n'], rfl, laidOut, fun first isFirst => .inl (Option.some.inj isFirst).symm⟩
  have noEnd : spelledEnd lexemes middle = [] := by
    rw [spelledEnd, if_neg]
    rintro ⟨-, rfl⟩
    exact absurd isOpen (by decide)
  have sameEnd : spelledEnd (lexemes ++ others) final = spelledEnd others final := by
    by_cases isClosed : final = 0
    · have notEmpty : others ≠ [] := by
        rintro rfl
        have final_eq := isSpelled.bracketDepth_eq
        rw [bracketDepth, List.foldl_nil] at final_eq
        omega
      rw [spelledEnd, spelledEnd,
        if_pos ⟨List.append_ne_nil_of_right_ne_nil lexemes notEmpty, isClosed⟩,
        if_pos ⟨notEmpty, isClosed⟩]
    · rw [spelledEnd, spelledEnd, if_neg (fun hasEnd => isClosed hasEnd.2),
        if_neg (fun hasEnd => isClosed hasEnd.2)]
  have broken := SpellsLines.cons frontSpelled (.cons isSpelled (.nil final))
  rw [noEnd, List.append_nil, List.append_nil, ← List.append_assoc] at broken
  rw [sameEnd]
  exact broken

theorem exists_scannedLine {line : Line} {depth finalDepth : Nat} {front : List Lexeme}
    (isLine : IsLine line.characters)
    (scanned : scanLine line depth 0 line.characters = .ok (front, finalDepth)) :
    ∃ stop, ScannedLine line depth front finalDepth stop := by
  obtain ⟨depth_eq, stop, segments, stopsAt⟩ := segments_of_scanLine scanned rfl
  exact ⟨stop, isLine, segments, stopsAt, depth_eq⟩

/-- The lexemes of a text around one of its lines: those of the lines before it, its own,
and those of the lines behind it. -/
structure IsAround (depth : Nat) (before : List (List Char)) (line : Line)
    (behind : List (List Char)) (earlier front later : List Lexeme) (lineDepth finalDepth : Nat) :
    Prop where
  isLine : IsLine line.characters
  earlierLines : ∀ lexeme ∈ earlier, lexeme.location.line < line.number
  laterLines : ∀ lexeme ∈ later, line.number < lexeme.location.line
  earlierDepth : bracketDepth depth earlier = lineDepth
  earlierSpelled : SpellsLines depth before (earlier.map Lexeme.placeless) lineDepth
  scanned : scanLine line lineDepth 0 line.characters = .ok (front, finalDepth)
  laterScanned : scanLines (line.number + 1) finalDepth behind = .ok later

theorem exists_isAround_of_scanLines {before behind : List (List Char)} {characters : List Char}
    {first depth : Nat} {lexemes : List Lexeme}
    (areLines : ∀ line ∈ before ++ characters :: behind, IsLine line)
    (scanned : scanLines first depth (before ++ characters :: behind) = .ok lexemes) :
    ∃ line earlier front later lineDepth finalDepth,
      line = ⟨first + before.length, characters⟩ ∧
      lexemes = earlier ++ (front ++ lineEnd line front finalDepth ++ later) ∧
      IsAround depth before line behind earlier front later lineDepth finalDepth := by
  induction before generalizing first depth lexemes with
  | nil =>
      obtain ⟨isLine, behindAreLines⟩ := List.forall_mem_cons.mp areLines
      obtain ⟨front, finalDepth, later, frontScanned, laterScanned, rfl⟩ :=
        cases_of_scanLines scanned
      obtain ⟨inner, rfl, faithful⟩ := faithful_of_scanLines behindAreLines laterScanned
      refine ⟨⟨first, characters⟩, [], front, _, depth, finalDepth, rfl, rfl, isLine, nofun, ?_,
        rfl, .nil depth, frontScanned, laterScanned⟩
      refine List.forall_mem_append.mpr ⟨faithful.le_line, List.forall_mem_singleton.mpr ?_⟩
      simp only [Lexeme.finish]
      omega
  | cons firstLine others inductionHypothesis =>
      obtain ⟨isLine, othersAreLines⟩ := List.forall_mem_cons.mp areLines
      obtain ⟨firstFront, middle, rest, firstScanned, restScanned, rfl⟩ :=
        cases_of_scanLines scanned
      obtain ⟨stop, scannedLine⟩ := exists_scannedLine isLine firstScanned
      obtain ⟨line, earlier, front, later, lineDepth, finalDepth, line_eq, rfl, around⟩ :=
        inductionHypothesis othersAreLines restScanned
      have number_eq : first + (firstLine :: others).length = first + 1 + others.length := by
        rw [List.length_cons]
        omega
      refine ⟨line, firstFront ++ lineEnd ⟨first, firstLine⟩ firstFront middle ++ earlier, front,
        later, lineDepth, finalDepth, number_eq ▸ line_eq, (List.append_assoc ..).symm,
        { around with
          earlierLines := ?_
          earlierDepth := ?_
          earlierSpelled := ?_ }⟩
      · refine List.forall_mem_append.mpr ⟨?_, around.earlierLines⟩
        intro lexeme isLexeme
        have onFirst := scannedLine.line_eq lexeme isLexeme
        rw [line_eq]
        simp only at onFirst ⊢
        omega
      · rw [bracketDepth_append, scannedLine.bracketDepth_eq]
        exact around.earlierDepth
      · rw [List.map_append, List.map_append, map_placeless_lineEnd]
        exact .cons (spells_of_scanLine firstScanned) around.earlierSpelled

section Around

variable {depth lineDepth finalDepth column : Nat} {before behind : List (List Char)}
  {line : Line} {earlier front others later : List Lexeme}

/-- At a place where a line may be broken there is a gap between its lexemes. -/
theorem IsAround.isGapAt
    (around : IsAround depth before line behind earlier front later lineDepth finalDepth)
    (breakable : IsBreakable (earlier ++ (front ++ lineEnd line front finalDepth ++ later)) line
      column) : IsGapAt line 0 column front := by
  obtain ⟨stop, scannedLine⟩ := exists_scannedLine around.isLine around.scanned
  constructor
  · intro lexeme inFront
    refine breakable.outsideLexemes lexeme ?_ (scannedLine.segments.stretch lexeme inFront).1
    exact List.mem_append_right _ (List.mem_append_left _ (List.mem_append_left _ inFront))
  · intro mark _ toColumn isMark
    apply Classical.byContradiction
    intro noneBehind
    refine breakable.outsideComments mark toColumn ⟨isMark, ?_⟩
    intro lexeme isLexeme onLine notNewline
    apply Nat.le_of_not_lt
    intro reaches
    rcases List.mem_append.mp isLexeme with isEarlier | isLexeme
    · have before := around.earlierLines lexeme isEarlier
      omega
    · rcases List.mem_append.mp isLexeme with isLexeme | isLater
      · rcases List.mem_append.mp isLexeme with inFront | isEnd
        · exact noneBehind ⟨lexeme, inFront, reaches⟩
        · rw [(mem_lineEnd_iff.mp isEnd).1] at notNewline
          exact notNewline rfl
      · have behind := around.laterLines lexeme isLater
        omega

theorem not_before_of_reaches {lexeme : Lexeme} (notEarlier : line.number ≤ lexeme.location.line)
    (reaches : lexeme.location.line = line.number → column < lexeme.location.endColumn) :
    ¬decide (lexeme.location.Before (line.locate column (column + 1))) = true := by
  intro isBefore
  rcases of_decide_eq_true isBefore with isEarlier | ⟨onLine, endsBefore⟩
  · exact Nat.not_lt_of_le notEarlier isEarlier
  · exact Nat.not_lt_of_le endsBefore (reaches onLine)

/-- The lexemes before a place of a line are those of the lines before it, and of its own
those that end before the place. -/
theorem IsAround.filter_before
    (around :
      IsAround depth before line behind earlier (front ++ others) later lineDepth finalDepth)
    (inLine : column < line.characters.length)
    (isBefore : ∀ lexeme ∈ front, lexeme.location.endColumn ≤ column)
    (isBeyond : ∀ lexeme ∈ others, column < lexeme.location.endColumn) :
    (earlier ++ ((front ++ others) ++ lineEnd line (front ++ others) finalDepth ++ later)).filter
        (·.location.Before (line.locate column (column + 1))) = earlier ++ front := by
  obtain ⟨stop, scannedLine⟩ := exists_scannedLine around.isLine around.scanned
  have keepsEarlier : earlier.filter (·.location.Before (line.locate column (column + 1))) =
      earlier := by
    apply List.filter_eq_self.mpr
    intro lexeme isEarlier
    exact decide_eq_true (.inl (around.earlierLines lexeme isEarlier))
  have keepsFront : front.filter (·.location.Before (line.locate column (column + 1))) =
      front := by
    apply List.filter_eq_self.mpr
    intro lexeme inFront
    have onLine := scannedLine.line_eq lexeme
      (List.mem_append_left _ (List.mem_append_left _ inFront))
    exact decide_eq_true (.inr ⟨onLine, isBefore lexeme inFront⟩)
  have dropsOthers : (others ++ (lineEnd line (front ++ others) finalDepth ++ later)).filter
      (·.location.Before (line.locate column (column + 1))) = [] := by
    apply List.filter_eq_nil_iff.mpr
    refine List.forall_mem_append.mpr ⟨?_, List.forall_mem_append.mpr ⟨?_, ?_⟩⟩
    · intro lexeme isOther
      have onLine := scannedLine.line_eq lexeme
        (List.mem_append_left _ (List.mem_append_right _ isOther))
      exact not_before_of_reaches (Nat.le_of_eq onLine.symm) fun _ => isBeyond lexeme isOther
    · intro lexeme isEnd
      rw [(mem_lineEnd_iff.mp isEnd).1]
      exact not_before_of_reaches (Nat.le_refl _) fun _ => inLine
    · intro lexeme isLater
      have isBehind := around.laterLines lexeme isLater
      exact not_before_of_reaches (Nat.le_of_lt isBehind) fun onLine => by omega
  rw [List.filter_append, List.append_assoc, List.append_assoc, List.filter_append, keepsEarlier,
    keepsFront, dropsOthers, List.append_nil]

/-- A text with one of its lines broken has the same lexemes as before, up to their
places. -/
theorem IsAround.spellsLines_broken {characters back : List Char} {blank : Char}
    (around : IsAround 0 before line behind earlier front later lineDepth finalDepth)
    (breakable : IsBreakable (earlier ++ (front ++ lineEnd line front finalDepth ++ later)) line
      characters.length)
    (line_eq : line.characters = characters ++ blank :: back) (isBlank : isBlank blank = true)
    (notBreak : blank ≠ '\n') :
    ∃ inner final, (earlier ++ (front ++ lineEnd line front finalDepth ++ later)).map
        Lexeme.placeless = inner ++ [Lexeme.finish 0] ∧
      SpellsLines 0 (before ++ (characters ++ ['\n']) :: back :: behind) inner final := by
  have gap := around.isGapAt breakable
  rw [← Nat.zero_add characters.length] at gap
  obtain ⟨parts, others, middle, rfl, isBefore, isBeyond, laidOut, isSpelled⟩ :=
    isParted_of_scanLine around.scanned rfl around.isLine line_eq isBlank notBreak gap
  rw [Nat.zero_add] at isBefore isBeyond
  have inLine : characters.length < line.characters.length := by
    rw [line_eq, List.length_append, List.length_cons]
    omega
  have isOpen : 1 ≤ middle := by
    have inside := breakable.insideBrackets
    rw [around.filter_before inLine isBefore isBeyond, bracketDepth_append, around.earlierDepth,
      ← bracketDepth_placeless, ← laidOut.bracketDepth_eq] at inside
    exact inside
  obtain ⟨inner, final, later_eq, laterSpelled⟩ := spellsLines_of_scanLines around.laterScanned
  have broken := GrammarText.spellsLines_broken laidOut isOpen isSpelled
  refine ⟨_, final, ?_, around.earlierSpelled.append (broken.append laterSpelled)⟩
  rw [List.map_append, List.map_append, List.map_append, map_placeless_lineEnd, later_eq,
    List.map_append]
  simp only [List.append_assoc]

end Around

/-! ## Any number of edits -/

theorem isLine_of_broken {front back : List Char} {blank : Char}
    (isLine : IsLine (front ++ blank :: back)) (notBreak : blank ≠ '\n') :
    IsLine (front ++ ['\n']) ∧ IsLine back := by
  obtain ⟨inner, noBreak, whole⟩ := isLine
  rcases List.append_eq_append_iff.mp whole with ⟨more, rfl, rest_eq⟩ | ⟨more, rfl, rest_eq⟩
  · cases more with
    | nil => exact absurd (List.cons.inj rest_eq).1 notBreak
    | cons first others =>
        obtain ⟨rfl, rfl⟩ := List.cons.inj rest_eq
        obtain ⟨frontNoBreak, othersNoBreak⟩ := not_or.mp (mt List.mem_append.mpr noBreak)
        exact ⟨⟨front, frontNoBreak, rfl⟩,
          ⟨others, fun isBreak => othersNoBreak (.tail _ isBreak), rfl⟩⟩
  · cases more with
    | nil => exact absurd (List.cons.inj rest_eq).1.symm notBreak
    | cons first others =>
        have nothing := (List.cons.inj rest_eq).2
        exact absurd nothing.symm (List.append_ne_nil_of_right_ne_nil others nofun)

/-- The lines of a text, with one of them broken, are the edited text. -/
theorem flatten_broken {text rest : List Char} {before behind : List (List Char)}
    {front back : List Char} {blank : Char}
    (isLines : IsLines text (before ++ (front ++ blank :: back) :: behind))
    (text_eq : text = before.flatten ++ front ++ blank :: rest) :
    (before ++ (front ++ ['\n']) :: back :: behind).flatten =
        before.flatten ++ front ++ '\n' :: rest ∨
      (before ++ (front ++ ['\n']) :: back :: behind).flatten =
        before.flatten ++ front ++ '\n' :: rest ++ ['\n'] := by
  have whole : (before ++ (front ++ blank :: back) :: behind).flatten =
      before.flatten ++ front ++ blank :: (back ++ behind.flatten) := by
    simp only [List.flatten_append, List.flatten_cons, List.append_assoc, List.cons_append]
  have broken : (before ++ (front ++ ['\n']) :: back :: behind).flatten =
      before.flatten ++ front ++ '\n' :: (back ++ behind.flatten) := by
    simp only [List.flatten_append, List.flatten_cons, List.append_assoc, List.cons_append,
      List.nil_append]
  rw [broken]
  rcases isLines.joined with joined | ⟨_, _, joined⟩
  · rw [whole, text_eq] at joined
    have rest_eq := (List.cons.inj (List.append_cancel_left joined)).2
    exact .inl (rest_eq ▸ rfl)
  · rw [whole, text_eq, List.append_assoc (before.flatten ++ front)] at joined
    have rest_eq := (List.cons.inj (List.append_cancel_left joined)).2
    right
    rw [rest_eq, List.append_assoc (before.flatten ++ front)]
    rfl

/-- An edit keeps the lexemes of a text, up to their places. -/
theorem exists_scan_of_edit {source edited : String} {lexemes : List Lexeme}
    (edit : LayoutEdit source edited) (scanned : scan source = .ok lexemes) :
    ∃ others, scan edited = .ok others ∧
      others.map Lexeme.placeless = lexemes.map Lexeme.placeless := by
  cases edit with
  | insertLine isFiller isLines editedLines =>
      obtain ⟨inner, final, spelling, areSpelled⟩ := exists_spellsLines_of_scan isLines scanned
      rw [spelling]
      exact editedLines.exists_scan (areSpelled.insert isFiller)
  | extendLine isFiller isLines editedLines =>
      obtain ⟨inner, final, spelling, areSpelled⟩ := exists_spellsLines_of_scan isLines scanned
      have noBreak := not_mem_of_isLine_concat
        (isLines.isLine _ (List.mem_append_right _ (.head _)))
      rw [spelling]
      exact editedLines.exists_scan (areSpelled.extend noBreak isFiller)
  | @breakLine found before behind front back rest blank foundScanned isBlank isLines breakable
      source_eq edited_eq =>
      rw [scanned] at foundScanned
      cases foundScanned
      by_cases isBreak : blank = '\n'
      · have same : edited = source :=
          String.toList_inj.mp (edited_eq.trans (isBreak ▸ source_eq.symm))
        exact ⟨lexemes, same ▸ scanned, rfl⟩
      · obtain ⟨beforeAreLines, restAreLines⟩ := List.forall_mem_append.mp isLines.isLine
        obtain ⟨isLine, behindAreLines⟩ := List.forall_mem_cons.mp restAreLines
        obtain ⟨isFirst, isSecond⟩ := isLine_of_broken isLine isBreak
        have areLines : ∀ characters ∈ before ++ (front ++ ['\n']) :: back :: behind,
            IsLine characters :=
          List.forall_mem_append.mpr ⟨beforeAreLines, List.forall_mem_cons.mpr
            ⟨isFirst, List.forall_mem_cons.mpr ⟨isSecond, behindAreLines⟩⟩⟩
        have linesScanned :
            scanLines 1 0 (before ++ (front ++ blank :: back) :: behind) = .ok lexemes := by
          rw [isLines.eq_splitLines]
          exact scanned
        obtain ⟨line, earlier, onLine, later, lineDepth, finalDepth, rfl, rfl, around⟩ :=
          exists_isAround_of_scanLines isLines.isLine linesScanned
        obtain ⟨inner, final, spelling, areSpelled⟩ :=
          around.spellsLines_broken breakable rfl isBlank isBreak
        have joined := flatten_broken isLines source_eq
        rw [← edited_eq] at joined
        rw [spelling]
        exact exists_scan_of_spellsLines areLines joined areSpelled

theorem exists_scan_of_edits {source edited : String} {lexemes : List Lexeme}
    (edits : Relation.ReflTransGen LayoutEdit source edited) (scanned : scan source = .ok lexemes) :
    ∃ others, scan edited = .ok others ∧
      others.map Lexeme.placeless = lexemes.map Lexeme.placeless := by
  induction edits with
  | refl => exact ⟨lexemes, scanned, rfl⟩
  | tail _ edit inductionHypothesis =>
      obtain ⟨others, othersScanned, same⟩ := inductionHypothesis
      obtain ⟨found, foundScanned, sameAgain⟩ := exists_scan_of_edit edit othersScanned
      exact ⟨found, foundScanned, sameAgain.trans same⟩

/-- No number of edits changes what a text is compiled to: the lexemes are the same up to
their places, and so are the grammar and the error. -/
theorem compile_ignores_layout {source edited : String} {lexemes : List Lexeme}
    (scanned : scan source = .ok lexemes)
    (edits : Relation.ReflTransGen LayoutEdit source edited) :
    (∃ others, scan edited = .ok others ∧
      others.map Lexeme.placeless = lexemes.map Lexeme.placeless) ∧
    ∀ vocabulary start policy,
      (Grammar.compile edited vocabulary start policy).mapError CompileFailure.placeless =
        (Grammar.compile source vocabulary start policy).mapError CompileFailure.placeless := by
  obtain ⟨others, othersScanned, same⟩ := exists_scan_of_edits edits scanned
  refine ⟨⟨others, othersScanned, same⟩, ?_⟩
  intro vocabulary start policy
  exact Grammar.compile_eq_of_placeless_eq vocabulary scanned othersScanned same start policy

/-- A rule with brackets on one line. -/
def flatText : String := "a: (NAME NUMBER)"

/-- The same rule with its line broken inside the brackets, a comment behind the first
line and a line with nothing but a comment before the second. -/
def spreadText : String := "a: (NAME # one\n\t# two\nNUMBER)"

theorem isLines_of_splitLines {text : List Char} {lines : List (List Char)}
    (split : splitLines text = lines) : IsLines text lines :=
  split ▸ isLines_splitLines text

/-- The only opening bracket stands at the fourth column, the blank behind `NAME` at the
ninth. -/
theorem isBreakable_flatText {lexemes : List Lexeme} (scanned : scan flatText = .ok lexemes) :
    IsBreakable lexemes ⟨1, flatText.toList ++ ['\n']⟩ 8 := by
  have places : (scan flatText).map (List.map fun lexeme =>
      (lexeme.location.line, lexeme.location.startColumn, lexeme.location.endColumn)) =
      .ok [(1, 0, 1), (1, 1, 2), (1, 3, 4), (1, 4, 8), (1, 9, 15), (1, 15, 16), (1, 16, 17),
        (2, 0, 0)] := by
    decide +kernel
  have depth : (scan flatText).map (fun lexemes => bracketDepth 0 (lexemes.filter
      (·.location.Before ((Line.mk 1 (flatText.toList ++ ['\n'])).locate 8 9)))) = .ok 1 := by
    decide +kernel
  rw [scanned] at places depth
  refine ⟨?_, ?_, Nat.le_of_eq (Except.ok.inj depth).symm⟩
  · intro lexeme isLexeme _ covers
    have isPlace := List.mem_map_of_mem (f := fun lexeme : Lexeme =>
      (lexeme.location.line, lexeme.location.startColumn, lexeme.location.endColumn)) isLexeme
    rw [Except.ok.inj places] at isPlace
    obtain ⟨fromStart, toEnd⟩ := covers
    simp only [List.mem_cons, Prod.mk.injEq, List.not_mem_nil, or_false] at isPlace
    omega
  · intro mark _ isComment
    exact absurd (List.mem_of_getElem? isComment.1) (by decide +kernel)

/-- A blank character and a comment may fill a line. -/
theorem isFiller_of_head? {blank : Char} {characters comment : List Char}
    (oneLine : '\n' ∉ characters) (split : characters = blank :: comment)
    (isBlank : isBlank blank = true) (isComment : comment.head? = some '#') :
    IsFiller characters := by
  refine ⟨oneLine, [blank], comment, split, List.forall_mem_singleton.mpr isBlank, ?_⟩
  intro first isFirst
  rw [isComment] at isFirst
  exact (Option.some.inj isFirst).symm

theorem edits_flatText : Relation.ReflTransGen LayoutEdit flatText spreadText := by
  obtain ⟨lexemes, scanned⟩ : ∃ lexemes, scan flatText = .ok lexemes :=
    Grammar.exists_ok_of_isOk (by decide +kernel)
  have flatLines : IsLines flatText.toList
      ([] ++ ("a: (NAME".toList ++ ' ' :: "NUMBER)\n".toList) :: []) :=
    isLines_of_splitLines (by decide +kernel)
  have broken : LayoutEdit flatText "a: (NAME\nNUMBER)" :=
    .breakLine scanned (by decide) flatLines (isBreakable_flatText scanned)
      (by decide +kernel : flatText.toList = "a: (NAME".toList ++ ' ' :: "NUMBER)".toList)
      (by decide +kernel)
  have brokenLines : IsLines "a: (NAME\nNUMBER)".toList
      ([] ++ ("a: (NAME".toList ++ ['\n']) :: ["NUMBER)\n".toList]) :=
    isLines_of_splitLines (by decide +kernel)
  have extendedLines : IsLines "a: (NAME # one\nNUMBER)".toList
      ([] ++ ("a: (NAME".toList ++ " # one".toList ++ ['\n']) :: ["NUMBER)\n".toList]) :=
    isLines_of_splitLines (by decide +kernel)
  have extended : LayoutEdit "a: (NAME\nNUMBER)" "a: (NAME # one\nNUMBER)" :=
    .extendLine
      (isFiller_of_head? (by decide) (rfl : " # one".toList = ' ' :: "# one".toList) (by decide)
        (by decide +kernel))
      brokenLines extendedLines
  have sameLines : IsLines "a: (NAME # one\nNUMBER)".toList
      (["a: (NAME # one\n".toList] ++ ["NUMBER)\n".toList]) :=
    isLines_of_splitLines (by decide +kernel)
  have spreadLines : IsLines spreadText.toList (["a: (NAME # one\n".toList] ++
      ("\t# two".toList ++ ['\n']) :: ["NUMBER)\n".toList]) :=
    isLines_of_splitLines (by decide +kernel)
  have inserted : LayoutEdit "a: (NAME # one\nNUMBER)" spreadText :=
    .insertLine
      (isFiller_of_head? (by decide) (rfl : "\t# two".toList = '\t' :: "# two".toList) (by decide)
        (by decide +kernel))
      sameLines spreadLines
  exact ((Relation.ReflTransGen.single broken).tail extended).tail inserted

theorem compile_ignores_layout_spreadText :
    ∃ grammar, Grammar.compile flatText .mini none .reject = .ok grammar ∧
      Grammar.compile spreadText .mini none .reject = .ok grammar := by
  obtain ⟨lexemes, scanned⟩ : ∃ lexemes, scan flatText = .ok lexemes :=
    Grammar.exists_ok_of_isOk (by decide +kernel)
  obtain ⟨grammar, compiled⟩ :
      ∃ grammar, Grammar.compile flatText .mini none .reject = .ok grammar :=
    Grammar.exists_ok_of_isOk (by decide +kernel)
  have same := (compile_ignores_layout scanned edits_flatText).2 .mini none .reject
  rw [compiled] at same
  rcases cases_of_mapError_eq same with ⟨other, other_eq, isGrammar⟩ | ⟨_, _, _, failed, _⟩
  · cases isGrammar
    exact ⟨grammar, compiled, other_eq⟩
  · cases failed

end GrammarText

end RuleMachine
