import RuleMachine.Grammar.Compile
import RuleMachine.Proofs.RuleText

/-!
# Checked operations, and reading grammar text

Some operations have no result for some operands: there is nothing at a place outside
a list, a difference may lie below zero, an assertion may not hold.  The functions of
the program leave no gaps for these operands, since they give something arbitrary
there.  The functions of the namespace `Checked` do what their namesakes do, but they
stop at the first operation that has no result, and a search must not be cut short by
its bound.  So if both give the same, no such operation was met.

Reading grammar text is the first part of the program.  A lexeme is a stretch of its
line, a line is not empty, there is a last lexeme to look at, and the quotes of a
quoted term can be cut off.
-/

namespace RuleMachine

/-- Why an operation has no result. -/
inductive Gap where
  /-- A place outside a list or inside a character. -/
  | index
  /-- A difference below zero. -/
  | subtraction
  /-- An assertion that does not hold. -/
  | assertion
  /-- A subtree for a token. -/
  | leafChild
  /-- A search that its bound cuts short. -/
  | bound
  deriving DecidableEq, Repr

namespace Checked

/-- Go on with what a step gives, unless there was a gap or the step failed. -/
def andThen {Failure First Second : Type} (step : Except Gap (Except Failure First))
    (next : First → Except Gap (Except Failure Second)) : Except Gap (Except Failure Second) :=
  match step with
  | .error gap => .error gap
  | .ok (.error failure) => .ok (.error failure)
  | .ok (.ok value) => next value

@[simp]
theorem andThen_ok {Failure First Second : Type} (value : First)
    (next : First → Except Gap (Except Failure Second)) :
    andThen (.ok (.ok value)) next = next value :=
  rfl

@[simp]
theorem andThen_failed {Failure First Second : Type} (failure : Failure)
    (next : First → Except Gap (Except Failure Second)) :
    andThen (.ok (.error failure)) next = .ok (.error failure) :=
  rfl

end Checked

namespace GrammarText

/-! ## Lexemes -/

theorem QuotedExtent.closed_of_after {extent : QuotedExtent} {count length : Nat}
    (isClosed : extent.after count = .closed length) :
    ∃ inner, extent = .closed inner ∧ length = count + inner := by
  cases extent with
  | closed inner => exact ⟨inner, rfl, (QuotedExtent.closed.inj isClosed).symm⟩
  | unclosed inner => cases isClosed

/-- What may stand between two quotes.  A backslash takes the character behind it along. -/
inductive QuotedBody (quote : Char) : List Char → Prop
  | nil : QuotedBody quote []
  | plain {character : Char} {later : List Char} :
      character ≠ quote → character ≠ '\\' → character ≠ '\n' → QuotedBody quote later →
      QuotedBody quote (character :: later)
  | escaped {character : Char} {later : List Char} :
      QuotedBody quote later → QuotedBody quote ('\\' :: character :: later)

/-- The spellings of each kind of lexeme. -/
inductive HasForm : LexemeKind → List Char → Prop
  | name {first : Char} {later : List Char} :
      isNameStart first = true → (∀ character ∈ later, isNamePart character = true) →
      HasForm .name (first :: later)
  | quoted {quote : Char} {body : List Char} :
      isQuote quote = true → QuotedBody quote body → HasForm .quoted (quote :: body ++ [quote])
  | operator {character : Char} : character ∈ operators → HasForm .operator [character]
  | newline : HasForm .newline ['\n']

/-- A closing quote is found among the characters behind the opening one. -/
theorem exists_of_quotedExtent {quote : Char} {characters : List Char} {length : Nat}
    (isClosed : quotedExtent quote characters = .closed length) :
    length ≤ characters.length ∧
      ∃ body, QuotedBody quote body ∧ characters.take length = body ++ [quote] := by
  fun_induction quotedExtent quote characters generalizing length with
  | case1 | case3 | case5 => cases isClosed
  | case2 later =>
      cases isClosed
      exact ⟨Nat.succ_le_succ (Nat.zero_le _), [], .nil, rfl⟩
  | case4 escaped further _ inductionHypothesis =>
      obtain ⟨innerLength, innerClosed, rfl⟩ := QuotedExtent.closed_of_after isClosed
      obtain ⟨inRange, body, isBody, taken⟩ := inductionHypothesis innerClosed
      refine ⟨by simp only [List.length_cons]; omega, '\\' :: escaped :: body,
        .escaped isBody, ?_⟩
      rw [Nat.add_comm, List.take_succ_cons, List.take_succ_cons, taken]
      rfl
  | case6 character later notQuote notBackslash notBreak inductionHypothesis =>
      obtain ⟨innerLength, innerClosed, rfl⟩ := QuotedExtent.closed_of_after isClosed
      obtain ⟨inRange, body, isBody, taken⟩ := inductionHypothesis innerClosed
      refine ⟨by simp only [List.length_cons]; omega, character :: body,
        .plain notQuote notBackslash notBreak isBody, ?_⟩
      rw [Nat.add_comm, List.take_succ_cons, taken]
      rfl

/-- A lexeme lies in its line and has the form of its kind.  Line ends are no part of it. -/
theorem lexemeAt_spec {first : Char} {later : List Char} {kind : LexemeKind} {more : Nat}
    (isLexeme : lexemeAt first later = .ok (kind, more)) :
    more ≤ later.length ∧ HasForm kind (first :: later.take more) ∧ kind ≠ .newline := by
  unfold lexemeAt at isLexeme
  by_cases starts : isNameStart first = true
  · rw [if_pos starts] at isLexeme
    cases isLexeme
    refine ⟨(List.takeWhile_prefix _).length_le, .name starts ?_, by decide⟩
    rw [← List.prefix_iff_eq_take.mp (List.takeWhile_prefix _)]
    exact List.all_eq_true.mp List.all_takeWhile
  · rw [if_neg starts] at isLexeme
    by_cases opens : isQuote first = true
    · rw [if_pos opens] at isLexeme
      cases extent_eq : quotedExtent first later with
      | closed length =>
          rw [extent_eq] at isLexeme
          cases isLexeme
          obtain ⟨inRange, body, isBody, taken⟩ := exists_of_quotedExtent extent_eq
          rw [taken]
          exact ⟨inRange, .quoted opens isBody, by decide⟩
      | unclosed length =>
          rw [extent_eq] at isLexeme
          cases isLexeme
    · rw [if_neg opens] at isLexeme
      by_cases isOperator : first ∈ operators
      · rw [if_pos isOperator] at isLexeme
        cases isLexeme
        exact ⟨Nat.zero_le _, .operator isOperator, by decide⟩
      · rw [if_neg isOperator] at isLexeme
        cases isLexeme

/-- A text begins with a quote and ends with the same quote. -/
def IsEnclosed (text : String) : Prop :=
  ∃ quote inner, isQuote quote = true ∧ text.toList = quote :: inner ++ [quote]

theorem HasForm.isEnclosed {kind : LexemeKind} {characters : List Char}
    (hasForm : HasForm kind characters) (isQuoted : kind = .quoted) :
    IsEnclosed (String.ofList characters) := by
  subst isQuoted
  cases hasForm with
  | quoted opens _ => exact ⟨_, _, opens, String.toList_ofList⟩

theorem ne_nil_of_mem_splitLines {characters line : List Char}
    (isLine : line ∈ splitLines characters) : line ≠ [] := by
  fun_induction splitLines characters generalizing line with
  | case1 => cases isLine
  | case2 later inductionHypothesis =>
      rcases List.mem_cons.mp isLine with rfl | inLater
      · exact List.cons_ne_nil _ _
      · exact inductionHypothesis inLater
  | case3 character later _ _ _ =>
      rw [List.mem_singleton.mp isLine]
      exact List.cons_ne_nil _ _
  | case4 character later _ front lines split_eq inductionHypothesis =>
      rcases List.mem_cons.mp isLine with rfl | inLater
      · exact List.cons_ne_nil _ _
      · exact inductionHypothesis (split_eq ▸ .tail front inLater)

end GrammarText

namespace Checked

open GrammarText

/-! ## Scanning -/

/-- The lexemes of a line from a column on.  A lexeme must not reach beyond its line. -/
def scanLine (line : Line) (depth column : Nat) (characters : List Char) :
    Except Gap (Except GrammarError (List Lexeme × Nat)) :=
  match characters with
  | [] => .ok (.ok ([], depth))
  | first :: later =>
      if first = '\n' ∨ first = '#' then
        .ok (.ok ([], depth))
      else if Text.isBlank first then
        scanLine line depth (column + 1) later
      else
        match lexemeAt first later with
        | .error (reason, length) =>
            .ok (.error (.placed (.malformed reason) (line.locate column (column + length))))
        | .ok (kind, more) =>
            if later.length < more then
              .error .index
            else
              andThen (scanLine line (depthAfter depth first) (column + 1 + more)
                (later.drop more)) fun (lexemes, finalDepth) =>
                let lexeme : Lexeme :=
                  { kind
                    text := String.ofList (first :: later.take more)
                    location := line.locate column (column + 1 + more) }
                .ok (.ok (lexeme :: lexemes, finalDepth))
termination_by characters.length
decreasing_by
  all_goals simp only [List.length_cons, List.length_drop]; omega

theorem scanLine_eq (line : Line) (depth column : Nat) (characters : List Char) :
    scanLine line depth column characters =
      .ok (GrammarText.scanLine line depth column characters) := by
  fun_induction GrammarText.scanLine line depth column characters with
  | case1 depth column => rw [scanLine]
  | case2 depth column first later isEnd => rw [scanLine, if_pos isEnd]
  | case3 depth column first later notEnd isBlank inductionHypothesis =>
      rw [scanLine, if_neg notEnd, if_pos isBlank, inductionHypothesis]
  | case4 depth column first later notEnd notBlank reason length isError =>
      rw [scanLine, if_neg notEnd, if_neg notBlank, isError]
  | case5 depth column first later notEnd notBlank kind more isLexeme error failed
      inductionHypothesis =>
      have inRange := Nat.not_lt.mpr (lexemeAt_spec isLexeme).1
      rw [scanLine, if_neg notEnd, if_neg notBlank, isLexeme]
      simp only [if_neg inRange, inductionHypothesis, failed, andThen_failed]
  | case6 depth column first later notEnd notBlank kind more isLexeme lexemes finalDepth scanned
      lexeme inductionHypothesis =>
      have inRange := Nat.not_lt.mpr (lexemeAt_spec isLexeme).1
      rw [scanLine, if_neg notEnd, if_neg notBlank, isLexeme]
      simp only [if_neg inRange, inductionHypothesis, scanned, andThen_ok, lexeme]

/-- The lexemes of lines.  The line break that ends a line is its last character. -/
def scanLines (number depth : Nat) :
    List (List Char) → Except Gap (Except GrammarError (List Lexeme))
  | [] => .ok (.ok [Lexeme.finish number])
  | characters :: later =>
      let line : Line := { number, characters }
      andThen (scanLine line depth 0 characters) fun (lexemes, finalDepth) =>
        andThen (scanLines (number + 1) finalDepth later) fun laterLexemes =>
          if lexemes ≠ [] ∧ finalDepth = 0 then
            if characters.length < 1 then
              .error .subtraction
            else
              .ok (.ok (lexemes ++ line.newline :: laterLexemes))
          else
            .ok (.ok (lexemes ++ laterLexemes))

theorem scanLines_eq {number depth : Nat} {lines : List (List Char)}
    (notEmpty : ∀ line ∈ lines, line ≠ []) :
    scanLines number depth lines = .ok (GrammarText.scanLines number depth lines) := by
  induction lines generalizing number depth with
  | nil => rfl
  | cons characters later inductionHypothesis =>
      obtain ⟨frontNotEmpty, laterNotEmpty⟩ := List.forall_mem_cons.mp notEmpty
      have hasBreak : ¬characters.length < 1 :=
        Nat.not_lt.mpr (List.length_pos_iff.mpr frontNotEmpty)
      simp only [scanLines, GrammarText.scanLines, scanLine_eq, hasBreak, if_false]
      cases GrammarText.scanLine { number, characters } depth 0 characters with
      | error error => rfl
      | ok scanned =>
          simp only [andThen_ok, inductionHypothesis laterNotEmpty]
          cases GrammarText.scanLines (number + 1) scanned.2 later with
          | error error => rfl
          | ok laterLexemes =>
              simp only [andThen_ok]
              split
              · rfl
              · rfl

def scan (source : String) : Except Gap (Except GrammarError (List Lexeme)) :=
  scanLines 1 0 (splitLines source.toList)

theorem scan_eq (source : String) : scan source = .ok (GrammarText.scan source) :=
  scanLines_eq fun _ => ne_nil_of_mem_splitLines

/-- The rules of a grammar text.  There has to be a last lexeme, at which the reader stays
when it looks beyond it. -/
def readRules (source : String) : Except Gap (Except GrammarError (List Rule)) :=
  andThen (scan source) fun lexemes =>
    if lexemes.length < 1 then .error .subtraction else .ok (rulesOf lexemes)

end Checked

namespace GrammarText

theorem length_pos_of_scanLines {number depth : Nat} {lines : List (List Char)}
    {lexemes : List Lexeme} (scanned : scanLines number depth lines = .ok lexemes) :
    1 ≤ lexemes.length := by
  induction lines generalizing number depth lexemes with
  | nil =>
      cases scanned
      exact Nat.le_refl 1
  | cons characters later inductionHypothesis =>
      unfold scanLines at scanned
      simp only at scanned
      split at scanned
      · cases scanned
      · split at scanned
        · cases scanned
        · rename_i laterScanned
          have isLater := inductionHypothesis laterScanned
          split at scanned
          · cases scanned
            simp only [List.length_append, List.length_cons]
            omega
          · cases scanned
            simp only [List.length_append]
            omega

end GrammarText

theorem Checked.readRules_eq (source : String) :
    readRules source = .ok (GrammarText.readRules source) := by
  unfold readRules GrammarText.readRules
  rw [scan_eq]
  cases scanned : GrammarText.scan source with
  | error error => rfl
  | ok lexemes =>
      have hasLast := Nat.not_lt.mpr (GrammarText.length_pos_of_scanLines scanned)
      simp only [andThen_ok, hasLast, if_false]

/-! ## Quoted terms -/

/-- The quotes of a quoted lexeme enclose it. -/
def Lexeme.IsEnclosed (lexeme : Lexeme) : Prop :=
  lexeme.kind = .quoted → GrammarText.IsEnclosed lexeme.text

/-- The quotes of a quoted term enclose it. -/
def Term.IsEnclosed (term : Term) : Prop :=
  term.isQuoted = true → GrammarText.IsEnclosed term.text

namespace GrammarText

theorem isEnclosed_of_mem_scanLine {line : Line} {depth column : Nat} {characters : List Char}
    {lexemes : List Lexeme} {finalDepth : Nat}
    (scanned : scanLine line depth column characters = .ok (lexemes, finalDepth)) :
    ∀ lexeme ∈ lexemes, lexeme.IsEnclosed := by
  fun_induction scanLine line depth column characters generalizing lexemes finalDepth with
  | case1 | case2 =>
      cases scanned
      intro lexeme isLexeme
      cases isLexeme
  | case3 _ _ _ _ _ _ inductionHypothesis => exact inductionHypothesis scanned
  | case4 | case5 => cases scanned
  | case6 depth column first later _ _ kind more isLexeme others _ othersScanned lexeme =>
      rename_i inductionHypothesis
      cases scanned
      have hasForm := (lexemeAt_spec isLexeme).2.1
      exact List.forall_mem_cons.mpr ⟨hasForm.isEnclosed, inductionHypothesis othersScanned⟩

theorem isEnclosed_of_mem_scanLines {number depth : Nat} {lines : List (List Char)}
    {lexemes : List Lexeme} (scanned : scanLines number depth lines = .ok lexemes) :
    ∀ lexeme ∈ lexemes, lexeme.IsEnclosed := by
  induction lines generalizing number depth lexemes with
  | nil =>
      cases scanned
      intro lexeme isLexeme isQuoted
      rw [List.mem_singleton.mp isLexeme] at isQuoted
      cases isQuoted
  | cons characters later inductionHypothesis =>
      unfold scanLines at scanned
      simp only at scanned
      split at scanned
      · cases scanned
      · rename_i frontScanned
        have frontEnclosed := isEnclosed_of_mem_scanLine frontScanned
        split at scanned
        · cases scanned
        · rename_i laterScanned
          have laterEnclosed := inductionHypothesis laterScanned
          split at scanned
          · cases scanned
            have newlineEnclosed : (Line.newline ⟨number, characters⟩).IsEnclosed :=
              fun isQuoted => by cases isQuoted
            exact List.forall_mem_append.mpr ⟨frontEnclosed,
              List.forall_mem_cons.mpr ⟨newlineEnclosed, laterEnclosed⟩⟩
          · cases scanned
            exact List.forall_mem_append.mpr ⟨frontEnclosed, laterEnclosed⟩

/-- The terms of an expression and the lexemes behind it are enclosed. -/
def AreEnclosed (expression : Expr Term) (behind : List Lexeme) : Prop :=
  (∀ term ∈ expression.terms, term.IsEnclosed) ∧ ∀ lexeme ∈ behind, lexeme.IsEnclosed

mutual

theorem SpellsAlternatives.areEnclosed {text behind : List Lexeme} {expression : Expr Term}
    (enclosed : ∀ lexeme ∈ text, lexeme.IsEnclosed) :
    SpellsAlternatives text expression behind → AreEnclosed expression behind
  | .single items => items.areEnclosed enclosed
  | .bar items _ others => by
      obtain ⟨firstTerms, restEnclosed⟩ := items.areEnclosed enclosed
      obtain ⟨otherTerms, behindEnclosed⟩ :=
        others.areEnclosed (List.forall_mem_cons.mp restEnclosed).2
      exact ⟨List.forall_mem_append.mpr ⟨firstTerms, otherTerms⟩, behindEnclosed⟩

theorem SpellsItems.areEnclosed {text behind : List Lexeme} {expression : Expr Term}
    (enclosed : ∀ lexeme ∈ text, lexeme.IsEnclosed) :
    SpellsItems text expression behind → AreEnclosed expression behind
  | .single item => item.areEnclosed enclosed
  | .more item others => by
      obtain ⟨firstTerms, restEnclosed⟩ := item.areEnclosed enclosed
      obtain ⟨otherTerms, behindEnclosed⟩ := others.areEnclosed restEnclosed
      exact ⟨List.forall_mem_append.mpr ⟨firstTerms, otherTerms⟩, behindEnclosed⟩

theorem SpellsItem.areEnclosed {text behind : List Lexeme} {expression : Expr Term}
    (enclosed : ∀ lexeme ∈ text, lexeme.IsEnclosed) :
    SpellsItem text expression behind → AreEnclosed expression behind
  | .optional _ body _ => by
      obtain ⟨terms, restEnclosed⟩ := body.areEnclosed (List.forall_mem_cons.mp enclosed).2
      exact ⟨terms, (List.forall_mem_cons.mp restEnclosed).2⟩
  | .once atom => atom.areEnclosed enclosed
  | .plus atom _ => by
      obtain ⟨terms, restEnclosed⟩ := atom.areEnclosed enclosed
      exact ⟨terms, (List.forall_mem_cons.mp restEnclosed).2⟩
  | .star atom _ => by
      obtain ⟨terms, restEnclosed⟩ := atom.areEnclosed enclosed
      exact ⟨terms, (List.forall_mem_cons.mp restEnclosed).2⟩

theorem SpellsAtom.areEnclosed {text behind : List Lexeme} {expression : Expr Term}
    (enclosed : ∀ lexeme ∈ text, lexeme.IsEnclosed) :
    SpellsAtom text expression behind → AreEnclosed expression behind
  | .group _ body _ => by
      obtain ⟨terms, restEnclosed⟩ := body.areEnclosed (List.forall_mem_cons.mp enclosed).2
      exact ⟨terms, (List.forall_mem_cons.mp restEnclosed).2⟩
  | .name _ => by
      refine ⟨?_, (List.forall_mem_cons.mp enclosed).2⟩
      intro term isTerm isQuoted
      rw [List.mem_singleton.mp isTerm] at isQuoted
      cases isQuoted
  | .quoted isQuoted => by
      obtain ⟨frontEnclosed, behindEnclosed⟩ := List.forall_mem_cons.mp enclosed
      refine ⟨?_, behindEnclosed⟩
      intro term isTerm _
      rw [List.mem_singleton.mp isTerm]
      exact frontEnclosed isQuoted

end

theorem SpellsFile.areEnclosed {lexemes : List Lexeme} {rules : List Rule}
    (spelled : SpellsFile lexemes rules) (enclosed : ∀ lexeme ∈ lexemes, lexeme.IsEnclosed) :
    ∀ rule ∈ rules, ∀ term ∈ rule.body.terms, term.IsEnclosed := by
  induction spelled with
  | finish =>
      intro rule isRule
      cases isRule
  | newline _ _ inductionHypothesis =>
      exact inductionHypothesis (List.forall_mem_cons.mp enclosed).2
  | rule ruleSpelled _ inductionHypothesis =>
      cases ruleSpelled with
      | rule _ _ body _ =>
          obtain ⟨_, behindName⟩ := List.forall_mem_cons.mp enclosed
          obtain ⟨_, behindColon⟩ := List.forall_mem_cons.mp behindName
          obtain ⟨terms, restEnclosed⟩ := body.areEnclosed behindColon
          have others := inductionHypothesis (List.forall_mem_cons.mp restEnclosed).2
          exact List.forall_mem_cons.mpr ⟨terms, others⟩

theorem isEnclosed_of_readRules {source : String} {rules : List Rule}
    (read : readRules source = .ok rules) :
    ∀ rule ∈ rules, ∀ term ∈ rule.body.terms, term.IsEnclosed := by
  obtain ⟨lexemes, scanned, spelled⟩ := spells_of_readRules read
  exact spelled.areEnclosed (isEnclosed_of_mem_scanLines scanned)

/-! ## Names of rules -/

theorem nodup_names_of_readFile {calls : Nat} {earlier rules : List Rule}
    {lexemes : List Lexeme} (read : readFile calls earlier lexemes = .ok rules)
    (distinct : (earlier.map Rule.name).Nodup) : (rules.map Rule.name).Nodup := by
  induction calls generalizing earlier lexemes with
  | zero =>
      rw [readFile_zero] at read
      cases read
      exact distinct
  | succ calls inductionHypothesis =>
      rw [readFile_succ] at read
      split at read
      · cases read
        exact distinct
      · exact inductionHypothesis read distinct
      all_goals
        split at read
        · cases read
        · rename_i rule behind _
          split at read
          · cases read
          · rename_i isNew
            refine inductionHypothesis read ?_
            have fresh : rule.name ∉ earlier.map Rule.name := by
              intro isOld
              obtain ⟨other, isEarlier, sameName⟩ := List.mem_map.mp isOld
              exact isNew (List.any_eq_true.mpr ⟨other, isEarlier, beq_iff_eq.mpr sameName⟩)
            rw [List.map_append]
            refine List.nodup_append.mpr ⟨distinct, by simp, ?_⟩
            rintro name isOld other isOther rfl
            exact fresh (List.mem_singleton.mp isOther ▸ isOld)

/-- No two rules of a grammar text have the same name. -/
theorem nodup_names_of_readRules {source : String} {rules : List Rule}
    (read : readRules source = .ok rules) : (rules.map Rule.name).Nodup := by
  unfold readRules at read
  split at read
  · cases read
  · unfold rulesOf at read
    split at read
    · cases read
    · cases read
    · rename_i fileRead
      cases read
      exact nodup_names_of_readFile fileRead List.nodup_nil

end GrammarText

end RuleMachine
