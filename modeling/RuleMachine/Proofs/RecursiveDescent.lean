import RuleMachine.Proofs.LexemePlaces
import RuleMachine.Proofs.MetaGrammar

/-!
# Recursive descent

The reader decides by the lexeme in front how to go on.  Where lexemes spell alternatives
and the lexeme behind them cannot continue them, it reads exactly these alternatives: it
neither stops early nor takes a lexeme that belongs to what follows.  So grammar text is
accepted exactly if its lexemes are derived from the grammar of grammar texts, there is
a rule, and no two rules have the same name.

The bound on nested calls is never reached, also where the reader refuses: the functions
of the namespace `Checked` stop with a gap at their bound, and with four calls for each
lexeme and four more they give what their namesakes give.
-/

namespace RuleMachine

namespace GrammarText

/-! ## The lexeme behind -/

/-- A lexeme that does not continue an item: no repetition mark. -/
def EndsItem (lexeme : Lexeme) : Prop :=
  lexeme.isOperator "+" = false ∧ lexeme.isOperator "*" = false

/-- A lexeme that does not continue items. -/
def EndsItems (lexeme : Lexeme) : Prop :=
  EndsItem lexeme ∧ startsItem lexeme = false

/-- A lexeme that does not continue alternatives. -/
def EndsAlternatives (lexeme : Lexeme) : Prop :=
  EndsItems lexeme ∧ lexeme.isOperator "|" = false

theorem startsItem_iff {lexeme : Lexeme} :
    startsItem lexeme = true ↔ lexeme.kind = .name ∨ lexeme.kind = .quoted ∨
      lexeme.isOperator "(" = true ∨ lexeme.isOperator "[" = true := by
  unfold startsItem Lexeme.isOperator
  cases lexeme.kind <;> simp

theorem endsItem_of_kind {lexeme : Lexeme} (notOperator : lexeme.kind ≠ .operator) :
    EndsItem lexeme :=
  ⟨isOperator_eq_false_of_kind notOperator "+", isOperator_eq_false_of_kind notOperator "*"⟩

theorem endsItem_of_startsItem {lexeme : Lexeme} (starts : startsItem lexeme = true) :
    EndsItem lexeme := by
  rcases startsItem_iff.mp starts with isName | isQuoted | isGroup | isOptional
  · exact endsItem_of_kind (by rw [isName]; decide)
  · exact endsItem_of_kind (by rw [isQuoted]; decide)
  · exact ⟨isOperator_eq_false isGroup (by decide), isOperator_eq_false isGroup (by decide)⟩
  · exact ⟨isOperator_eq_false isOptional (by decide),
      isOperator_eq_false isOptional (by decide)⟩

/-- Operators other than repetition marks and opening brackets. -/
theorem endsItems_of_isOperator {lexeme : Lexeme} {spelling : String}
    (isOperator : lexeme.isOperator spelling = true)
    (isOther : spelling ∉ ["+", "*", "(", "["]) : EndsItems lexeme := by
  simp only [List.mem_cons, List.not_mem_nil, or_false, not_or] at isOther
  obtain ⟨notPlus, notStar, notGroup, notOptional⟩ := isOther
  refine ⟨⟨isOperator_eq_false isOperator notPlus, isOperator_eq_false isOperator notStar⟩, ?_⟩
  rw [Bool.eq_false_iff]
  intro starts
  have isKind : lexeme.kind = .operator := by
    simp only [Lexeme.isOperator, Bool.and_eq_true, beq_iff_eq] at isOperator
    exact isOperator.1
  rcases startsItem_iff.mp starts with isName | isQuoted | isGroup | isOptional
  · rw [isKind] at isName
    cases isName
  · rw [isKind] at isQuoted
    cases isQuoted
  · rw [isOperator_eq_false isOperator notGroup] at isGroup
    cases isGroup
  · rw [isOperator_eq_false isOperator notOptional] at isOptional
    cases isOptional

theorem endsAlternatives_of_newline {lexeme : Lexeme} (isNewline : lexeme.kind = .newline) :
    EndsAlternatives lexeme := by
  have notOperator : lexeme.kind ≠ .operator := by
    rw [isNewline]
    decide
  refine ⟨⟨endsItem_of_kind notOperator, ?_⟩, isOperator_eq_false_of_kind notOperator "|"⟩
  rw [startsItem, isNewline]

/-! ## The lexeme in front -/

@[simp]
theorem peek_cons (lexeme : Lexeme) (later : List Lexeme) : peek (lexeme :: later) = lexeme :=
  rfl

theorem expectKind_cons {wanted : LexemeKind} {lexeme : Lexeme} (behind : List Lexeme)
    (isKind : lexeme.kind = wanted) :
    expectKind wanted (lexeme :: behind) = .ok (lexeme, behind) :=
  if_pos isKind

theorem expectOperator_cons {wanted : String} {lexeme : Lexeme} (behind : List Lexeme)
    (isOperator : lexeme.isOperator wanted = true) :
    expectOperator wanted (lexeme :: behind) = .ok (lexeme, behind) := by
  simp only [Lexeme.isOperator, Bool.and_eq_true, beq_iff_eq] at isOperator
  obtain ⟨isKind, isWanted⟩ := isOperator
  simp only [expectOperator, peek_cons, isKind, isWanted, ne_eq, not_true_eq_false, if_false,
    List.tail_cons]

section Front

variable {text behind : List Lexeme} {expression : Expr Term}

theorem SpellsAtom.startsItem (spelled : SpellsAtom text expression behind) :
    startsItem (peek text) = true := by
  cases spelled with
  | group isOpening _ _ => exact startsItem_iff.mpr (.inr (.inr (.inl isOpening)))
  | name isName => exact startsItem_iff.mpr (.inl isName)
  | quoted isQuoted => exact startsItem_iff.mpr (.inr (.inl isQuoted))

theorem SpellsItem.startsItem (spelled : SpellsItem text expression behind) :
    startsItem (peek text) = true := by
  cases spelled with
  | optional isOpening _ _ => exact startsItem_iff.mpr (.inr (.inr (.inr isOpening)))
  | once atom => exact atom.startsItem
  | plus atom _ => exact atom.startsItem
  | star atom _ => exact atom.startsItem

theorem SpellsItems.startsItem (spelled : SpellsItems text expression behind) :
    startsItem (peek text) = true := by
  cases spelled with
  | single item => exact item.startsItem
  | more item _ => exact item.startsItem

/-- An atom is not mistaken for an optional part. -/
theorem SpellsAtom.isOperator_peek (spelled : SpellsAtom text expression behind) :
    (peek text).isOperator "[" = false := by
  cases spelled with
  | group isOpening _ _ => exact isOperator_eq_false isOpening (by decide)
  | name isName => exact isOperator_eq_false_of_kind (by rw [peek_cons, isName]; decide) "["
  | quoted isQuoted => exact isOperator_eq_false_of_kind (by rw [peek_cons, isQuoted]; decide) "["

end Front

/-! ## What is spelled is read -/

theorem readRepetition_eq {behind : List Lexeme} (atom : Expr Term)
    (ends : EndsItem (peek behind)) : readRepetition atom behind = (atom, behind) := by
  simp only [readRepetition, ends.1, ends.2, Bool.false_eq_true, if_false]

/-- A closing bracket ends the alternatives before it. -/
theorem endsAlternatives_of_isOperator {lexeme : Lexeme} {spelling : String}
    (isOperator : lexeme.isOperator spelling = true)
    (isOther : spelling ∉ ["+", "*", "(", "["]) (notBar : spelling ≠ "|") :
    EndsAlternatives lexeme :=
  ⟨endsItems_of_isOperator isOperator isOther, isOperator_eq_false isOperator notBar⟩

-- The recursion is on the spelling.  The number of calls falls by one where the same lexemes
-- are read on, and four are left over for each lexeme that was taken.
mutual

theorem SpellsAlternatives.read_eq {text behind : List Lexeme} {expression : Expr Term}
    (calls : Nat) : SpellsAlternatives text expression behind → 4 * text.length + 4 ≤ calls →
      EndsAlternatives (peek behind) → readAlternatives calls text = .ok (expression, behind)
  | .single items, enough, ends => by
      cases calls with
      | zero => omega
      | succ calls =>
          have itemsRead := items.read_eq calls (by omega) ends.1
          simp only [readAlternatives, itemsRead, ends.2, Bool.false_eq_true, if_false]
  | .bar items isBar others, enough, ends => by
      cases calls with
      | zero => omega
      | succ calls =>
          have shorter := items.length_lt
          rw [List.length_cons] at shorter
          have itemsRead := items.read_eq calls (by omega)
            (endsItems_of_isOperator isBar (by decide))
          have othersRead := others.read_eq calls (by omega) ends
          simp only [readAlternatives, itemsRead, peek_cons, isBar, if_true, List.tail_cons,
            othersRead]

theorem SpellsItems.read_eq {text behind : List Lexeme} {expression : Expr Term}
    (calls : Nat) : SpellsItems text expression behind → 4 * text.length + 3 ≤ calls →
      EndsItems (peek behind) → readItems calls text = .ok (expression, behind)
  | .single item, enough, ends => by
      cases calls with
      | zero => omega
      | succ calls =>
          have itemRead := item.read_eq calls (by omega) ends.1
          simp only [readItems, itemRead, ends.2, Bool.false_eq_true, if_false]
  | .more item others, enough, ends => by
      cases calls with
      | zero => omega
      | succ calls =>
          have shorter := item.length_lt
          have starts := others.startsItem
          have itemRead := item.read_eq calls (by omega) (endsItem_of_startsItem starts)
          have othersRead := others.read_eq calls (by omega) ends
          simp only [readItems, itemRead, starts, if_true, othersRead]

theorem SpellsItem.read_eq {text behind : List Lexeme} {expression : Expr Term}
    (calls : Nat) : SpellsItem text expression behind → 4 * text.length + 2 ≤ calls →
      EndsItem (peek behind) → readItem calls text = .ok (expression, behind)
  | .optional isOpening body isClosing, enough, ends => by
      rw [List.length_cons] at enough
      cases calls with
      | zero => omega
      | succ calls =>
          have bodyRead := body.read_eq calls (by omega)
            (endsAlternatives_of_isOperator isClosing (by decide) (by decide))
          simp only [readItem, peek_cons, isOpening, if_true, List.tail_cons, bodyRead,
            expectOperator_cons _ isClosing]
  | .once atom, enough, ends => by
      cases calls with
      | zero => omega
      | succ calls =>
          have atomRead := atom.read_eq calls (by omega)
          simp only [readItem, atom.isOperator_peek, Bool.false_eq_true, if_false, atomRead,
            readRepetition_eq _ ends]
  | .plus atom isMark, enough, ends => by
      cases calls with
      | zero => omega
      | succ calls =>
          have atomRead := atom.read_eq calls (by omega)
          simp only [readItem, atom.isOperator_peek, Bool.false_eq_true, if_false, atomRead,
            readRepetition, peek_cons, isMark, if_true, List.tail_cons]
  | .star atom isMark, enough, ends => by
      cases calls with
      | zero => omega
      | succ calls =>
          have atomRead := atom.read_eq calls (by omega)
          have notPlus := isOperator_eq_false isMark (show "*" ≠ "+" by decide)
          simp only [readItem, atom.isOperator_peek, Bool.false_eq_true, if_false, atomRead,
            readRepetition, peek_cons, notPlus, isMark, if_true, List.tail_cons]

theorem SpellsAtom.read_eq {text behind : List Lexeme} {expression : Expr Term}
    (calls : Nat) : SpellsAtom text expression behind → 4 * text.length + 1 ≤ calls →
      readAtom calls text = .ok (expression, behind)
  | .group isOpening body isClosing, enough => by
      rw [List.length_cons] at enough
      cases calls with
      | zero => omega
      | succ calls =>
          have bodyRead := body.read_eq calls (by omega)
            (endsAlternatives_of_isOperator isClosing (by decide) (by decide))
          simp only [readAtom, peek_cons, isOpening, if_true, List.tail_cons, bodyRead,
            expectOperator_cons _ isClosing]
  | .name isName, enough => by
      cases calls with
      | zero => omega
      | succ calls =>
          have notGroup := isOperator_eq_false_of_kind (by rw [isName]; decide) "("
          simp only [readAtom, peek_cons, notGroup, Bool.false_eq_true, if_false, isName,
            List.tail_cons]
  | .quoted isQuoted, enough => by
      cases calls with
      | zero => omega
      | succ calls =>
          have notGroup := isOperator_eq_false_of_kind (by rw [isQuoted]; decide) "("
          simp only [readAtom, peek_cons, notGroup, Bool.false_eq_true, if_false, isQuoted,
            List.tail_cons]

end

theorem SpellsRule.read_eq {text behind : List Lexeme} {rule : Rule}
    (spelled : SpellsRule text rule behind) : readRule text = .ok (rule, behind) := by
  cases spelled with
  | rule isName isColon body isNewline =>
      have bodyRead := body.read_eq (callBound _) (Nat.le_refl _)
        (endsAlternatives_of_newline isNewline)
      simp only [readRule, expectKind_cons _ isName, expectOperator_cons _ isColon, bodyRead,
        expectKind_cons _ isNewline]

theorem SpellsFile.read_eq {lexemes : List Lexeme} {earlier rules : List Rule} {calls : Nat}
    (spelled : SpellsFile lexemes rules) (enough : lexemes.length ≤ calls)
    (distinct : ((earlier ++ rules).map Rule.name).Nodup) :
    readFile calls earlier lexemes = .ok (earlier ++ rules) := by
  induction spelled generalizing earlier calls with
  | finish isMarker =>
      rw [List.append_nil]
      cases calls with
      | zero => exact readFile_zero earlier _
      | succ calls => simp only [readFile_succ, isMarker]
  | newline isNewline _ inductionHypothesis =>
      rw [List.length_cons] at enough
      cases calls with
      | zero => omega
      | succ calls =>
          simp only [readFile_succ, peek_cons, isNewline, List.tail_cons]
          exact inductionHypothesis (by omega) distinct
  | rule ruleSpelled _ inductionHypothesis =>
      rename_i text behind rule rules othersSpelled
      have shorter := ruleSpelled.length_lt
      have ruleRead := ruleSpelled.read_eq
      have isName : (peek text).kind = .name := by
        cases ruleSpelled with
        | rule isName _ _ _ => exact isName
      have isNew : earlier.any (·.name == rule.name) = false := by
        rw [List.map_append] at distinct
        refine List.any_eq_false.mpr ?_
        intro other isEarlier sameName
        exact (List.nodup_append.mp distinct).2.2 other.name (List.mem_map_of_mem isEarlier)
          rule.name (.head _) (beq_iff_eq.mp sameName)
      rw [List.append_cons] at distinct ⊢
      cases calls with
      | zero => omega
      | succ calls =>
          simp only [readFile_succ, isName, ruleRead, isNew, Bool.false_eq_true, if_false]
          exact inductionHypothesis (by omega) distinct

end GrammarText

/-! ## Enough calls -/

namespace Checked

open GrammarText

mutual

/-- Read alternatives.  The bound on the calls must not be reached. -/
def readAlternatives (calls : Nat) (lexemes : List Lexeme) : Except Gap (Reading (Expr Term)) :=
  match calls with
  | 0 => .error .bound
  | calls + 1 =>
      andThen (readItems calls lexemes) fun (first, rest) =>
        if (peek rest).isOperator "|" then
          andThen (readAlternatives calls rest.tail) fun (others, behind) =>
            .ok (.ok (.alt first others, behind))
        else
          .ok (.ok (first, rest))

/-- Read one or several items. -/
def readItems (calls : Nat) (lexemes : List Lexeme) : Except Gap (Reading (Expr Term)) :=
  match calls with
  | 0 => .error .bound
  | calls + 1 =>
      andThen (readItem calls lexemes) fun (first, rest) =>
        if startsItem (peek rest) then
          andThen (readItems calls rest) fun (others, behind) =>
            .ok (.ok (.seq first others, behind))
        else
          .ok (.ok (first, rest))

/-- Read an optional part, or an atom with its repetition mark. -/
def readItem (calls : Nat) (lexemes : List Lexeme) : Except Gap (Reading (Expr Term)) :=
  match calls with
  | 0 => .error .bound
  | calls + 1 =>
      if (peek lexemes).isOperator "[" then
        andThen (readAlternatives calls lexemes.tail) fun (body, rest) =>
          andThen (.ok (expectOperator "]" rest)) fun (_, behind) =>
            .ok (.ok (.opt body, behind))
      else
        andThen (readAtom calls lexemes) fun (atom, rest) =>
          .ok (.ok (readRepetition atom rest))

/-- Read a term or alternatives in parentheses. -/
def readAtom (calls : Nat) (lexemes : List Lexeme) : Except Gap (Reading (Expr Term)) :=
  match calls with
  | 0 => .error .bound
  | calls + 1 =>
      if (peek lexemes).isOperator "(" then
        andThen (readAlternatives calls lexemes.tail) fun (body, rest) =>
          andThen (.ok (expectOperator ")" rest)) fun (_, behind) => .ok (.ok (body, behind))
      else
        let front := peek lexemes
        match front.kind with
        | .name => .ok (.ok (.term ⟨front.text, false, front.location⟩, lexemes.tail))
        | .quoted => .ok (.ok (.term ⟨front.text, true, front.location⟩, lexemes.tail))
        | .operator | .newline | .endMarker => .ok (refuse lexemes (.missingAtom front.text))

end

/-- Read a rule with its line end. -/
def readRule (lexemes : List Lexeme) : Except Gap (Reading Rule) :=
  andThen (.ok (expectKind .name lexemes)) fun (name, behindName) =>
    andThen (.ok (expectOperator ":" behindName)) fun (_, behindColon) =>
      andThen (readAlternatives (callBound behindColon) behindColon) fun (body, behindBody) =>
        andThen (.ok (expectKind .newline behindBody)) fun (_, behind) =>
          .ok (.ok (⟨name.text, body⟩, behind))

/-- Read rules and empty lines up to the end marker.  The bound must not be reached. -/
def readFile (calls : Nat) (earlier : List Rule) (lexemes : List Lexeme) :
    Except Gap (Except GrammarError (List Rule)) :=
  match calls with
  | 0 => .error .bound
  | calls + 1 =>
      match (peek lexemes).kind with
      | .endMarker => .ok (.ok earlier)
      | .newline => readFile calls earlier lexemes.tail
      | .name | .quoted | .operator =>
          andThen (readRule lexemes) fun (rule, behind) =>
            if earlier.any (·.name == rule.name) then
              .ok (.error (.placed (.duplicateRule rule.name) (peek lexemes).location))
            else
              readFile calls (earlier ++ [rule]) behind

end Checked

namespace GrammarText

/-- With four calls for each lexeme and some more, a reader does not reach its bound. -/
def HasEnoughCalls (checked : Nat → List Lexeme → Except Gap (Reading (Expr Term)))
    (reader : Nat → List Lexeme → Reading (Expr Term)) (more : Nat) (lexemes : List Lexeme) :
    Prop :=
  ∀ calls, 4 * lexemes.length + more ≤ calls → checked calls lexemes = .ok (reader calls lexemes)

section Bounds

variable {lexemes : List Lexeme}

theorem hasEnoughCalls_succ {checked : Nat → List Lexeme → Except Gap (Reading (Expr Term))}
    {reader : Nat → List Lexeme → Reading (Expr Term)} {more : Nat}
    (step : ∀ calls, 4 * lexemes.length + more ≤ calls →
      checked (calls + 1) lexemes = .ok (reader (calls + 1) lexemes)) :
    HasEnoughCalls checked reader (more + 1) lexemes := by
  intro calls enough
  cases calls with
  | zero => omega
  | succ calls => exact step calls (by omega)

theorem hasEnoughCalls_readAtom
    (shorter : ∀ later : List Lexeme, later.length < lexemes.length →
      HasEnoughCalls Checked.readAlternatives readAlternatives 4 later) :
    HasEnoughCalls Checked.readAtom readAtom 1 lexemes := by
  apply hasEnoughCalls_succ
  intro calls enough
  unfold Checked.readAtom readAtom
  by_cases isOpening : (peek lexemes).isOperator "(" = true
  · have tail_length := length_tail_of_isOperator isOpening
    rw [if_pos isOpening, if_pos isOpening, shorter lexemes.tail (by omega) calls (by omega)]
    cases readAlternatives calls lexemes.tail with
    | error error => rfl
    | ok reading =>
        simp only [Checked.andThen_ok]
        cases expectOperator ")" reading.2 with
        | error error => rfl
        | ok closing => rfl
  · rw [if_neg isOpening, if_neg isOpening]
    cases kind_eq : (peek lexemes).kind <;> simp only [kind_eq]

theorem hasEnoughCalls_readItem
    (shorter : ∀ later : List Lexeme, later.length < lexemes.length →
      HasEnoughCalls Checked.readAlternatives readAlternatives 4 later) :
    HasEnoughCalls Checked.readItem readItem 2 lexemes := by
  apply hasEnoughCalls_succ
  intro calls enough
  unfold Checked.readItem readItem
  by_cases isOpening : (peek lexemes).isOperator "[" = true
  · have tail_length := length_tail_of_isOperator isOpening
    rw [if_pos isOpening, if_pos isOpening, shorter lexemes.tail (by omega) calls (by omega)]
    cases readAlternatives calls lexemes.tail with
    | error error => rfl
    | ok reading =>
        simp only [Checked.andThen_ok]
        cases expectOperator "]" reading.2 with
        | error error => rfl
        | ok closing => rfl
  · rw [if_neg isOpening, if_neg isOpening, hasEnoughCalls_readAtom shorter calls (by omega)]
    cases readAtom calls lexemes with
    | error error => rfl
    | ok reading => rfl

theorem hasEnoughCalls_readItems
    (shorter : ∀ later : List Lexeme, later.length < lexemes.length →
      HasEnoughCalls Checked.readItems readItems 3 later)
    (item : HasEnoughCalls Checked.readItem readItem 2 lexemes) :
    HasEnoughCalls Checked.readItems readItems 3 lexemes := by
  apply hasEnoughCalls_succ
  intro calls enough
  unfold Checked.readItems readItems
  rw [item calls (by omega)]
  cases itemRead : readItem calls lexemes with
  | error error => rfl
  | ok reading =>
      obtain ⟨expression, rest⟩ := reading
      have rest_length := ((readersSpell calls).item _ _ _ itemRead).length_lt
      simp only [Checked.andThen_ok]
      by_cases starts : startsItem (peek rest) = true
      · rw [if_pos starts, if_pos starts, shorter rest rest_length calls (by omega)]
        cases readItems calls rest with
        | error error => rfl
        | ok others => rfl
      · rw [if_neg starts, if_neg starts]

theorem hasEnoughCalls_readAlternatives
    (shorter : ∀ later : List Lexeme, later.length < lexemes.length →
      HasEnoughCalls Checked.readAlternatives readAlternatives 4 later)
    (items : HasEnoughCalls Checked.readItems readItems 3 lexemes) :
    HasEnoughCalls Checked.readAlternatives readAlternatives 4 lexemes := by
  apply hasEnoughCalls_succ
  intro calls enough
  unfold Checked.readAlternatives readAlternatives
  rw [items calls (by omega)]
  cases itemsRead : readItems calls lexemes with
  | error error => rfl
  | ok reading =>
      obtain ⟨expression, rest⟩ := reading
      have rest_length := ((readersSpell calls).items _ _ _ itemsRead).length_lt
      simp only [Checked.andThen_ok]
      by_cases isBar : (peek rest).isOperator "|" = true
      · have tail_length := length_tail_of_isOperator isBar
        rw [if_pos isBar, if_pos isBar, shorter rest.tail (by omega) calls (by omega)]
        cases readAlternatives calls rest.tail with
        | error error => rfl
        | ok others => rfl
      · rw [if_neg isBar, if_neg isBar]

end Bounds

/-- What every reader needs, by induction on the number of lexemes. -/
theorem readers_haveEnoughCalls (lexemes : List Lexeme) :
    HasEnoughCalls Checked.readAlternatives readAlternatives 4 lexemes ∧
      HasEnoughCalls Checked.readItems readItems 3 lexemes ∧
      HasEnoughCalls Checked.readItem readItem 2 lexemes ∧
      HasEnoughCalls Checked.readAtom readAtom 1 lexemes := by
  induction length_eq : lexemes.length using Nat.strongRecOn generalizing lexemes with
  | ind length inductionHypothesis =>
      subst length_eq
      have shorterAlternatives : ∀ later : List Lexeme, later.length < lexemes.length →
          HasEnoughCalls Checked.readAlternatives readAlternatives 4 later := fun later isShorter =>
        (inductionHypothesis later.length isShorter later rfl).1
      have shorterItems : ∀ later : List Lexeme, later.length < lexemes.length →
          HasEnoughCalls Checked.readItems readItems 3 later := fun later isShorter =>
        (inductionHypothesis later.length isShorter later rfl).2.1
      have item := hasEnoughCalls_readItem shorterAlternatives
      have items := hasEnoughCalls_readItems shorterItems item
      exact ⟨hasEnoughCalls_readAlternatives shorterAlternatives items, items, item,
        hasEnoughCalls_readAtom shorterAlternatives⟩

theorem checkedReadRule_eq (lexemes : List Lexeme) :
    Checked.readRule lexemes = .ok (readRule lexemes) := by
  unfold Checked.readRule readRule
  cases expectKind .name lexemes with
  | error error => rfl
  | ok name =>
      simp only [Checked.andThen_ok]
      cases expectOperator ":" name.2 with
      | error error => rfl
      | ok colon =>
          have bodyRead := (readers_haveEnoughCalls colon.2).1 (callBound colon.2) (Nat.le_refl _)
          simp only [Checked.andThen_ok, bodyRead]
          cases readAlternatives (callBound colon.2) colon.2 with
          | error error => rfl
          | ok body =>
              simp only [Checked.andThen_ok]
              cases expectKind .newline body.2 with
              | error error => rfl
              | ok newline => rfl

theorem readFile_nil (calls : Nat) (earlier : List Rule) :
    readFile calls earlier [] = .ok earlier := by
  cases calls with
  | zero => exact readFile_zero earlier []
  | succ calls => exact readFile_succ calls earlier []

/-- Every call of `readFile` but the last takes a lexeme. -/
theorem readFile_eq_of_length_le {first second : Nat} {earlier : List Rule}
    {lexemes : List Lexeme} (firstEnough : lexemes.length ≤ first)
    (secondEnough : lexemes.length ≤ second) :
    readFile first earlier lexemes = readFile second earlier lexemes := by
  induction first generalizing second earlier lexemes with
  | zero =>
      rw [List.eq_nil_of_length_eq_zero (Nat.le_zero.mp firstEnough), readFile_nil, readFile_nil]
  | succ first inductionHypothesis =>
      cases second with
      | zero =>
          rw [List.eq_nil_of_length_eq_zero (Nat.le_zero.mp secondEnough), readFile_nil,
            readFile_nil]
      | succ second =>
          cases kind_eq : (peek lexemes).kind with
          | endMarker => simp only [readFile_succ, kind_eq]
          | newline =>
              have tail_length : lexemes.tail.length = lexemes.length - 1 := List.length_tail
              have rest : readFile first earlier lexemes.tail =
                  readFile second earlier lexemes.tail :=
                inductionHypothesis (by omega) (by omega)
              simp only [readFile_succ, kind_eq, rest]
          | name | quoted | operator =>
              simp only [readFile_succ, kind_eq]
              cases ruleRead : readRule lexemes with
              | error error => rfl
              | ok reading =>
                  obtain ⟨rule, behind⟩ := reading
                  have shorter := (spells_of_readRule ruleRead).length_lt
                  have rest : readFile first (earlier ++ [rule]) behind =
                      readFile second (earlier ++ [rule]) behind :=
                    inductionHypothesis (by omega) (by omega)
                  simp only [rest]

theorem checkedReadFile_eq {calls : Nat} {earlier : List Rule} {lexemes : List Lexeme}
    (enough : lexemes.length < calls) :
    Checked.readFile calls earlier lexemes = .ok (readFile calls earlier lexemes) := by
  induction calls generalizing earlier lexemes with
  | zero => omega
  | succ calls inductionHypothesis =>
      cases kind_eq : (peek lexemes).kind with
      | endMarker => simp only [Checked.readFile, readFile_succ, kind_eq]
      | newline =>
          have front := congrArg List.length
            (eq_peek_cons lexemes (by rw [kind_eq]; decide))
          rw [List.length_cons] at front
          simp only [Checked.readFile, readFile_succ, kind_eq]
          exact inductionHypothesis (by omega)
      | name | quoted | operator =>
          simp only [Checked.readFile, readFile_succ, kind_eq, checkedReadRule_eq]
          cases ruleRead : readRule lexemes with
          | error error => rfl
          | ok reading =>
              obtain ⟨rule, behind⟩ := reading
              have shorter := (spells_of_readRule ruleRead).length_lt
              have rest : Checked.readFile calls (earlier ++ [rule]) behind =
                  .ok (readFile calls (earlier ++ [rule]) behind) :=
                inductionHypothesis (by omega)
              simp only [Checked.andThen_ok, rest]
              split
              · rfl
              · rfl

/-! ## Grammar texts -/

/-- The lexemes of a text end with its only end marker. -/
theorem isTerminated_of_scan {source : String} {lexemes : List Lexeme}
    (scanned : scan source = .ok lexemes) : IsTerminated lexemes := by
  obtain ⟨inner, rfl, faithful⟩ :=
    faithful_of_scanLines (isLine_of_mem_splitLines source.toList) scanned
  have notMarker : ∀ lexeme ∈ inner, lexeme.kind ≠ .endMarker := by
    intro lexeme isLexeme isMarker
    obtain ⟨line, _, _, isStretch⟩ := faithful.placed lexeme isLexeme
    have hasForm := isStretch.hasForm
    rw [isMarker] at hasForm
    cases hasForm
  exact (isTerminated_append_iff notMarker).mpr rfl

theorem readRules_eq_ok_iff {source : String} {rules : List Rule} :
    readRules source = .ok rules ↔ ∃ lexemes, scan source = .ok lexemes ∧
      SpellsFile lexemes rules ∧ rules ≠ [] ∧ (rules.map Rule.name).Nodup := by
  constructor
  · intro read
    obtain ⟨lexemes, scanned, spelled⟩ := spells_of_readRules read
    refine ⟨lexemes, scanned, spelled, ?_, nodup_names_of_readRules read⟩
    rintro rfl
    simp only [readRules, scanned, rulesOf] at read
    split at read
    · cases read
    · cases read
    · rename_i notNil _
      cases read
      exact notNil rfl
  · rintro ⟨lexemes, scanned, spelled, notEmpty, distinct⟩
    have fileRead : readFile lexemes.length [] lexemes = .ok rules :=
      spelled.read_eq (Nat.le_refl _) distinct
    cases rules with
    | nil => exact absurd rfl notEmpty
    | cons rule others => simp only [readRules, scanned, rulesOf, fileRead]

/-- A grammar text is accepted exactly if its lexemes are derived from the grammar of
grammar texts, with at least one rule and without two rules of one name.  The rules then
have the declared names in the order of the text.  On every list of lexemes the reader
comes to an end before it reaches the bound on its calls. -/
theorem readRules_ok_iff_derives (source : String) :
    ((∃ rules, readRules source = .ok rules) ↔
      ∃ lexemes, scan source = .ok lexemes ∧ Category.file.Derives lexemes ∧
        declaredNames lexemes ≠ [] ∧ (declaredNames lexemes).Nodup) ∧
    (∀ rules lexemes, readRules source = .ok rules → scan source = .ok lexemes →
      rules.map Rule.name = declaredNames lexemes) ∧
    (∀ lexemes calls, callBound lexemes ≤ calls →
      Checked.readAlternatives calls lexemes = .ok (readAlternatives calls lexemes) ∧
      Checked.readItems calls lexemes = .ok (readItems calls lexemes) ∧
      Checked.readItem calls lexemes = .ok (readItem calls lexemes) ∧
      Checked.readAtom calls lexemes = .ok (readAtom calls lexemes)) ∧
    ∀ earlier lexemes calls, lexemes.length < calls →
      Checked.readFile calls earlier lexemes =
        .ok (readFile lexemes.length earlier lexemes) := by
  refine ⟨⟨?_, ?_⟩, ?_, ?_, ?_⟩
  · rintro ⟨rules, read⟩
    obtain ⟨lexemes, scanned, spelled, notEmpty, distinct⟩ := readRules_eq_ok_iff.mp read
    have terminated := isTerminated_of_scan scanned
    rw [← spelled.declaredNames_eq terminated] at distinct
    refine ⟨lexemes, scanned, spelled.derives terminated, ?_, distinct⟩
    rw [spelled.declaredNames_eq terminated]
    exact mt List.map_eq_nil_iff.mp notEmpty
  · rintro ⟨lexemes, scanned, derived, notEmpty, distinct⟩
    have terminated := isTerminated_of_scan scanned
    obtain ⟨rules, spelled⟩ := (derives_file_iff terminated).mp derived
    rw [spelled.declaredNames_eq terminated] at notEmpty distinct
    exact ⟨rules, readRules_eq_ok_iff.mpr
      ⟨lexemes, scanned, spelled, mt List.map_eq_nil_iff.mpr notEmpty, distinct⟩⟩
  · intro rules lexemes read scanned
    obtain ⟨others, othersScanned, spelled, _⟩ := readRules_eq_ok_iff.mp read
    rw [scanned] at othersScanned
    obtain rfl := Except.ok.inj othersScanned
    exact (spelled.declaredNames_eq (isTerminated_of_scan scanned)).symm
  · intro lexemes calls enough
    obtain ⟨alternatives, items, item, atom⟩ := readers_haveEnoughCalls lexemes
    unfold callBound at enough
    exact ⟨alternatives calls enough, items calls (by omega), item calls (by omega),
      atom calls (by omega)⟩
  · intro earlier lexemes calls enough
    rw [checkedReadFile_eq enough,
      readFile_eq_of_length_le (Nat.le_of_lt enough) (Nat.le_refl _)]

/-- A rule over two lines, an empty line, and a second rule. -/
def twoRulesText : String := "a: [b\n c] (d | 'x')*\n\nb: a\n"

/-- An optional part cannot be repeated without parentheses. -/
def repeatedOptionText : String := "a: [b]*\n"

theorem readRules_ok_iff_derives_twoRulesText :
    (∃ lexemes, scan twoRulesText = .ok lexemes ∧ Category.file.Derives lexemes ∧
      declaredNames lexemes = ["a", "b"]) ∧
    ∃ lexemes, scan repeatedOptionText = .ok lexemes ∧ ¬Category.file.Derives lexemes := by
  constructor
  · have names : (readRules twoRulesText).map (List.map Rule.name) = .ok ["a", "b"] := by
      decide +kernel
    cases read : readRules twoRulesText with
    | error error =>
        rw [read] at names
        cases names
    | ok rules =>
        rw [read] at names
        obtain ⟨accepted, ordered, _⟩ := readRules_ok_iff_derives twoRulesText
        obtain ⟨lexemes, scanned, derived, _⟩ := accepted.mp ⟨rules, read⟩
        refine ⟨lexemes, scanned, derived, ?_⟩
        rw [← ordered rules lexemes read scanned]
        exact Except.ok.inj names
  · have names : (scan repeatedOptionText).map declaredNames = .ok ["a"] := by
      decide +kernel
    have refused : (readRules repeatedOptionText).isOk = false := by
      decide +kernel
    cases scanned : scan repeatedOptionText with
    | error error =>
        rw [scanned] at names
        cases names
    | ok lexemes =>
        rw [scanned] at names
        refine ⟨lexemes, rfl, ?_⟩
        intro derived
        have oneName : declaredNames lexemes = ["a"] := Except.ok.inj names
        obtain ⟨rules, read⟩ := (readRules_ok_iff_derives repeatedOptionText).1.mpr
          ⟨lexemes, scanned, derived, by rw [oneName]; decide, by rw [oneName]; decide⟩
        rw [read] at refused
        cases refused

end GrammarText

end RuleMachine
