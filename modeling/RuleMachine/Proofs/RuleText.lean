import RuleMachine.GrammarText.Rule

/-!
# Rules as they are written

The form of a right-hand side, as relations between the lexemes in front, the
expression that they spell, and the lexemes behind it:

```text
alts:  items ('|' items)*
items: item+
item:  '[' alts ']' | atom ['+' | '*']
atom:  '(' alts ')' | NAME | STRING
```

Whatever the reader returns is spelled in this way.  Its nested calls are bounded, and no
bound that suffices changes what it returns.
-/

namespace RuleMachine

namespace GrammarText

mutual

/-- Alternatives: items, and further alternatives behind a bar. -/
inductive SpellsAlternatives : List Lexeme → Expr Term → List Lexeme → Prop
  | single {text behind : List Lexeme} {expression : Expr Term} :
      SpellsItems text expression behind → SpellsAlternatives text expression behind
  | bar {text rest behind : List Lexeme} {mark : Lexeme} {first others : Expr Term} :
      SpellsItems text first (mark :: rest) → mark.isOperator "|" = true →
      SpellsAlternatives rest others behind →
      SpellsAlternatives text (.alt first others) behind

/-- Items: one after the other. -/
inductive SpellsItems : List Lexeme → Expr Term → List Lexeme → Prop
  | single {text behind : List Lexeme} {expression : Expr Term} :
      SpellsItem text expression behind → SpellsItems text expression behind
  | more {text rest behind : List Lexeme} {first others : Expr Term} :
      SpellsItem text first rest → SpellsItems rest others behind →
      SpellsItems text (.seq first others) behind

/-- An item: an optional part, or an atom and perhaps a repetition mark. -/
inductive SpellsItem : List Lexeme → Expr Term → List Lexeme → Prop
  | optional {text behind : List Lexeme} {opening closing : Lexeme} {body : Expr Term} :
      opening.isOperator "[" = true → SpellsAlternatives text body (closing :: behind) →
      closing.isOperator "]" = true → SpellsItem (opening :: text) (.opt body) behind
  | once {text behind : List Lexeme} {atom : Expr Term} :
      SpellsAtom text atom behind → SpellsItem text atom behind
  | plus {text behind : List Lexeme} {mark : Lexeme} {atom : Expr Term} :
      SpellsAtom text atom (mark :: behind) → mark.isOperator "+" = true →
      SpellsItem text (.plus atom) behind
  | star {text behind : List Lexeme} {mark : Lexeme} {atom : Expr Term} :
      SpellsAtom text atom (mark :: behind) → mark.isOperator "*" = true →
      SpellsItem text (.star atom) behind

/-- An atom: alternatives in parentheses, a bare name or a quoted literal. -/
inductive SpellsAtom : List Lexeme → Expr Term → List Lexeme → Prop
  | group {text behind : List Lexeme} {opening closing : Lexeme} {body : Expr Term} :
      opening.isOperator "(" = true → SpellsAlternatives text body (closing :: behind) →
      closing.isOperator ")" = true → SpellsAtom (opening :: text) body behind
  | name {behind : List Lexeme} {lexeme : Lexeme} :
      lexeme.kind = .name →
      SpellsAtom (lexeme :: behind) (.term ⟨lexeme.text, false, lexeme.location⟩) behind
  | quoted {behind : List Lexeme} {lexeme : Lexeme} :
      lexeme.kind = .quoted →
      SpellsAtom (lexeme :: behind) (.term ⟨lexeme.text, true, lexeme.location⟩) behind

end

/-- A rule: its name, a colon, alternatives and the end of the line. -/
inductive SpellsRule : List Lexeme → Rule → List Lexeme → Prop
  | rule {text behind : List Lexeme} {name colon newline : Lexeme} {body : Expr Term} :
      name.kind = .name → colon.isOperator ":" = true →
      SpellsAlternatives text body (newline :: behind) → newline.kind = .newline →
      SpellsRule (name :: colon :: text) ⟨name.text, body⟩ behind

/-- A file: rules and empty lines up to the end marker. -/
inductive SpellsFile : List Lexeme → List Rule → Prop
  | finish {lexemes : List Lexeme} :
      (peek lexemes).kind = .endMarker → SpellsFile lexemes []
  | newline {rest : List Lexeme} {lexeme : Lexeme} {rules : List Rule} :
      lexeme.kind = .newline → SpellsFile rest rules → SpellsFile (lexeme :: rest) rules
  | rule {text behind : List Lexeme} {rule : Rule} {rules : List Rule} :
      SpellsRule text rule behind → SpellsFile behind rules → SpellsFile text (rule :: rules)

/-! ## Whatever is spelled takes lexemes -/

mutual

theorem SpellsAlternatives.length_lt {text behind : List Lexeme} {expression : Expr Term} :
    SpellsAlternatives text expression behind → behind.length < text.length
  | .single items => items.length_lt
  | .bar items _ others => by
      have first := items.length_lt
      have second := others.length_lt
      rw [List.length_cons] at first
      omega

theorem SpellsItems.length_lt {text behind : List Lexeme} {expression : Expr Term} :
    SpellsItems text expression behind → behind.length < text.length
  | .single item => item.length_lt
  | .more item others => by
      have first := item.length_lt
      have second := others.length_lt
      omega

theorem SpellsItem.length_lt {text behind : List Lexeme} {expression : Expr Term} :
    SpellsItem text expression behind → behind.length < text.length
  | .optional _ body _ => by
      have inner := body.length_lt
      rw [List.length_cons] at inner ⊢
      omega
  | .once atom => atom.length_lt
  | .plus atom _ => by
      have inner := atom.length_lt
      rw [List.length_cons] at inner
      omega
  | .star atom _ => by
      have inner := atom.length_lt
      rw [List.length_cons] at inner
      omega

theorem SpellsAtom.length_lt {text behind : List Lexeme} {expression : Expr Term} :
    SpellsAtom text expression behind → behind.length < text.length
  | .group _ body _ => by
      have inner := body.length_lt
      rw [List.length_cons] at inner ⊢
      omega
  | .name _ => Nat.lt_succ_self _
  | .quoted _ => Nat.lt_succ_self _

end

theorem SpellsRule.length_lt {text behind : List Lexeme} {rule : Rule}
    (spelled : SpellsRule text rule behind) : behind.length < text.length := by
  cases spelled with
  | rule _ _ body _ =>
      have shorter := body.length_lt
      simp only [List.length_cons] at shorter ⊢
      omega

/-! ## The lexeme in front -/

theorem isOperator_eq_false_of_kind {lexeme : Lexeme} (notOperator : lexeme.kind ≠ .operator)
    (spelling : String) : lexeme.isOperator spelling = false := by
  rw [Lexeme.isOperator, beq_eq_false_iff_ne.mpr notOperator, Bool.false_and]

theorem eq_peek_cons (lexemes : List Lexeme) (isReal : (peek lexemes).kind ≠ .endMarker) :
    lexemes = peek lexemes :: lexemes.tail := by
  cases lexemes with
  | nil => exact absurd rfl isReal
  | cons first later => rfl

theorem eq_peek_cons_of_isOperator {lexemes : List Lexeme} {spelling : String}
    (isOperator : (peek lexemes).isOperator spelling = true) :
    lexemes = peek lexemes :: lexemes.tail := by
  apply eq_peek_cons lexemes
  intro isMarker
  rw [isOperator_eq_false_of_kind (by rw [isMarker]; decide)] at isOperator
  cases isOperator

theorem eq_of_expectOperator {wanted : String} {lexemes behind : List Lexeme} {taken : Lexeme}
    (success : expectOperator wanted lexemes = .ok (taken, behind)) :
    lexemes = taken :: behind ∧ taken.isOperator wanted = true := by
  unfold expectOperator at success
  split at success
  · cases success
  · rename_i isOperator
    split at success
    · cases success
    · rename_i isWanted
      cases success
      have isTaken : (peek lexemes).isOperator wanted = true := by
        simp only [ne_eq, Decidable.not_not] at isOperator isWanted
        simp [Lexeme.isOperator, isOperator, isWanted]
      exact ⟨eq_peek_cons_of_isOperator isTaken, isTaken⟩

theorem eq_of_expectKind {wanted : LexemeKind} {lexemes behind : List Lexeme} {taken : Lexeme}
    (isReal : wanted ≠ .endMarker)
    (success : expectKind wanted lexemes = .ok (taken, behind)) :
    lexemes = taken :: behind ∧ taken.kind = wanted := by
  unfold expectKind at success
  split at success
  · rename_i isWanted
    cases success
    exact ⟨eq_peek_cons lexemes (isWanted ▸ isReal), isWanted⟩
  · cases success

/-! ## What the reader returns -/

theorem spells_of_readRepetition {text rest behind : List Lexeme} {atom item : Expr Term}
    (spelled : SpellsAtom text atom rest)
    (read : readRepetition atom rest = (item, behind)) : SpellsItem text item behind := by
  unfold readRepetition at read
  split at read
  · rename_i isPlus
    cases read
    rw [eq_peek_cons_of_isOperator isPlus] at spelled
    exact .plus spelled isPlus
  · split at read
    · rename_i isStar
      cases read
      rw [eq_peek_cons_of_isOperator isStar] at spelled
      exact .star spelled isStar
    · cases read
      exact .once spelled

/-- The four readers, with a bound on their nested calls, return what is spelled. -/
structure ReadersSpell (calls : Nat) : Prop where
  alternatives : ∀ text expression behind,
    readAlternatives calls text = .ok (expression, behind) →
    SpellsAlternatives text expression behind
  items : ∀ text expression behind,
    readItems calls text = .ok (expression, behind) → SpellsItems text expression behind
  item : ∀ text expression behind,
    readItem calls text = .ok (expression, behind) → SpellsItem text expression behind
  atom : ∀ text expression behind,
    readAtom calls text = .ok (expression, behind) → SpellsAtom text expression behind

section Readers

variable {calls : Nat} {text behind : List Lexeme} {expression : Expr Term}

theorem ReadersSpell.readAlternatives (spell : ReadersSpell calls)
    (success : readAlternatives (calls + 1) text = .ok (expression, behind)) :
    SpellsAlternatives text expression behind := by
  unfold GrammarText.readAlternatives at success
  split at success
  · cases success
  · rename_i first rest firstSuccess
    split at success
    · rename_i isBar
      split at success
      · cases success
      · rename_i others othersBehind othersSuccess
        cases success
        have spelled := spell.items text first rest firstSuccess
        rw [eq_peek_cons_of_isOperator isBar] at spelled
        exact .bar spelled isBar (spell.alternatives rest.tail others behind othersSuccess)
    · cases success
      exact .single (spell.items _ _ _ firstSuccess)

theorem ReadersSpell.readItems (spell : ReadersSpell calls)
    (success : readItems (calls + 1) text = .ok (expression, behind)) :
    SpellsItems text expression behind := by
  unfold GrammarText.readItems at success
  split at success
  · cases success
  · rename_i first rest firstSuccess
    split at success
    · split at success
      · cases success
      · rename_i others othersBehind othersSuccess
        cases success
        exact .more (spell.item text first rest firstSuccess)
          (spell.items rest others behind othersSuccess)
    · cases success
      exact .single (spell.item _ _ _ firstSuccess)

theorem ReadersSpell.readItem (spell : ReadersSpell calls)
    (success : readItem (calls + 1) text = .ok (expression, behind)) :
    SpellsItem text expression behind := by
  unfold GrammarText.readItem at success
  split at success
  · rename_i isOpening
    split at success
    · cases success
    · rename_i body rest bodySuccess
      split at success
      · cases success
      · rename_i closing closingBehind closingSuccess
        cases success
        obtain ⟨rfl, isClosing⟩ := eq_of_expectOperator closingSuccess
        rw [eq_peek_cons_of_isOperator isOpening]
        exact .optional isOpening (spell.alternatives _ _ _ bodySuccess) isClosing
  · split at success
    · cases success
    · rename_i read rest atomSuccess
      exact spells_of_readRepetition (spell.atom text read rest atomSuccess)
        (Except.ok.inj success)

theorem ReadersSpell.readAtom (spell : ReadersSpell calls)
    (success : readAtom (calls + 1) text = .ok (expression, behind)) :
    SpellsAtom text expression behind := by
  unfold GrammarText.readAtom at success
  split at success
  · rename_i isOpening
    split at success
    · cases success
    · rename_i body rest bodySuccess
      split at success
      · cases success
      · rename_i closing closingBehind closingSuccess
        cases success
        obtain ⟨rfl, isClosing⟩ := eq_of_expectOperator closingSuccess
        rw [eq_peek_cons_of_isOperator isOpening]
        exact .group isOpening (spell.alternatives _ _ _ bodySuccess) isClosing
  · simp only at success
    split at success
    · rename_i isName
      cases success
      rw [eq_peek_cons text (by rw [isName]; decide)]
      exact .name isName
    · rename_i isQuoted
      cases success
      rw [eq_peek_cons text (by rw [isQuoted]; decide)]
      exact .quoted isQuoted
    · cases success
    · cases success
    · cases success

end Readers

theorem readersSpell (calls : Nat) : ReadersSpell calls := by
  induction calls with
  | zero =>
      constructor <;> intro text expression behind success <;> cases success
  | succ calls inductionHypothesis =>
      exact
        { alternatives := fun _ _ _ => inductionHypothesis.readAlternatives
          items := fun _ _ _ => inductionHypothesis.readItems
          item := fun _ _ _ => inductionHypothesis.readItem
          atom := fun _ _ _ => inductionHypothesis.readAtom }

/-! ## Bounds on the calls -/

/-- The four readers with two bounds on their nested calls agree on the lexemes for which
both bounds suffice. -/
structure ReadersAgree (first second : Nat) : Prop where
  alternatives : ∀ lexemes : List Lexeme, 4 * lexemes.length + 4 ≤ first →
    4 * lexemes.length + 4 ≤ second →
    readAlternatives first lexemes = readAlternatives second lexemes
  items : ∀ lexemes : List Lexeme, 4 * lexemes.length + 3 ≤ first →
    4 * lexemes.length + 3 ≤ second → readItems first lexemes = readItems second lexemes
  item : ∀ lexemes : List Lexeme, 4 * lexemes.length + 2 ≤ first →
    4 * lexemes.length + 2 ≤ second → readItem first lexemes = readItem second lexemes
  atom : ∀ lexemes : List Lexeme, 4 * lexemes.length + 1 ≤ first →
    4 * lexemes.length + 1 ≤ second → readAtom first lexemes = readAtom second lexemes

section Agreement

variable {first second : Nat} {lexemes : List Lexeme}

theorem length_tail_of_isOperator {spelling : String}
    (isOperator : (peek lexemes).isOperator spelling = true) :
    lexemes.tail.length + 1 = lexemes.length := by
  have front := congrArg List.length (eq_peek_cons_of_isOperator isOperator)
  rw [List.length_cons] at front
  exact front.symm

theorem ReadersAgree.readAlternatives (agree : ReadersAgree first second)
    (firstEnough : 4 * lexemes.length + 4 ≤ first + 1)
    (secondEnough : 4 * lexemes.length + 4 ≤ second + 1) :
    readAlternatives (first + 1) lexemes = readAlternatives (second + 1) lexemes := by
  unfold GrammarText.readAlternatives
  rw [agree.items lexemes (by omega) (by omega)]
  cases itemsRead : readItems second lexemes with
  | error error => rfl
  | ok reading =>
      have rest_length := ((readersSpell second).items _ _ _ itemsRead).length_lt
      by_cases isBar : (peek reading.2).isOperator "|" = true
      · have tail_length := length_tail_of_isOperator isBar
        simp only [if_pos isBar,
          agree.alternatives reading.2.tail (by omega) (by omega)]
      · simp only [if_neg isBar]

theorem ReadersAgree.readItems (agree : ReadersAgree first second)
    (firstEnough : 4 * lexemes.length + 3 ≤ first + 1)
    (secondEnough : 4 * lexemes.length + 3 ≤ second + 1) :
    readItems (first + 1) lexemes = readItems (second + 1) lexemes := by
  unfold GrammarText.readItems
  rw [agree.item lexemes (by omega) (by omega)]
  cases itemRead : readItem second lexemes with
  | error error => rfl
  | ok reading =>
      have rest_length := ((readersSpell second).item _ _ _ itemRead).length_lt
      by_cases starts : startsItem (peek reading.2) = true
      · simp only [if_pos starts, agree.items reading.2 (by omega) (by omega)]
      · simp only [if_neg starts]

theorem ReadersAgree.readItem (agree : ReadersAgree first second)
    (firstEnough : 4 * lexemes.length + 2 ≤ first + 1)
    (secondEnough : 4 * lexemes.length + 2 ≤ second + 1) :
    readItem (first + 1) lexemes = readItem (second + 1) lexemes := by
  unfold GrammarText.readItem
  by_cases isOpening : (peek lexemes).isOperator "[" = true
  · have tail_length := length_tail_of_isOperator isOpening
    simp only [if_pos isOpening, agree.alternatives lexemes.tail (by omega) (by omega)]
  · simp only [if_neg isOpening, agree.atom lexemes (by omega) (by omega)]

theorem ReadersAgree.readAtom (agree : ReadersAgree first second)
    (firstEnough : 4 * lexemes.length + 1 ≤ first + 1)
    (secondEnough : 4 * lexemes.length + 1 ≤ second + 1) :
    readAtom (first + 1) lexemes = readAtom (second + 1) lexemes := by
  unfold GrammarText.readAtom
  by_cases isOpening : (peek lexemes).isOperator "(" = true
  · have tail_length := length_tail_of_isOperator isOpening
    simp only [if_pos isOpening, agree.alternatives lexemes.tail (by omega) (by omega)]
  · simp only [if_neg isOpening]

end Agreement

theorem readers_agree (first second : Nat) : ReadersAgree first second := by
  induction first generalizing second with
  | zero => constructor <;> intro lexemes enough <;> omega
  | succ first inductionHypothesis =>
      cases second with
      | zero => constructor <;> intro lexemes _ enough <;> omega
      | succ second =>
          have agree := inductionHypothesis second
          exact
            { alternatives := fun _ => agree.readAlternatives
              items := fun _ => agree.readItems
              item := fun _ => agree.readItem
              atom := fun _ => agree.readAtom }

/-! ## Rules -/

/-- Read a rule with its line end, with as many calls as its lexemes can need. -/
def readRule (lexemes : List Lexeme) : Reading Rule :=
  match expectKind .name lexemes with
  | .error error => .error error
  | .ok (name, behindName) =>
      match expectOperator ":" behindName with
      | .error error => .error error
      | .ok (_, behindColon) =>
          match readAlternatives (callBound behindColon) behindColon with
          | .error error => .error error
          | .ok (body, behindBody) =>
              match expectKind .newline behindBody with
              | .error error => .error error
              | .ok (_, behind) => .ok (⟨name.text, body⟩, behind)

theorem spells_of_readRule {text behind : List Lexeme} {rule : Rule}
    (success : readRule text = .ok (rule, behind)) : SpellsRule text rule behind := by
  unfold readRule at success
  split at success
  · cases success
  · rename_i name behindName nameSuccess
    split at success
    · cases success
    · rename_i colon behindColon colonSuccess
      split at success
      · cases success
      · rename_i body behindBody bodySuccess
        split at success
        · cases success
        · rename_i newline rest newlineSuccess
          cases success
          obtain ⟨rfl, isName⟩ := eq_of_expectKind (by decide) nameSuccess
          obtain ⟨rfl, isColon⟩ := eq_of_expectOperator colonSuccess
          obtain ⟨rfl, isNewline⟩ := eq_of_expectKind (by decide) newlineSuccess
          exact .rule isName isColon ((readersSpell _).alternatives _ _ _ bodySuccess) isNewline

theorem readRuleWithin_eq {calls : Nat} {lexemes : List Lexeme}
    (enough : callBound lexemes ≤ calls) : readRuleWithin calls lexemes = readRule lexemes := by
  unfold callBound at enough
  unfold readRuleWithin readRule
  cases nameRead : expectKind .name lexemes with
  | error error => rfl
  | ok name =>
      cases colonRead : expectOperator ":" name.2 with
      | error error => simp only [colonRead]
      | ok colon =>
          have name_length := congrArg List.length (eq_of_expectKind (by decide) nameRead).1
          have colon_length := congrArg List.length (eq_of_expectOperator colonRead).1
          rw [List.length_cons] at name_length colon_length
          have sameBody : readAlternatives calls colon.2 =
              readAlternatives (callBound colon.2) colon.2 :=
            (readers_agree calls (callBound colon.2)).alternatives colon.2 (by omega)
              (Nat.le_refl _)
          cases bodyRead : readAlternatives (callBound colon.2) colon.2 with
          | error error => simp only [colonRead, sameBody, bodyRead]
          | ok body =>
              cases newlineRead : expectKind .newline body.2 with
              | error error => simp only [colonRead, sameBody, bodyRead, newlineRead]
              | ok newline => simp only [colonRead, sameBody, bodyRead, newlineRead]

/-- Reading does not depend on the bound for the right-hand sides, if it suffices. -/
theorem readLater_eq {first second calls : Nat} {names : NameTree} {lexemes : List Lexeme}
    (firstEnough : callBound lexemes ≤ first) (secondEnough : callBound lexemes ≤ second) :
    readLater first calls names lexemes = readLater second calls names lexemes := by
  induction calls generalizing names lexemes with
  | zero => rfl
  | succ calls inductionHypothesis =>
      have shorterEnough : ∀ {later : List Lexeme}, later.length ≤ lexemes.length →
          callBound later ≤ first ∧ callBound later ≤ second := by
        intro later shorter
        unfold callBound at firstEnough secondEnough ⊢
        omega
      unfold readLater
      rw [readRuleWithin_eq firstEnough, readRuleWithin_eq secondEnough]
      cases kind_eq : (peek lexemes).kind with
      | endMarker => rfl
      | newline =>
          have tail_length : lexemes.tail.length ≤ lexemes.length := by
            rw [List.length_tail]
            omega
          obtain ⟨tailFirst, tailSecond⟩ := shorterEnough tail_length
          exact inductionHypothesis tailFirst tailSecond
      | name | quoted | operator =>
          cases ruleRead : readRule lexemes with
          | error error => rfl
          | ok reading =>
              have shorter := (spells_of_readRule ruleRead).length_lt
              obtain ⟨behindFirst, behindSecond⟩ := shorterEnough (Nat.le_of_lt shorter)
              have rest : readLater first calls (names.insert reading.1.name) reading.2 =
                  readLater second calls (names.insert reading.1.name) reading.2 :=
                inductionHypothesis behindFirst behindSecond
              simp only [rest]

theorem readFile_zero (earlier : List Rule) (lexemes : List Lexeme) :
    readFile 0 earlier lexemes = .ok earlier := by
  simp only [readFile, readLater, List.append_nil]

theorem readFile_eq {bound calls : Nat} {earlier : List Rule} {lexemes : List Lexeme}
    (enough : callBound lexemes ≤ bound) :
    readFile calls earlier lexemes =
      match readLater bound calls (.ofList (earlier.map Rule.name)) lexemes with
      | .error error => .error error
      | .ok later => .ok (earlier ++ later) := by
  have sameLater : readLater (callBound lexemes) calls (.ofList (earlier.map Rule.name)) lexemes =
      readLater bound calls (.ofList (earlier.map Rule.name)) lexemes :=
    readLater_eq (Nat.le_refl _) enough
  cases laterRead : readLater bound calls (.ofList (earlier.map Rule.name)) lexemes with
  | error error => simp only [readFile, sameLater, laterRead]
  | ok later => simp only [readFile, sameLater, laterRead]

/-- The rules are read one after the other; each is appended to those before it, unless one
of them has its name. -/
theorem readFile_succ (calls : Nat) (earlier : List Rule) (lexemes : List Lexeme) :
    readFile (calls + 1) earlier lexemes =
      match (peek lexemes).kind with
      | .endMarker => .ok earlier
      | .newline => readFile calls earlier lexemes.tail
      | .name | .quoted | .operator =>
          match readRule lexemes with
          | .error error => .error error
          | .ok (rule, behind) =>
              if earlier.any (·.name == rule.name) then
                .error (.placed (.duplicateRule rule.name) (peek lexemes).location)
              else
                readFile calls (earlier ++ [rule]) behind := by
  rw [readFile, readLater, readRuleWithin_eq (Nat.le_refl _)]
  cases kind_eq : (peek lexemes).kind with
  | endMarker => simp only [List.append_nil]
  | newline =>
      have enough : callBound lexemes.tail ≤ callBound lexemes := by
        unfold callBound
        rw [List.length_tail]
        omega
      exact (readFile_eq enough).symm
  | name | quoted | operator =>
      cases ruleRead : readRule lexemes with
      | error error => rfl
      | ok reading =>
          have shorter := (spells_of_readRule ruleRead).length_lt
          have enough : callBound reading.2 ≤ callBound lexemes := by
            unfold callBound
            omega
          have known_iff : (NameTree.ofList (earlier.map Rule.name)).contains reading.1.name =
              earlier.any (·.name == reading.1.name) := by
            rw [Bool.eq_iff_iff, NameTree.contains_ofList, List.any_eq_true, List.mem_map]
            simp only [beq_iff_eq]
          by_cases isKnown : earlier.any (·.name == reading.1.name) = true
          · simp only [known_iff, if_pos isKnown]
          · have names_eq : (NameTree.ofList (earlier.map Rule.name)).insert reading.1.name =
                .ofList ((earlier ++ [reading.1]).map Rule.name) := by
              rw [List.map_append, List.map_singleton, NameTree.ofList_concat]
            simp only [known_iff, if_neg isKnown, names_eq, readFile_eq enough]
            cases readLater (callBound lexemes) calls
                (.ofList ((earlier ++ [reading.1]).map Rule.name)) reading.2 with
            | error error => rfl
            | ok later => simp only [List.append_assoc, List.singleton_append]

theorem spells_of_readFile {calls : Nat} {earlier rules : List Rule} {lexemes : List Lexeme}
    (enough : lexemes.length ≤ calls) (success : readFile calls earlier lexemes = .ok rules) :
    ∃ later, rules = earlier ++ later ∧ SpellsFile lexemes later := by
  induction calls generalizing earlier lexemes with
  | zero =>
      rw [readFile_zero] at success
      cases success
      have exhausted : lexemes = [] := List.eq_nil_of_length_eq_zero (Nat.le_zero.mp enough)
      exact ⟨[], (List.append_nil _).symm, .finish (by rw [exhausted]; rfl)⟩
  | succ calls inductionHypothesis =>
      have readRest : ∀ {rule : Rule} {behind : List Lexeme},
          readRule lexemes = .ok (rule, behind) →
          (if earlier.any (·.name == rule.name) then
            .error (.placed (.duplicateRule rule.name) (peek lexemes).location)
          else
            readFile calls (earlier ++ [rule]) behind) = .ok rules →
          ∃ later, rules = earlier ++ later ∧ SpellsFile lexemes later := by
        intro rule behind ruleSuccess restSuccess
        split at restSuccess
        · cases restSuccess
        · have spelled := spells_of_readRule ruleSuccess
          have shorter := spelled.length_lt
          obtain ⟨later, rfl, laterSpelled⟩ :=
            inductionHypothesis (by omega) restSuccess
          exact ⟨rule :: later, by simp, .rule spelled laterSpelled⟩
      rw [readFile_succ] at success
      split at success
      · rename_i isFinish
        cases success
        exact ⟨[], (List.append_nil _).symm, .finish isFinish⟩
      · rename_i isNewline
        have front := eq_peek_cons lexemes (by rw [isNewline]; decide)
        have shorter : lexemes.tail.length ≤ calls := by
          rw [List.length_tail]
          omega
        obtain ⟨later, rfl, laterSpelled⟩ := inductionHypothesis shorter success
        refine ⟨later, rfl, ?_⟩
        rw [front]
        exact .newline isNewline laterSpelled
      all_goals
        split at success
        · cases success
        · rename_i ruleSuccess
          exact readRest ruleSuccess success

/-- The rules of a grammar text are those that its lexemes spell. -/
theorem spells_of_readRules {source : String} {rules : List Rule}
    (success : readRules source = .ok rules) :
    ∃ lexemes, scan source = .ok lexemes ∧ SpellsFile lexemes rules := by
  unfold readRules at success
  split at success
  · cases success
  · rename_i lexemes scanned
    refine ⟨lexemes, scanned, ?_⟩
    unfold rulesOf at success
    split at success
    · cases success
    · cases success
    · rename_i read fileSuccess
      cases success
      obtain ⟨later, rfl, spelled⟩ := spells_of_readFile (Nat.le_refl _) fileSuccess
      exact spelled

end GrammarText

end RuleMachine
