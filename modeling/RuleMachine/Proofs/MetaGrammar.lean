import RuleMachine.Proofs.EndPaths
import RuleMachine.Proofs.RuleText

/-!
# The grammar of grammar texts

Grammar text has a grammar of its own, which is given here as data:

```text
file:  (rule | NEWLINE)* ENDMARKER
rule:  NAME ':' alts NEWLINE
alts:  items ('|' items)*
items: item+
item:  '[' alts ']' | atom ['+' | '*']
atom:  '(' alts ')' | NAME | STRING
```

Lexemes are derived from a category by these forms alone.  A list of lexemes with one end
marker, which is its last lexeme, is derived from `file` exactly if it spells rules, and
the names of these rules are what stands before the colons.

From a spelling to a derivation the proof follows the spelling.  The other way round, the
derived lexemes are the least languages that satisfy the forms, and what is spelled
satisfies them.
-/

namespace RuleMachine

open scoped Computability

namespace GrammarText

/-! ## Categories and derivations -/

/-- The categories of grammar text. -/
inductive Category where
  | file
  | rule
  | alternatives
  | items
  | item
  | atom
  deriving DecidableEq, Repr

/-- What the form of a category is made of. -/
inductive Constituent where
  | category (category : Category)
  | kind (kind : LexemeKind)
  | operator (spelling : String)
  deriving DecidableEq, Repr

/-- The forms of the categories. -/
def Category.form : Category → Expr Constituent
  | .file =>
      .seq (.star (.alt (.term (.category .rule)) (.term (.kind .newline))))
        (.term (.kind .endMarker))
  | .rule =>
      .seq (.term (.kind .name)) (.seq (.term (.operator ":"))
        (.seq (.term (.category .alternatives)) (.term (.kind .newline))))
  | .alternatives =>
      .seq (.term (.category .items))
        (.star (.seq (.term (.operator "|")) (.term (.category .items))))
  | .items => .plus (.term (.category .item))
  | .item =>
      .alt
        (.seq (.term (.operator "[")) (.seq (.term (.category .alternatives))
          (.term (.operator "]"))))
        (.seq (.term (.category .atom))
          (.opt (.alt (.term (.operator "+")) (.term (.operator "*")))))
  | .atom =>
      .alt
        (.seq (.term (.operator "(")) (.seq (.term (.category .alternatives))
          (.term (.operator ")"))))
        (.alt (.term (.kind .name)) (.term (.kind .quoted)))

/-- Lexemes are derived from an expression over the constituents of forms. -/
inductive Derived : Expr Constituent → List Lexeme → Prop
  | kind {kind : LexemeKind} {lexeme : Lexeme} :
      lexeme.kind = kind → Derived (.term (.kind kind)) [lexeme]
  | operator {spelling : String} {lexeme : Lexeme} :
      lexeme.isOperator spelling = true → Derived (.term (.operator spelling)) [lexeme]
  | category {category : Category} {word : List Lexeme} :
      Derived category.form word → Derived (.term (.category category)) word
  | seq {left right : Expr Constituent} {first second : List Lexeme} :
      Derived left first → Derived right second → Derived (.seq left right) (first ++ second)
  | altLeft {left right : Expr Constituent} {word : List Lexeme} :
      Derived left word → Derived (.alt left right) word
  | altRight {left right : Expr Constituent} {word : List Lexeme} :
      Derived right word → Derived (.alt left right) word
  | optNone {body : Expr Constituent} : Derived (.opt body) []
  | optSome {body : Expr Constituent} {word : List Lexeme} :
      Derived body word → Derived (.opt body) word
  | plus {body : Expr Constituent} {first others : List Lexeme} :
      Derived body first → Derived (.star body) others → Derived (.plus body) (first ++ others)
  | starNone {body : Expr Constituent} : Derived (.star body) []
  | starMore {body : Expr Constituent} {first others : List Lexeme} :
      Derived body first → Derived (.star body) others → Derived (.star body) (first ++ others)

/-- Lexemes are derived from a category. -/
def Category.Derives (category : Category) (word : List Lexeme) : Prop :=
  Derived category.form word

/-! ## Spelled lexemes are derived -/

theorem isOperator_eq_false {lexeme : Lexeme} {spelling other : String}
    (isOperator : lexeme.isOperator spelling = true) (different : spelling ≠ other) :
    lexeme.isOperator other = false := by
  simp only [Lexeme.isOperator, Bool.and_eq_true, beq_iff_eq] at isOperator
  simp only [Lexeme.isOperator, isOperator.2, beq_eq_false_iff_ne.mpr different, Bool.and_false]

/-- A lexeme that is neither a colon nor the end marker. -/
def IsInner (lexeme : Lexeme) : Prop :=
  lexeme.kind ≠ .endMarker ∧ lexeme.isOperator ":" = false

theorem isInner_of_isOperator {lexeme : Lexeme} {spelling : String}
    (isOperator : lexeme.isOperator spelling = true) (notColon : spelling ≠ ":") :
    IsInner lexeme := by
  refine ⟨?_, isOperator_eq_false isOperator notColon⟩
  intro isMarker
  rw [isOperator_eq_false_of_kind (by rw [isMarker]; decide)] at isOperator
  cases isOperator

theorem isInner_of_kind {lexeme : Lexeme} {kind : LexemeKind} (isKind : lexeme.kind = kind)
    (notMarker : kind ≠ .endMarker) (notOperator : kind ≠ .operator) : IsInner lexeme := by
  subst isKind
  exact ⟨notMarker, isOperator_eq_false_of_kind notOperator ":"⟩

/-- The lexemes in front, up to what stands behind them, are derived from a category. -/
def TakesDerived (category : Category) (text behind : List Lexeme) : Prop :=
  ∃ taken, text = taken ++ behind ∧ category.Derives taken ∧ ∀ lexeme ∈ taken, IsInner lexeme

section Derivation

variable {text rest behind : List Lexeme} {opening closing mark : Lexeme}

/-- Alternatives between two brackets. -/
theorem TakesDerived.enclosed (opens : String) (closes : String)
    (isOpening : opening.isOperator opens = true) (notColon : opens ≠ ":")
    (body : TakesDerived .alternatives text (closing :: behind))
    (isClosing : closing.isOperator closes = true) (closesNotColon : closes ≠ ":") :
    ∃ taken, opening :: text = taken ++ behind ∧
      Derived (.seq (.term (.operator opens)) (.seq (.term (.category .alternatives))
        (.term (.operator closes)))) taken ∧ ∀ lexeme ∈ taken, IsInner lexeme := by
  obtain ⟨inside, rfl, derived, areInner⟩ := body
  refine ⟨[opening] ++ (inside ++ [closing]), by simp,
    .seq (.operator isOpening) (.seq (.category derived) (.operator isClosing)), ?_⟩
  have openingInner := List.forall_mem_singleton.mpr (isInner_of_isOperator isOpening notColon)
  have closingInner := List.forall_mem_singleton.mpr
    (isInner_of_isOperator isClosing closesNotColon)
  exact List.forall_mem_append.mpr ⟨openingInner,
    List.forall_mem_append.mpr ⟨areInner, closingInner⟩⟩

/-- An atom and, if there is one, the repetition mark behind it. -/
theorem TakesDerived.repeated (atom : TakesDerived .atom text (mark :: behind)) {spelling : String}
    (isMark : mark.isOperator spelling = true) (isRepetition : spelling = "+" ∨ spelling = "*") :
    TakesDerived .item text behind := by
  obtain ⟨taken, rfl, derived, areInner⟩ := atom
  have markDerived : Derived (.alt (.term (.operator "+")) (.term (.operator "*"))) [mark] := by
    rcases isRepetition with rfl | rfl
    · exact .altLeft (.operator isMark)
    · exact .altRight (.operator isMark)
  have notColon : spelling ≠ ":" := by
    rcases isRepetition with rfl | rfl <;> decide
  refine ⟨taken ++ [mark], by simp, .altRight (.seq (.category derived) (.optSome markDerived)), ?_⟩
  exact List.forall_mem_append.mpr ⟨areInner,
    List.forall_mem_singleton.mpr (isInner_of_isOperator isMark notColon)⟩

theorem TakesDerived.bar (items : TakesDerived .items text (mark :: rest))
    (isBar : mark.isOperator "|" = true) (others : TakesDerived .alternatives rest behind) :
    TakesDerived .alternatives text behind := by
  obtain ⟨first, rfl, firstDerived, firstInner⟩ := items
  obtain ⟨second, rfl, secondDerived, secondInner⟩ := others
  have isInner := isInner_of_isOperator isBar (by decide)
  refine ⟨first ++ mark :: second, by simp, ?_,
    List.forall_mem_append.mpr ⟨firstInner, List.forall_mem_cons.mpr ⟨isInner, secondInner⟩⟩⟩
  -- The bar joins the items behind it to the repetition that follows them.
  cases secondDerived with
  | seq itemsDerived othersDerived =>
      exact .seq (.category firstDerived)
        (.starMore (.seq (.operator isBar) itemsDerived) othersDerived)

theorem TakesDerived.more (item : TakesDerived .item text rest)
    (others : TakesDerived .items rest behind) : TakesDerived .items text behind := by
  obtain ⟨first, rfl, firstDerived, firstInner⟩ := item
  obtain ⟨second, rfl, secondDerived, secondInner⟩ := others
  refine ⟨first ++ second, by simp, ?_, List.forall_mem_append.mpr ⟨firstInner, secondInner⟩⟩
  cases secondDerived with
  | plus itemDerived othersDerived =>
      exact .plus (.category firstDerived) (.starMore itemDerived othersDerived)

end Derivation

mutual

theorem SpellsAlternatives.takesDerived {text behind : List Lexeme} {expression : Expr Term} :
    SpellsAlternatives text expression behind → TakesDerived .alternatives text behind
  | .single items => by
      obtain ⟨taken, text_eq, derived, areInner⟩ := items.takesDerived
      refine ⟨taken, text_eq, ?_, areInner⟩
      rw [← List.append_nil taken]
      exact .seq (.category derived) .starNone
  | .bar items isBar others => items.takesDerived.bar isBar others.takesDerived

theorem SpellsItems.takesDerived {text behind : List Lexeme} {expression : Expr Term} :
    SpellsItems text expression behind → TakesDerived .items text behind
  | .single item => by
      obtain ⟨taken, text_eq, derived, areInner⟩ := item.takesDerived
      refine ⟨taken, text_eq, ?_, areInner⟩
      rw [← List.append_nil taken]
      exact .plus (.category derived) .starNone
  | .more item others => item.takesDerived.more others.takesDerived

theorem SpellsItem.takesDerived {text behind : List Lexeme} {expression : Expr Term} :
    SpellsItem text expression behind → TakesDerived .item text behind
  | .optional isOpening body isClosing => by
      obtain ⟨taken, text_eq, derived, areInner⟩ := body.takesDerived.enclosed "[" "]"
        isOpening (by decide) isClosing (by decide)
      exact ⟨taken, text_eq, .altLeft derived, areInner⟩
  | .once atom => by
      obtain ⟨taken, text_eq, derived, areInner⟩ := atom.takesDerived
      refine ⟨taken, text_eq, ?_, areInner⟩
      rw [← List.append_nil taken]
      exact .altRight (.seq (.category derived) .optNone)
  | .plus atom isMark => atom.takesDerived.repeated isMark (.inl rfl)
  | .star atom isMark => atom.takesDerived.repeated isMark (.inr rfl)

theorem SpellsAtom.takesDerived {text behind : List Lexeme} {expression : Expr Term} :
    SpellsAtom text expression behind → TakesDerived .atom text behind
  | .group isOpening body isClosing => by
      obtain ⟨taken, text_eq, derived, areInner⟩ := body.takesDerived.enclosed "(" ")"
        isOpening (by decide) isClosing (by decide)
      exact ⟨taken, text_eq, .altLeft derived, areInner⟩
  | .name isName => ⟨[_], rfl, .altRight (.altLeft (.kind isName)),
      List.forall_mem_singleton.mpr (isInner_of_kind isName (by decide) (by decide))⟩
  | .quoted isQuoted => ⟨[_], rfl, .altRight (.altRight (.kind isQuoted)),
      List.forall_mem_singleton.mpr (isInner_of_kind isQuoted (by decide) (by decide))⟩

end

theorem SpellsRule.exists_derived {text behind : List Lexeme} {rule : Rule}
    (spelled : SpellsRule text rule behind) :
    ∃ taken, text = taken ++ behind ∧ Category.rule.Derives taken ∧
      ∀ lexeme ∈ taken, lexeme.kind ≠ .endMarker := by
  cases spelled with
  | rule isName isColon body isNewline =>
      rename_i name colon newline body
      obtain ⟨inside, rfl, derived, areInner⟩ := body.takesDerived
      refine ⟨[name] ++ ([colon] ++ (inside ++ [newline])), by simp,
        .seq (.kind isName) (.seq (.operator isColon) (.seq (.category derived)
          (.kind isNewline))), ?_⟩
      have notMarker : colon.kind ≠ .endMarker := by
        intro isMarker
        rw [isOperator_eq_false_of_kind (by rw [isMarker]; decide)] at isColon
        cases isColon
      simp only [List.forall_mem_append, List.forall_mem_singleton, isName, isNewline]
      exact ⟨by decide, notMarker, fun lexeme isInside => (areInner lexeme isInside).1, by decide⟩

/-! ## Files -/

/-- The end marker is the last lexeme and no other. -/
def IsTerminated : List Lexeme → Prop
  | [] => False
  | lexeme :: later => if lexeme.kind = .endMarker then later = [] else IsTerminated later

theorem isTerminated_append_iff {taken behind : List Lexeme}
    (notMarker : ∀ lexeme ∈ taken, lexeme.kind ≠ .endMarker) :
    IsTerminated (taken ++ behind) ↔ IsTerminated behind := by
  induction taken with
  | nil => exact Iff.rfl
  | cons lexeme later inductionHypothesis =>
      obtain ⟨firstNotMarker, laterNotMarker⟩ := List.forall_mem_cons.mp notMarker
      rw [List.cons_append, IsTerminated, if_neg firstNotMarker,
        inductionHypothesis laterNotMarker]

theorem IsTerminated.eq_singleton {lexemes : List Lexeme} (terminated : IsTerminated lexemes)
    (isMarker : (peek lexemes).kind = .endMarker) :
    ∃ marker, lexemes = [marker] ∧ marker.kind = .endMarker := by
  cases lexemes with
  | nil => exact terminated.elim
  | cons marker later =>
      have isFirst : marker.kind = .endMarker := isMarker
      rw [IsTerminated, if_pos isFirst] at terminated
      exact ⟨marker, by rw [terminated], isFirst⟩

theorem IsTerminated.tail {lexeme : Lexeme} {later : List Lexeme}
    (terminated : IsTerminated (lexeme :: later)) (notMarker : lexeme.kind ≠ .endMarker) :
    IsTerminated later := by
  rwa [IsTerminated, if_neg notMarker] at terminated

/-- One more line before a derived file. -/
theorem derives_file_append {line behind : List Lexeme}
    (lineDerived : Derived (.alt (.term (.category .rule)) (.term (.kind .newline))) line)
    (fileDerived : Category.file.Derives behind) : Category.file.Derives (line ++ behind) := by
  cases fileDerived with
  | seq linesDerived markerDerived =>
      rw [← List.append_assoc]
      exact .seq (.starMore lineDerived linesDerived) markerDerived

theorem SpellsFile.derives {lexemes : List Lexeme} {rules : List Rule}
    (spelled : SpellsFile lexemes rules) (terminated : IsTerminated lexemes) :
    Category.file.Derives lexemes := by
  induction spelled with
  | finish isMarker =>
      obtain ⟨marker, rfl, isEnd⟩ := terminated.eq_singleton isMarker
      exact .seq .starNone (.kind isEnd)
  | newline isNewline _ inductionHypothesis =>
      have behindTerminated := terminated.tail (by rw [isNewline]; decide)
      exact derives_file_append (.altRight (.kind isNewline))
        (inductionHypothesis behindTerminated)
  | rule ruleSpelled _ inductionHypothesis =>
      obtain ⟨taken, rfl, derived, notMarker⟩ := ruleSpelled.exists_derived
      have behindTerminated := (isTerminated_append_iff notMarker).mp terminated
      exact derives_file_append (.altLeft (.category derived))
        (inductionHypothesis behindTerminated)

/-- The texts of the lexemes that stand before a colon, from left to right. -/
def declaredNames : List Lexeme → List String
  | [] => []
  | lexeme :: later =>
      if (peek later).isOperator ":" then lexeme.text :: declaredNames later
      else declaredNames later

section Names

variable {taken behind : List Lexeme}

theorem isOperator_peek_append (noColon : ∀ lexeme ∈ taken, IsInner lexeme)
    (notColon : (peek behind).isOperator ":" = false) :
    (peek (taken ++ behind)).isOperator ":" = false := by
  cases taken with
  | nil => exact notColon
  | cons lexeme later => exact (noColon lexeme (.head later)).2

/-- Lexemes without a colon declare nothing. -/
theorem declaredNames_append (noColon : ∀ lexeme ∈ taken, IsInner lexeme)
    (notColon : (peek behind).isOperator ":" = false) :
    declaredNames (taken ++ behind) = declaredNames behind := by
  induction taken with
  | nil => rfl
  | cons lexeme later inductionHypothesis =>
      obtain ⟨_, laterNoColon⟩ := List.forall_mem_cons.mp noColon
      have laterNotColon := isOperator_peek_append laterNoColon notColon
      rw [List.cons_append, declaredNames, laterNotColon, if_neg Bool.false_ne_true]
      exact inductionHypothesis laterNoColon

theorem SpellsRule.declaredNames_eq {text : List Lexeme} {rule : Rule}
    (spelled : SpellsRule text rule behind) (notColon : (peek behind).isOperator ":" = false) :
    declaredNames text = rule.name :: declaredNames behind := by
  cases spelled with
  | rule isName isColon body isNewline =>
      rename_i inside name colon newline body
      obtain ⟨taken, rfl, _, areInner⟩ := body.takesDerived
      have newlineInner : IsInner newline := isInner_of_kind isNewline (by decide) (by decide)
      have newlineNotColon : (peek (newline :: behind)).isOperator ":" = false := newlineInner.2
      have insideNotColon := isOperator_peek_append areInner newlineNotColon
      calc declaredNames (name :: colon :: (taken ++ newline :: behind))
          = name.text :: declaredNames (colon :: (taken ++ newline :: behind)) := by
            rw [declaredNames, if_pos (show (peek (colon :: _)).isOperator ":" = true from isColon)]
        _ = name.text :: declaredNames (taken ++ newline :: behind) := by
            rw [declaredNames, insideNotColon, if_neg Bool.false_ne_true]
        _ = name.text :: declaredNames (newline :: behind) := by
            rw [declaredNames_append areInner newlineNotColon]
        _ = name.text :: declaredNames behind := by
            rw [declaredNames, notColon, if_neg Bool.false_ne_true]

theorem SpellsFile.isOperator_peek {lexemes : List Lexeme} {rules : List Rule}
    (spelled : SpellsFile lexemes rules) : (peek lexemes).isOperator ":" = false := by
  cases spelled with
  | finish isMarker => exact isOperator_eq_false_of_kind (by rw [isMarker]; decide) ":"
  | newline isNewline _ => exact (isInner_of_kind isNewline (by decide) (by decide)).2
  | rule ruleSpelled _ =>
      cases ruleSpelled with
      | rule isName _ _ _ => exact (isInner_of_kind isName (by decide) (by decide)).2

/-- The rules of a file have the declared names, in the order of the text. -/
theorem SpellsFile.declaredNames_eq {lexemes : List Lexeme} {rules : List Rule}
    (spelled : SpellsFile lexemes rules) (terminated : IsTerminated lexemes) :
    declaredNames lexemes = rules.map Rule.name := by
  induction spelled with
  | finish isMarker =>
      obtain ⟨marker, rfl, _⟩ := terminated.eq_singleton isMarker
      rfl
  | newline isNewline others inductionHypothesis =>
      have behindTerminated := terminated.tail (by rw [isNewline]; decide)
      rw [declaredNames, others.isOperator_peek, if_neg Bool.false_ne_true]
      exact inductionHypothesis behindTerminated
  | rule ruleSpelled others inductionHypothesis =>
      rw [ruleSpelled.declaredNames_eq others.isOperator_peek, List.map_cons]
      obtain ⟨taken, rfl, _, notMarker⟩ := ruleSpelled.exists_derived
      rw [inductionHypothesis ((isTerminated_append_iff notMarker).mp terminated)]

end Names

/-! ## Derived lexemes are spelled -/

/-- The words of a constituent, where each category has the given words. -/
def Constituent.words (ofCategory : Category → Language Lexeme) : Constituent → Language Lexeme
  | .category part => ofCategory part
  | .kind wanted => {word | ∃ lexeme, lexeme.kind = wanted ∧ word = [lexeme]}
  | .operator spelling => {word | ∃ lexeme, lexeme.isOperator spelling = true ∧ word = [lexeme]}

/-- What is derived lies in all languages that satisfy the forms. -/
theorem Derived.mem_language {ofCategory : Category → Language Lexeme}
    (closed : ∀ category : Category,
      category.form.language (Constituent.words ofCategory) ≤ ofCategory category)
    {expression : Expr Constituent} {word : List Lexeme} (derived : Derived expression word) :
    word ∈ expression.language (Constituent.words ofCategory) := by
  induction derived with
  | kind isKind => exact ⟨_, isKind, rfl⟩
  | operator isOperator => exact ⟨_, isOperator, rfl⟩
  | category _ inductionHypothesis => exact closed _ inductionHypothesis
  | seq _ _ leftHypothesis rightHypothesis =>
      exact Language.append_mem_mul leftHypothesis rightHypothesis
  | altLeft _ inductionHypothesis => exact .inl inductionHypothesis
  | altRight _ inductionHypothesis => exact .inr inductionHypothesis
  | optNone => exact .inr Language.nil_mem_one
  | optSome _ inductionHypothesis => exact .inl inductionHypothesis
  | plus _ _ firstHypothesis othersHypothesis =>
      exact Language.append_mem_mul firstHypothesis othersHypothesis
  | starNone => exact Language.nil_mem_kstar _
  | starMore _ _ firstHypothesis othersHypothesis =>
      rw [Expr.language, ← one_add_mul_kstar]
      exact .inr (Language.append_mem_mul firstHypothesis othersHypothesis)

/-- The lexemes that spell a category, whatever stands behind them. -/
def spelledWords : Category → Language Lexeme
  | .file => {word | ∃ rules, SpellsFile word rules}
  | .rule => {word | ∃ rule, ∀ behind, SpellsRule (word ++ behind) rule behind}
  | .alternatives =>
      {word | ∃ expression, ∀ behind, SpellsAlternatives (word ++ behind) expression behind}
  | .items => {word | ∃ expression, ∀ behind, SpellsItems (word ++ behind) expression behind}
  | .item => {word | ∃ expression, ∀ behind, SpellsItem (word ++ behind) expression behind}
  | .atom => {word | ∃ expression, ∀ behind, SpellsAtom (word ++ behind) expression behind}

/-- The form of a category, with spelled words for the categories in it. -/
def formWords (category : Category) : Language Lexeme :=
  category.form.language (Constituent.words spelledWords)

/-- Alternatives between two operators. -/
theorem exists_of_enclosed {opens closes : String} {word : List Lexeme}
    (enclosed : word ∈ Constituent.words spelledWords (.operator opens) *
      (spelledWords .alternatives * Constituent.words spelledWords (.operator closes))) :
    ∃ opening inside closing body, word = opening :: (inside ++ [closing]) ∧
      opening.isOperator opens = true ∧ closing.isOperator closes = true ∧
      ∀ behind, SpellsAlternatives (inside ++ behind) body behind := by
  obtain ⟨_, ⟨opening, isOpening, rfl⟩, _, ⟨inside, ⟨body, spelled⟩, _,
    ⟨closing, isClosing, rfl⟩, rfl⟩, rfl⟩ := enclosed
  exact ⟨opening, inside, closing, body, rfl, isOpening, isClosing, spelled⟩

theorem formWords_atom_le : formWords .atom ≤ spelledWords .atom := by
  rintro word (enclosed | named | quoted)
  · obtain ⟨opening, inside, closing, body, rfl, isOpening, isClosing, spelled⟩ :=
      exists_of_enclosed enclosed
    refine ⟨body, fun behind => ?_⟩
    rw [List.cons_append, List.append_assoc]
    exact .group isOpening (spelled (closing :: behind)) isClosing
  · obtain ⟨lexeme, isName, rfl⟩ := named
    exact ⟨_, fun behind => .name isName⟩
  · obtain ⟨lexeme, isQuoted, rfl⟩ := quoted
    exact ⟨_, fun behind => .quoted isQuoted⟩

theorem formWords_item_le : formWords .item ≤ spelledWords .item := by
  rintro word (enclosed | repeated)
  · obtain ⟨opening, inside, closing, body, rfl, isOpening, isClosing, spelled⟩ :=
      exists_of_enclosed enclosed
    refine ⟨.opt body, fun behind => ?_⟩
    rw [List.cons_append, List.append_assoc]
    exact .optional isOpening (spelled (closing :: behind)) isClosing
  · obtain ⟨first, ⟨atom, spelled⟩, marks, isMarked, rfl⟩ := repeated
    rcases isMarked with (⟨mark, isPlus, rfl⟩ | ⟨mark, isStar, rfl⟩) | rfl
    · refine ⟨.plus atom, fun behind => ?_⟩
      rw [List.append_assoc]
      exact .plus (spelled (mark :: behind)) isPlus
    · refine ⟨.star atom, fun behind => ?_⟩
      rw [List.append_assoc]
      exact .star (spelled (mark :: behind)) isStar
    · refine ⟨atom, fun behind => ?_⟩
      simp only [List.append_nil]
      exact .once (spelled behind)

theorem formWords_items_le : formWords .items ≤ spelledWords .items := by
  have single : spelledWords .item ≤ spelledWords .items := by
    rintro word ⟨item, spelled⟩
    exact ⟨item, fun behind => .single (spelled behind)⟩
  have more : spelledWords .item * spelledWords .items ≤ spelledWords .items := by
    rintro _ ⟨first, ⟨item, itemSpelled⟩, second, ⟨others, othersSpelled⟩, rfl⟩
    refine ⟨.seq item others, fun behind => ?_⟩
    rw [List.append_assoc]
    exact .more (itemSpelled (second ++ behind)) (othersSpelled behind)
  calc formWords .items
      = spelledWords .item * (spelledWords .item)∗ := rfl
    _ = (spelledWords .item)∗ * spelledWords .item := (Language.mul_self_kstar_comm _).symm
    _ ≤ spelledWords .items := kstar_mul_le single more

/-- Items, and further items that each stand behind a bar. -/
theorem append_flatten_mem_spelledWords {first : List Lexeme} {others : List (List Lexeme)}
    (isFirst : first ∈ spelledWords .items)
    (areOthers : ∀ word ∈ others,
      word ∈ Constituent.words spelledWords (.operator "|") * spelledWords .items) :
    first ++ others.flatten ∈ spelledWords .alternatives := by
  induction others generalizing first with
  | nil =>
      obtain ⟨items, spelled⟩ := isFirst
      refine ⟨items, fun behind => ?_⟩
      rw [List.flatten_nil, List.append_nil]
      exact .single (spelled behind)
  | cons word others inductionHypothesis =>
      obtain ⟨isWord, areLater⟩ := List.forall_mem_cons.mp areOthers
      obtain ⟨_, ⟨mark, isBar, rfl⟩, second, isSecond, rfl⟩ := isWord
      obtain ⟨items, itemsSpelled⟩ := isFirst
      obtain ⟨alternatives, spelled⟩ := inductionHypothesis isSecond areLater
      refine ⟨.alt items alternatives, fun behind => ?_⟩
      have front := itemsSpelled (mark :: (second ++ others.flatten ++ behind))
      simp only [List.flatten_cons, List.append_assoc, List.cons_append, List.nil_append] at front ⊢
      refine .bar front isBar ?_
      rw [← List.append_assoc]
      exact spelled behind

theorem formWords_alternatives_le : formWords .alternatives ≤ spelledWords .alternatives := by
  rintro _ ⟨first, isFirst, _, ⟨others, rfl, areOthers⟩, rfl⟩
  exact append_flatten_mem_spelledWords isFirst areOthers

theorem formWords_rule_le : formWords .rule ≤ spelledWords .rule := by
  rintro _ ⟨_, ⟨name, isName, rfl⟩, _, ⟨_, ⟨colon, isColon, rfl⟩, _, ⟨inside, ⟨body, spelled⟩, _,
    ⟨newline, isNewline, rfl⟩, rfl⟩, rfl⟩, rfl⟩
  refine ⟨⟨name.text, body⟩, fun behind => ?_⟩
  have inner := spelled (newline :: behind)
  simp only [List.cons_append, List.append_assoc, List.nil_append]
  exact .rule isName isColon inner isNewline

theorem formWords_file_le : formWords .file ≤ spelledWords .file := by
  refine kstar_mul_le ?_ ?_
  · rintro _ ⟨marker, isMarker, rfl⟩
    exact ⟨[], .finish isMarker⟩
  · rintro _ ⟨line, (⟨rule, ruleSpelled⟩ | ⟨newline, isNewline, rfl⟩), behind,
      ⟨rules, spelled⟩, rfl⟩
    · exact ⟨rule :: rules, .rule (ruleSpelled behind) spelled⟩
    · exact ⟨rules, .newline isNewline spelled⟩

theorem formWords_le (category : Category) : formWords category ≤ spelledWords category := by
  cases category with
  | file => exact formWords_file_le
  | rule => exact formWords_rule_le
  | alternatives => exact formWords_alternatives_le
  | items => exact formWords_items_le
  | item => exact formWords_item_le
  | atom => exact formWords_atom_le

/-- A file is derived exactly if its lexemes spell rules. -/
theorem derives_file_iff {lexemes : List Lexeme} (terminated : IsTerminated lexemes) :
    Category.file.Derives lexemes ↔ ∃ rules, SpellsFile lexemes rules := by
  constructor
  · intro derived
    exact formWords_le .file (derived.mem_language formWords_le)
  · rintro ⟨rules, spelled⟩
    exact spelled.derives terminated

end GrammarText

end RuleMachine
