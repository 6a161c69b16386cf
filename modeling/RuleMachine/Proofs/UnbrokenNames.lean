import RuleMachine.Proofs.LabelNumbering
import RuleMachine.Proofs.LexemePlaces
import RuleMachine.Vocabulary.Standard

/-!
# Names without line breaks

A lexeme of a grammar text lies within one line, in front of the line break, whatever it
quotes.  So rule names and literals hold no line break.  If the names of a vocabulary do not
hold one either, the name of every label can stand in one line of a report.
-/

namespace RuleMachine

/-- A text holds no line break. -/
def Text.IsUnbroken (text : String) : Prop :=
  '\n' ∉ text.toList

namespace Text

instance (text : String) : Decidable (IsUnbroken text) :=
  inferInstanceAs (Decidable ('\n' ∉ text.toList))

theorem isUnbroken_append_iff {left right : String} :
    IsUnbroken (left ++ right) ↔ IsUnbroken left ∧ IsUnbroken right := by
  rw [IsUnbroken, String.toList_append, List.mem_append, not_or]
  rfl

theorem isUnbroken_toString (number : Nat) : IsUnbroken (toString number) := by
  intro isBreak
  have digits_eq : (toString number).toList = Nat.toDigits 10 number := String.toList_ofList
  rw [digits_eq] at isBreak
  exact absurd (Nat.isDigit_of_mem_toDigits (by decide) (by decide) isBreak) (by decide)

end Text

open Text

namespace GrammarText

/-! ## Lexemes -/

/-- Of a line, only its end holds the line break. -/
theorem IsStretch.isUnbroken {characters : List Char} {lexeme : Lexeme}
    (isStretch : IsStretch characters lexeme) (isLine : IsLine characters)
    (notNewline : lexeme.kind ≠ .newline) : IsUnbroken lexeme.text := by
  have before := isStretch.endColumn_lt isLine notNewline
  obtain ⟨inner, noBreak, rfl⟩ := isLine
  rw [List.length_append, List.length_singleton] at before
  have notEmpty := isStretch.notEmpty
  have inside : lexeme.text.toList = (inner.drop lexeme.location.startColumn).take
      (lexeme.location.endColumn - lexeme.location.startColumn) := by
    rw [isStretch.spelled, List.drop_append_of_le_length (by omega),
      List.take_append_of_le_length (by rw [List.length_drop]; omega)]
  intro isBreak
  rw [inside] at isBreak
  exact noBreak (List.mem_of_mem_drop (List.mem_of_mem_take isBreak))

theorem isUnbroken_of_scan {source : String} {lexemes : List Lexeme}
    (scanned : scan source = .ok lexemes) :
    ∀ lexeme ∈ lexemes, lexeme.kind ≠ .newline → IsUnbroken lexeme.text := by
  have isLines := isLines_splitLines source.toList
  obtain ⟨inner, rfl, faithful⟩ := faithful_of_scanLines isLines.isLine scanned
  intro lexeme isLexeme notNewline
  rcases List.mem_append.mp isLexeme with inText | isLast
  · obtain ⟨line, ⟨_, _, hasLine⟩, _, isStretch⟩ := faithful.placed lexeme inText
    exact isStretch.isUnbroken (isLines.isLine _ (List.mem_of_getElem? hasLine)) notNewline
  · rw [List.mem_singleton.mp isLast]
    exact List.not_mem_nil

/-- The name of a rule is a name in the text. -/
theorem SpellsFile.exists_name {lexemes : List Lexeme} {rules : List Rule}
    (spelled : SpellsFile lexemes rules) :
    ∀ rule ∈ rules, ∃ lexeme ∈ lexemes, lexeme.kind = .name ∧ lexeme.text = rule.name := by
  induction spelled with
  | finish =>
      intro rule isRule
      cases isRule
  | newline _ _ inductionHypothesis =>
      intro rule isRule
      obtain ⟨lexeme, isLexeme, found⟩ := inductionHypothesis rule isRule
      exact ⟨lexeme, .tail _ isLexeme, found⟩
  | rule ruleSpelled _ inductionHypothesis =>
      cases ruleSpelled with
      | @rule text _ name colon newline body isName _ alternatives _ =>
          refine List.forall_mem_cons.mpr ⟨⟨name, .head _, isName, rfl⟩, ?_⟩
          intro rule isRule
          obtain ⟨lexeme, isLexeme, found⟩ := inductionHypothesis rule isRule
          have inOrder := alternatives.inOrder ((List.Sublist.refl _).cons newline)
          have inText : lexeme ∈ text := inOrder.subset (List.mem_append_right _ isLexeme)
          exact ⟨lexeme, .tail _ (.tail _ inText), found⟩

theorem isUnbroken_of_readRules {source : String} {rules : List Rule}
    (success : readRules source = .ok rules) :
    (∀ rule ∈ rules, IsUnbroken rule.name) ∧
      ∀ term ∈ Grammar.termsOf rules, IsUnbroken term.text := by
  obtain ⟨lexemes, scanned, spelled⟩ := spells_of_readRules success
  have unbroken := isUnbroken_of_scan scanned
  constructor
  · intro rule isRule
    obtain ⟨lexeme, isLexeme, isName, text_eq⟩ := spelled.exists_name rule isRule
    rw [← text_eq]
    refine unbroken lexeme isLexeme ?_
    rw [isName]
    nofun
  · intro term isTerm
    refine unbroken term.lexeme (spelled.sublist.subset (List.mem_map_of_mem isTerm)) ?_
    rw [Term.lexeme]
    split <;> nofun

end GrammarText

/-! ## Labels -/

theorem Term.isUnbroken_literal {term : Term} (unbroken : IsUnbroken term.text) :
    IsUnbroken term.literal := by
  intro isBreak
  rw [Term.literal, String.toList_ofList] at isBreak
  exact unbroken (List.mem_of_mem_drop (List.dropLast_subset _ isBreak))

/-- The literal that a label was written with holds no line break. -/
def Label.IsUnbroken : Label → Prop
  | .keyword text => Text.IsUnbroken text
  | .operator literal _ => Text.IsUnbroken literal
  | .token _ => True
  | .rule _ => True

namespace Grammar

variable {rules : List Rule} {vocabulary : Vocabulary} {start : Option String}
  {grammar : Grammar} {symbolIds : Dictionary String SymbolId}

theorem isUnbroken_of_labelOf {term : Term} {label : Label}
    (isLabel : labelOf symbolIds vocabulary term = .ok label) (unbroken : IsUnbroken term.text) :
    label.IsUnbroken := by
  have literalUnbroken := Term.isUnbroken_literal unbroken
  unfold labelOf at isLabel
  split at isLabel
  · split at isLabel
    · cases isLabel
      exact literalUnbroken
    · split at isLabel
      · cases isLabel
        exact literalUnbroken
      · cases isLabel
  · split at isLabel
    · cases isLabel
      trivial
    · split at isLabel
      · cases isLabel
        trivial
      · cases isLabel

theorem exists_tokenNames_eq (assembled : assemble rules vocabulary start = .ok grammar) :
    ∃ kinds, grammar.tokenNames = namesOf vocabulary kinds := by
  unfold assemble at assembled
  simp only at assembled
  split at assembled
  · cases assembled
  · split at assembled
    · cases assembled
    · split at assembled
      · cases assembled
      · cases assembled
        exact ⟨_, rfl⟩

theorem Compiled.isUnbroken_name (compiled : Compiled rules vocabulary grammar)
    (unbroken : ∀ rule ∈ rules, IsUnbroken rule.name) :
    ∀ automaton ∈ grammar.automata, IsUnbroken automaton.name := by
  intro automaton isAutomaton
  obtain ⟨index, found⟩ := List.mem_iff_getElem?.mp isAutomaton
  obtain ⟨inRange, _⟩ := List.getElem?_eq_some_iff.mp found
  rw [compiled.length] at inRange
  have isRule := List.getElem?_eq_getElem inRange
  rw [(compiled.automaton index _ automaton isRule found).name]
  exact unbroken _ (List.getElem_mem inRange)

section Named

variable (rulesUnbroken : ∀ automaton ∈ grammar.automata, IsUnbroken automaton.name)
  (namesUnbroken : ∀ kind name, grammar.tokenNames.get? kind = some name → IsUnbroken name)

include rulesUnbroken namesUnbroken

theorem isUnbroken_symbolName (symbol : SymbolId) :
    IsUnbroken ((grammar.symbolName? symbol).getD (toString symbol)) := by
  unfold symbolName?
  split
  · rename_i automaton found
    exact rulesUnbroken automaton (mem_automata_of_automaton? found)
  · cases found : grammar.tokenNames.get? symbol with
    | none => exact isUnbroken_toString symbol.toNat
    | some name => exact namesUnbroken symbol name found

theorem isUnbroken_labelName
    (labelsUnbroken : ∀ label ∈ grammar.labels, label.IsUnbroken) (label : LabelId) :
    IsUnbroken (grammar.labelName label) := by
  have quoteUnbroken : IsUnbroken "'" := by decide
  unfold labelName
  split
  · rename_i text found
    have unbroken : IsUnbroken text := labelsUnbroken _ (List.mem_of_getElem? found)
    exact isUnbroken_append_iff.mpr
      ⟨isUnbroken_append_iff.mpr ⟨quoteUnbroken, unbroken⟩, quoteUnbroken⟩
  · rename_i literal kind found
    have unbroken : IsUnbroken literal := labelsUnbroken _ (List.mem_of_getElem? found)
    exact isUnbroken_append_iff.mpr
      ⟨isUnbroken_append_iff.mpr ⟨quoteUnbroken, unbroken⟩, quoteUnbroken⟩
  · exact isUnbroken_symbolName rulesUnbroken namesUnbroken _
  · exact isUnbroken_symbolName rulesUnbroken namesUnbroken _
  · have opening : IsUnbroken "<label " := by decide
    have closing : IsUnbroken ">" := by decide
    exact isUnbroken_append_iff.mpr
      ⟨isUnbroken_append_iff.mpr ⟨opening, isUnbroken_toString label⟩, closing⟩

end Named

/-- In a grammar that was compiled from text against a vocabulary whose names hold no line
break, no rule name and no name of a label holds one. -/
theorem isUnbroken_of_compile {source : String} {policy : AmbiguityPolicy}
    (vocabularyUnbroken : ∀ kind name, vocabulary.tokenName? kind = some name → IsUnbroken name)
    (compiled : compile source vocabulary start policy = .ok grammar) :
    (∀ automaton ∈ grammar.automata, IsUnbroken automaton.name) ∧
      ∀ label, IsUnbroken (grammar.labelName label) := by
  obtain ⟨rules, read, built⟩ := compile_eq_ok compiled
  obtain ⟨rulesUnbroken, termsUnbroken⟩ := GrammarText.isUnbroken_of_readRules read
  obtain ⟨_, assembled, _⟩ := build_eq_ok_iff.mp built
  have automataUnbroken := (compiled_of_build built).1.isUnbroken_name rulesUnbroken
  refine ⟨automataUnbroken, ?_⟩
  refine isUnbroken_labelName automataUnbroken ?_ ?_
  · intro kind name found
    obtain ⟨kinds, names_eq⟩ := exists_tokenNames_eq assembled
    rw [names_eq] at found
    obtain ⟨used, _, isPair⟩ := List.mem_filterMap.mp (Dictionary.mem_of_get?_ofList found)
    obtain ⟨usedName, isName, pair_eq⟩ := Option.map_eq_some_iff.mp isPair
    cases pair_eq
    exact vocabularyUnbroken kind name isName
  · intro label isLabel
    obtain ⟨termLabels, resolved, labels_eq⟩ := exists_labels_eq_of_assemble assembled
    rw [labels_eq, List.mem_eraseDups] at isLabel
    have isResolved : .ok label ∈ termLabels.map (Except.ok (ε := GrammarError)) :=
      List.mem_map_of_mem isLabel
    rw [← resolved] at isResolved
    obtain ⟨term, isTerm, label_eq⟩ := List.mem_map.mp isResolved
    exact isUnbroken_of_labelOf label_eq (termsUnbroken term isTerm)

end Grammar

/-- No token of Python has a line break in its name. -/
theorem Vocabulary.isUnbroken_python (kind : TokenKind) (name : String)
    (isName : python.tokenName? kind = some name) : IsUnbroken name := by
  have entriesUnbroken : ∀ entry ∈ python.names.entries, IsUnbroken entry.2 := by
    decide +kernel
  obtain ⟨earlier, later, entries_eq, _⟩ := List.lookup_eq_some_iff.mp isName
  refine entriesUnbroken (kind, name) ?_
  rw [entries_eq]
  exact List.mem_append_right earlier (.head later)

end RuleMachine
