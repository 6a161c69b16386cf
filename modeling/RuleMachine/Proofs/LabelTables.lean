import RuleMachine.Proofs.Compilation

/-!
# What a table of labels holds

Labels are only entered for the terms of rules.  So an operator is entered with the
kind that the vocabulary gives it, keywords and operators differ in their first
character, and a rule label bears a symbol of the grammar.  No two labels of a table
are looked up in the same way, hence every terminal label is found under its own
number.
-/

namespace RuleMachine

/-! ## Looking up labels -/

/-- What a terminal label is looked up by. -/
inductive LabelKey where
  | keyword (text : String)
  | operator (literal : String)
  | token (kind : TokenKind)
  deriving DecidableEq

namespace Label

variable {symbolIds : Dictionary String SymbolId} {vocabulary : Vocabulary} {term : Term}
  {label other : Label} {key : LabelKey}

/-- What a label is looked up by, unless it is the label of a rule. -/
def key? : Label → Option LabelKey
  | .keyword text => some (.keyword text)
  | .operator literal _ => some (.operator literal)
  | .token kind => some (.token kind)
  | .rule _ => none

/-- A label is one that a term can have. -/
def Fits (symbolIds : Dictionary String SymbolId) (vocabulary : Vocabulary) : Label → Prop
  | .keyword text => Grammar.isKeyword text = true
  | .operator literal kind =>
      Grammar.isKeyword literal = false ∧ vocabulary.operatorKind? literal = some kind
  | .token kind => ∃ name, vocabulary.tokenKind? name = some kind
  | .rule symbol => ∃ name, symbolIds.get? name = some symbol

theorem fits_of_labelOf (isLabel : Grammar.labelOf symbolIds vocabulary term = .ok label) :
    label.Fits symbolIds vocabulary := by
  unfold Grammar.labelOf at isLabel
  split at isLabel
  · split at isLabel
    · rename_i isKeyword
      cases isLabel
      exact isKeyword
    · rename_i notKeyword
      split at isLabel
      · rename_i kind found
        cases isLabel
        exact ⟨Bool.eq_false_iff.mpr notKeyword, found⟩
      · cases isLabel
  · split at isLabel
    · rename_i symbol found
      cases isLabel
      exact ⟨term.text, found⟩
    · split at isLabel
      · rename_i kind found
        cases isLabel
        exact ⟨term.text, found⟩
      · cases isLabel

theorem Fits.eq_of_key? (fits : label.Fits symbolIds vocabulary)
    (otherFits : other.Fits symbolIds vocabulary) (isKey : label.key? = some key)
    (isOtherKey : other.key? = some key) : label = other := by
  have sameKey : label.key? = other.key? := isKey.trans isOtherKey.symm
  clear isOtherKey
  cases label with
  | keyword text =>
      cases other with
      | keyword otherText => simpa [key?] using sameKey
      | operator | token | rule => simp [key?] at sameKey
  | operator literal kind =>
      cases other with
      | operator otherLiteral otherKind =>
          obtain rfl : literal = otherLiteral := by simpa [key?] using sameKey
          have sameKind := fits.2.symm.trans otherFits.2
          rw [Option.some.inj sameKind]
      | keyword | token | rule => simp [key?] at sameKey
  | token kind =>
      cases other with
      | token otherKind => simpa [key?] using sameKey
      | keyword | operator | rule => simp [key?] at sameKey
  | rule symbol => simp [key?] at isKey

end Label

namespace LabelTable

variable {symbolIds : Dictionary String SymbolId} {vocabulary : Vocabulary}
  {table : LabelTable} {label : Label} {number : LabelId} {key : LabelKey}

/-- The number that the index of a key leads to. -/
def find? (table : LabelTable) : LabelKey → Option LabelId
  | .keyword text => table.keywordIds.get? text
  | .operator literal => table.operatorIds.get? literal
  | .token kind => table.tokenIds.get? kind

theorem find?_index (table : LabelTable) (label : Label) (number : LabelId) (key : LabelKey) :
    (table.index label number).find? key =
      if label.key? = some key then some number else table.find? key := by
  cases label <;> cases key <;>
    simp [index, find?, Label.key?, Dictionary.get?_insert, eq_comm]

/-- A table holds labels of terms only, and finds each terminal one under its number. -/
structure Exact (symbolIds : Dictionary String SymbolId) (vocabulary : Vocabulary)
    (table : LabelTable) : Prop where
  fits : ∀ number label, table.get? number = some label → label.Fits symbolIds vocabulary
  found : ∀ number label key, table.get? number = some label → label.key? = some key →
    table.find? key = some number

theorem exact_empty : LabelTable.empty.Exact symbolIds vocabulary := by
  constructor
  · intro number label found
    cases found
  · intro number label key found
    cases found

theorem Exact.intern (exact : table.Exact symbolIds vocabulary)
    (fits : label.Fits symbolIds vocabulary) :
    (table.intern label).2.Exact symbolIds vocabulary := by
  unfold LabelTable.intern
  split
  · assumption
  · rename_i missing
    have isNew := Roster.not_mem_of_numberOf?_eq_none missing
    -- A label of the extended table is an old one, or the new one under the last number.
    have cases_of_get? : ∀ {tested : Label} {place : Nat},
        (LabelTable.index { table with roster := table.roster.enroll label } label
          table.roster.size).get? place = some tested →
        table.get? place = some tested ∨ place = table.roster.size ∧ tested = label := by
      intro tested place found
      rw [LabelTable.get?, roster_index, Roster.get?, Roster.enroll, dif_neg isNew] at found
      by_cases inRange : place < table.roster.items.length
      · rw [List.getElem?_append_left inRange] at found
        exact .inl found
      · rw [List.getElem?_append_right (Nat.le_of_not_lt inRange)] at found
        obtain ⟨isLast, isLabel⟩ := List.getElem?_eq_some_iff.mp found
        rw [List.length_singleton] at isLast
        have isPlace : place = table.roster.items.length := by omega
        rw [List.getElem_singleton] at isLabel
        exact .inr ⟨isPlace, isLabel.symm⟩
    constructor
    · intro place tested found
      rcases cases_of_get? found with isOld | ⟨_, rfl⟩
      · exact exact.fits place tested isOld
      · exact fits
    · intro place tested key found isKey
      rw [find?_index]
      rcases cases_of_get? found with isOld | ⟨rfl, rfl⟩
      · have differs : label.key? ≠ some key := by
          intro sameKey
          have same := fits.eq_of_key? (exact.fits place tested isOld) sameKey isKey
          exact isNew (same ▸ List.mem_of_getElem? isOld)
        rw [if_neg differs]
        exact exact.found place tested key isOld isKey
      · rw [if_pos isKey]

end LabelTable

namespace Grammar

variable {symbolIds : Dictionary String SymbolId} {vocabulary : Vocabulary}

/-! ## Properties that interning keeps -/

section Kept

variable {Holds : LabelTable → Prop}
  (keeps : ∀ table term label, labelOf symbolIds vocabulary term = .ok label →
    Holds table → Holds (table.intern label).2)

include keeps in
theorem holds_of_resolve {expression : Expr Term} {table extended : LabelTable}
    {resolved : Expr LabelId}
    (success : resolve symbolIds vocabulary expression table = .ok (resolved, extended))
    (holds : Holds table) : Holds extended := by
  induction expression generalizing table extended resolved with
  | term term =>
      unfold resolve at success
      split at success
      · cases success
      · rename_i label isLabel
        cases success
        exact keeps table term label isLabel holds
  | seq left right leftHypothesis rightHypothesis
  | alt left right leftHypothesis rightHypothesis =>
      unfold resolve at success
      split at success
      · cases success
      · rename_i leftSuccess
        split at success
        · cases success
        · rename_i rightSuccess
          cases success
          exact rightHypothesis rightSuccess (leftHypothesis leftSuccess holds)
  | opt body inductionHypothesis
  | plus body inductionHypothesis
  | star body inductionHypothesis =>
      unfold resolve at success
      split at success
      · cases success
      · rename_i bodySuccess
        cases success
        exact inductionHypothesis bodySuccess holds

include keeps in
theorem holds_of_automatonOf {index : Nat} {rule : Rule} {table extended : LabelTable}
    {automaton : RuleAutomaton}
    (success : automatonOf symbolIds vocabulary index rule table = .ok (automaton, extended))
    (holds : Holds table) : Holds extended := by
  unfold automatonOf at success
  split at success
  · cases success
  · rename_i resolveSuccess
    simp only at success
    split at success
    · cases success
    · cases success
      exact holds_of_resolve keeps resolveSuccess holds

include keeps in
theorem holds_of_automataOf {index : Nat} {rules : List Rule} {table final : LabelTable}
    {automata : List RuleAutomaton}
    (success : automataOf symbolIds vocabulary index rules table = .ok (automata, final))
    (holds : Holds table) : Holds final := by
  induction rules generalizing index table automata with
  | nil =>
      cases success
      exact holds
  | cons rule later inductionHypothesis =>
      unfold automataOf at success
      split at success
      · cases success
      · rename_i firstSuccess
        split at success
        · cases success
        · rename_i laterSuccess
          cases success
          exact inductionHypothesis laterSuccess
            (holds_of_automatonOf keeps firstSuccess holds)

end Kept

theorem exact_of_automataOf {index : Nat} {rules : List Rule} {table final : LabelTable}
    {automata : List RuleAutomaton}
    (success : automataOf symbolIds vocabulary index rules table = .ok (automata, final))
    (exact : table.Exact symbolIds vocabulary) : final.Exact symbolIds vocabulary :=
  holds_of_automataOf
    (fun _ _ _ isLabel exact => exact.intern (Label.fits_of_labelOf isLabel)) success exact

/-! ## Built grammars -/

variable {rules : List Rule} {start : Option String} {policy : AmbiguityPolicy}
  {grammar : Grammar}

theorem exact_of_assemble (assembled : assemble rules vocabulary start = .ok grammar) :
    grammar.labelTable.Exact grammar.symbolIds vocabulary := by
  unfold assemble at assembled
  simp only at assembled
  split at assembled
  · cases assembled
  · split at assembled
    · cases assembled
    · rename_i automataSuccess
      split at assembled
      · cases assembled
      · cases assembled
        exact exact_of_automataOf automataSuccess LabelTable.exact_empty

theorem assembleUnder_eq_ok_iff :
    assembleUnder policy rules vocabulary start = .ok grammar ↔
      assemble rules vocabulary start = .ok grammar ∧
        (policy = .reject → Ambiguity.check grammar = .ok ()) := by
  unfold assembleUnder
  cases assemble rules vocabulary start with
  | error error => simp
  | ok assembled =>
      cases policy with
      | firstWins => simp
      | reject =>
          simp only [Except.ok.injEq, forall_const]
          constructor
          · intro underReject
            split at underReject
            · cases underReject
            · rename_i checked
              cases underReject
              exact ⟨rfl, checked⟩
          · rintro ⟨rfl, checked⟩
            rw [checked]

/-- A grammar is built if there are symbols for its rules, it can be assembled, and it
passes the check that the policy asks for. -/
theorem build_eq_ok_iff :
    build rules vocabulary start policy = .ok grammar ↔
      rules.length ≤ SymbolId.ruleCapacity ∧ assemble rules vocabulary start = .ok grammar ∧
        (policy = .reject → Ambiguity.check grammar = .ok ()) := by
  rw [← assembleUnder_eq_ok_iff]
  unfold build
  by_cases beyond : SymbolId.ruleCapacity < rules.length
  · simp [beyond]
  · rw [if_neg beyond]
    cases assembleUnder policy rules vocabulary start with
    | error error => simp
    | ok assembled => simp [Nat.le_of_not_lt beyond]

end Grammar

end RuleMachine
