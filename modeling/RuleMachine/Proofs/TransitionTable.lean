import RuleMachine.Proofs.Compilation

/-!
# Transition tables and arcs

A table gives back the transitions that it was made of, as long as their targets
fit into a byte.  The parser looks up its moves in the table of a rule, so these
are the arcs of the rule's automaton, and the rule of a symbol is the one whose
automaton bears that symbol.
-/

namespace RuleMachine

/-! ## Tables -/

namespace CompactTable

variable {states : List Transitions} {accepts : List Bool} {transitions : Transitions}
  {state code target : Nat}

theorem le_foldl_max {Item : Type} (items : List Item) (grow : Nat → Item → Nat)
    (grows : ∀ width item, width ≤ grow width item) (width : Nat) :
    width ≤ items.foldl grow width := by
  induction items generalizing width with
  | nil => exact Nat.le_refl width
  | cons item later inductionHypothesis =>
      exact Nat.le_trans (grows width item) (inductionHypothesis (grow width item))

theorem lt_foldl_of_mem {Item : Type} {items : List Item} {grow : Nat → Item → Nat}
    (grows : ∀ width item, width ≤ grow width item) {item : Item} {bound : Nat}
    (member : item ∈ items) (covers : ∀ width, bound < grow width item) (width : Nat) :
    bound < items.foldl grow width := by
  induction items generalizing width with
  | nil => cases member
  | cons head later inductionHypothesis =>
      rw [List.foldl_cons]
      rcases List.mem_cons.mp member with rfl | inLater
      · exact Nat.lt_of_lt_of_le (covers width) (le_foldl_max later grow grows _)
      · exact inductionHypothesis inLater _

theorem lt_widthOf (found : transitions.get? (.code code) = some target) :
    code < widthOf transitions := by
  refine lt_foldl_of_mem ?_ (Dictionary.mem_entries_of_get? found) ?_ 0
  · intro width entry
    split
    · exact Nat.le_max_left _ _
    · exact Nat.le_refl width
  · intro width
    exact Nat.lt_of_lt_of_le (Nat.lt_succ_self code) (Nat.le_max_right _ _)

theorem lt_commonWidth (found : states[state]? = some transitions)
    (mentioned : transitions.get? (.code code) = some target) :
    code < commonWidth states := by
  refine lt_foldl_of_mem ?_ (List.mem_of_getElem? found) ?_ 0
  · intro width _
    exact Nat.le_max_left _ _
  · intro width
    exact Nat.lt_of_lt_of_le (lt_widthOf mentioned) (Nat.le_max_right _ _)

theorem targetByte_some (small : target < noTransition.toNat) :
    targetByte (some target) ≠ noTransition ∧ (targetByte (some target)).toNat = target := by
  have isTarget : (targetByte (some target)).toNat = target := by
    change (UInt8.ofNat target).toNat = target
    rw [UInt8.toNat_ofNat']
    exact Nat.mod_eq_of_lt (Nat.lt_trans small (by decide))
  refine ⟨?_, isTarget⟩
  intro isNone
  rw [isNone] at isTarget
  exact Nat.lt_irrefl _ (isTarget ▸ small)

/-- What a byte of a table says. -/
def byteTarget (byte : UInt8) : Option Nat :=
  if byte = noTransition then none else some byte.toNat

theorem byteTarget_targetByte {wanted : Option Nat}
    (small : ∀ target, wanted = some target → target < noTransition.toNat) :
    byteTarget (targetByte wanted) = wanted := by
  cases wanted with
  | none => rfl
  | some target =>
      obtain ⟨isTransition, isTarget⟩ := targetByte_some (small target rfl)
      rw [byteTarget, if_neg isTransition, isTarget]

/-- In rows of one width, the cells of a row lie behind those of all rows before it. -/
theorem getElem?_flatMap_row {Row Cell : Type} {cellsOf : Row → List Cell} {width column : Nat}
    (regular : ∀ row, (cellsOf row).length = width) (inRow : column < width)
    (rows : List Row) (place : Nat) :
    (rows.flatMap cellsOf)[place * width + column]? =
      rows[place]?.bind fun row => (cellsOf row)[column]? := by
  induction rows generalizing place with
  | nil => rfl
  | cons front later inductionHypothesis =>
      rw [List.flatMap_cons]
      cases place with
      | zero =>
          have inFront : 0 * width + column < (cellsOf front).length := by
            rw [regular, Nat.zero_mul, Nat.zero_add]
            exact inRow
          rw [List.getElem?_append_left inFront, Nat.zero_mul, Nat.zero_add]
          rfl
      | succ place =>
          have place_eq : (place + 1) * width + column =
              (cellsOf front).length + (place * width + column) := by
            rw [regular, Nat.succ_mul]
            omega
          rw [place_eq, List.getElem?_append_right (Nat.le_add_right _ _),
            Nat.add_sub_cancel_left, inductionHypothesis, List.getElem?_cons_succ]

/-- A cell is found by the width of the rows before it. -/
theorem getElem?_cells_ofStates (inRow : code < commonWidth states) (state : Nat) :
    (ofStates states accepts).cells[state * commonWidth states + code]? =
      states[state]?.map fun transitions => cellByte transitions code := by
  have regular : ∀ transitions : Transitions,
      ((List.range (commonWidth states)).map (cellByte transitions)).length =
        commonWidth states := by
    intro transitions
    rw [List.length_map, List.length_range]
  change (states.flatMap fun transitions =>
    (List.range (commonWidth states)).map (cellByte transitions))[_]? = _
  rw [getElem?_flatMap_row regular inRow]
  cases states[state]? with
  | none => rfl
  | some transitions =>
      rw [Option.bind_some, List.getElem?_map, List.getElem?_range inRow]
      rfl

theorem defaultAt_ofStates (found : states[state]? = some transitions) :
    (ofStates states accepts).defaultAt state = defaultByte transitions := by
  simp [defaultAt, ofStates, List.getElem?_map, found]

/-- A table looks up the transition on a code and, where there is none, the transition on
all other codes. -/
theorem lookup_ofStates (found : states[state]? = some transitions)
    (small : ∀ key target, transitions.get? key = some target → target < noTransition.toNat)
    (code : Nat) :
    (ofStates states accepts).lookup state code =
      (transitions.get? (.code code)).or (transitions.get? .otherwise) := by
  have otherwise_eq : byteTarget (defaultByte transitions) = transitions.get? .otherwise :=
    byteTarget_targetByte (small .otherwise)
  have width_eq : (ofStates states accepts).width = commonWidth states := rfl
  change byteTarget ((ofStates states accepts).decidingByte state code) = _
  rw [decidingByte, width_eq, defaultAt_ofStates found]
  cases mentioned : transitions.get? (.code code) with
  | none =>
      -- The cell, if there is one, repeats the byte beside the row.
      rw [Option.none_or, ← otherwise_eq]
      by_cases within : code < commonWidth states
      · simp only [if_pos within, getElem?_cells_ofStates within, found, Option.map_some,
          cellByte, mentioned, ite_self]
      · rw [if_neg within]
  | some target =>
      have isSmall := small (.code code) target mentioned
      obtain ⟨isTransition, _⟩ := targetByte_some isSmall
      have within := lt_commonWidth found mentioned
      simp only [if_pos within, getElem?_cells_ofStates within, found, Option.map_some,
        cellByte, mentioned, if_neg isTransition, Option.some_or]
      exact byteTarget_targetByte fun other isOther => Option.some.inj isOther ▸ isSmall

theorem lookup_ofStates_of_none (missing : states[state]? = none) (code : Nat) :
    (ofStates states accepts).lookup state code = none := by
  have noDefault : (ofStates states accepts).defaultAt state = noTransition := by
    simp [defaultAt, ofStates, List.getElem?_map, missing]
  have width_eq : (ofStates states accepts).width = commonWidth states := rfl
  have byte_eq : (ofStates states accepts).decidingByte state code = noTransition := by
    rw [decidingByte, width_eq, noDefault]
    by_cases within : code < commonWidth states
    · rw [if_pos within, getElem?_cells_ofStates within, missing]
      rfl
    · rw [if_neg within]
  rw [lookup, byte_eq]
  rfl

end CompactTable

/-! ## Automata -/

theorem State.get?_transitions {state : State}
    (ascending : state.arcs.Pairwise fun left right => left.label < right.label)
    (label target : Nat) :
    state.transitions.get? (.code label) = some target ↔ ⟨label, target⟩ ∈ state.arcs := by
  have distinct : ((state.arcs.map fun arc =>
      (TransitionKey.code arc.label, arc.target)).map Prod.fst).Nodup := by
    rw [List.map_map, List.nodup_iff_pairwise_ne, List.pairwise_map]
    refine ascending.imp ?_
    intro left right below same
    exact Nat.ne_of_lt below (TransitionKey.code.inj same)
  rw [State.transitions, Dictionary.get?_ofList distinct, List.mem_map]
  constructor
  · rintro ⟨arc, member, same⟩
    obtain ⟨sameKey, rfl⟩ := Prod.mk.inj same
    rw [← TransitionKey.code.inj sameKey]
    exact member
  · intro member
    exact ⟨⟨label, target⟩, member, rfl⟩

theorem State.get?_transitions_otherwise (state : State) :
    state.transitions.get? .otherwise = none := by
  refine Dictionary.get?_insertAll_of_not_mem ?_ .empty
  simp

namespace RuleAutomaton

/-- The table of an automaton says what its states say. -/
structure TableFaithful (automaton : RuleAutomaton) : Prop where
  transition : ∀ state label target, automaton.transition state label = some target ↔
    ⟨label, target⟩ ∈ automaton.arcsAt state
  accepting : ∀ state,
    automaton.isAccepting state = true ↔ Dfa.IsAccepting automaton.states state

theorem tableFaithful_of_table_eq {automaton : RuleAutomaton}
    (wellFormed : Dfa.WellFormed automaton.states)
    (bounded : automaton.states.length ≤ maxStates)
    (table_eq : automaton.table = .ofStates (automaton.states.map State.transitions)
      (automaton.states.map State.accepting)) :
    automaton.TableFaithful := by
  constructor
  · intro place label target
    rw [transition, arcsAt, table_eq]
    cases found : automaton.states[place]? with
    | none =>
        rw [CompactTable.lookup_ofStates_of_none (by rw [List.getElem?_map, found]; rfl)]
        simp
    | some state =>
        have member := List.mem_of_getElem? found
        have ascending := wellFormed.ascending state member
        have rowFound : (automaton.states.map State.transitions)[place]? =
            some state.transitions := by
          rw [List.getElem?_map, found, Option.map_some]
        have small : ∀ key target, state.transitions.get? key = some target →
            target < CompactTable.noTransition.toNat := by
          intro key target isTarget
          cases key with
          | otherwise => rw [state.get?_transitions_otherwise] at isTarget; cases isTarget
          | code label =>
              have isArc := (State.get?_transitions ascending label target).mp isTarget
              have inRange := wellFormed.inRange state member _ isArc
              exact Nat.lt_of_lt_of_le inRange (Nat.le_trans bounded (by decide))
        rw [CompactTable.lookup_ofStates rowFound small, state.get?_transitions_otherwise,
          Option.or_none]
        exact State.get?_transitions ascending label target
  · intro place
    rw [isAccepting, table_eq, CompactTable.isAccepting, Dfa.IsAccepting]
    change (automaton.states.map State.accepting)[place]?.getD false = true ↔ _
    rw [List.getElem?_map]
    cases automaton.states[place]? with
    | none => simp
    | some state => simp

end RuleAutomaton

/-! ## Grammars -/

theorem SymbolId.ofRuleIndex_ruleIndex (symbol : SymbolId) :
    ofRuleIndex symbol.ruleIndex = symbol := by
  rw [ofRuleIndex, ruleIndex, UInt16.ofNat_toNat, UInt16.add_comm]
  exact UInt16.sub_add_cancel symbol ruleOffset

namespace Grammar

variable {rules : List Rule} {vocabulary : Vocabulary} {grammar : Grammar}
  {symbol : SymbolId} {automaton : RuleAutomaton}

theorem getElem?_of_automaton? (found : grammar.automaton? symbol = some automaton) :
    grammar.automata[symbol.ruleIndex]? = some automaton := by
  unfold automaton? at found
  split at found
  · exact found
  · cases found

theorem subAutomaton?_eq_some {label : LabelId} {sub : RuleAutomaton} :
    grammar.subAutomaton? label = some sub ↔
      ∃ symbol, grammar.labelTable.get? label = some (.rule symbol) ∧
        grammar.automaton? symbol = some sub := by
  unfold subAutomaton?
  split
  · rename_i symbol isRule
    simp [isRule]
  · rename_i notRule
    constructor
    · intro isSub
      cases isSub
    · rintro ⟨symbol, isRule, _⟩
      exact absurd isRule (notRule symbol)

theorem Compiled.exists_automatonOf (compiled : Compiled rules vocabulary grammar)
    {index : Nat} (found : grammar.automata[index]? = some automaton) :
    ∃ rule, AutomatonOf grammar.symbolIds vocabulary grammar.labelTable index rule automaton := by
  obtain ⟨inRange, _⟩ := List.getElem?_eq_some_iff.mp found
  rw [compiled.length] at inRange
  exact ⟨rules[index], compiled.automaton index _ _ (List.getElem?_eq_getElem inRange) found⟩

theorem AutomatonOf.wellFormed {index : Nat} {rule : Rule}
    (isAutomaton : AutomatonOf grammar.symbolIds vocabulary grammar.labelTable index rule
      automaton) :
    Dfa.WellFormed automaton.states := by
  obtain ⟨resolved, _, states_eq⟩ := isAutomaton.body
  rw [states_eq]
  exact (Dfa.ofExpr_spec resolved).1

theorem Compiled.tableFaithful (compiled : Compiled rules vocabulary grammar)
    (found : grammar.automaton? symbol = some automaton) : automaton.TableFaithful := by
  obtain ⟨rule, isAutomaton⟩ := compiled.exists_automatonOf (getElem?_of_automaton? found)
  exact RuleAutomaton.tableFaithful_of_table_eq isAutomaton.wellFormed isAutomaton.bounded
    isAutomaton.table_eq

theorem Compiled.symbol_eq (compiled : Compiled rules vocabulary grammar)
    (found : grammar.automaton? symbol = some automaton) : automaton.symbol = symbol := by
  obtain ⟨rule, isAutomaton⟩ := compiled.exists_automatonOf (getElem?_of_automaton? found)
  rw [isAutomaton.symbol, SymbolId.ofRuleIndex_ruleIndex]

end Grammar

end RuleMachine
