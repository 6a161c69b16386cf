import RuleMachine.Proofs.GrammarShape
import RuleMachine.Vocabulary.Standard

/-!
# What transition tables encode

A table is made of the transitions of each state and gives them back: a code leads where
its own transition leads, or else where the transition on all other codes leads, also far
beyond the last column.  A table has a cell for every state and every code up to the
largest one mentioned, so it can be made as long as these cells can be counted.  All cells
stand in one list, and a look-up goes to the cell behind the rows of all states before
(`getElem?_cells_ofStates`); for a state of the table it never misses (`Checked.lookup_eq`).

The tables of a compiled grammar are made of the arcs of its rules, so looking up a label
and reading the arcs of a state come to the same.
-/

namespace RuleMachine

/-- The target of a code: that of its own transition, or else that of the transition on
all codes that are not mentioned. -/
def Transitions.target? (transitions : Transitions) (code : Nat) : Option Nat :=
  match transitions.get? (.code code) with
  | some target => some target
  | none => transitions.get? .otherwise

theorem Transitions.or_get?_otherwise (transitions : Transitions) (code : Nat) :
    (transitions.get? (.code code)).or (transitions.get? .otherwise) =
      transitions.target? code := by
  unfold target?
  cases transitions.get? (.code code) <;> rfl

namespace CompactTable

variable {states : List Transitions} {accepts : List Bool} {transitions : Transitions}
  {table : CompactTable}

/-! ## The width of a table -/

theorem widthOf_le_iff {bound : Nat} :
    widthOf transitions ≤ bound ↔
      ∀ code target, transitions.get? (.code code) = some target → code < bound := by
  constructor
  · intro narrow code target mentioned
    exact Nat.lt_of_lt_of_le (lt_widthOf mentioned) narrow
  · intro below
    refine List.foldlRecOn (motive := (· ≤ bound)) transitions.entries _ (Nat.zero_le bound) ?_
    rintro width narrow ⟨key, target⟩ member
    cases key with
    | otherwise => exact narrow
    | code value =>
        exact Nat.max_le.mpr
          ⟨narrow, below value target (Dictionary.get?_of_mem_entries member)⟩

theorem commonWidth_le_iff {bound : Nat} :
    commonWidth states ≤ bound ↔ ∀ transitions ∈ states, ∀ code target,
      transitions.get? (.code code) = some target → code < bound := by
  constructor
  · intro narrow transitions member code target mentioned
    obtain ⟨state, found⟩ := List.mem_iff_getElem?.mp member
    exact Nat.lt_of_lt_of_le (lt_commonWidth found mentioned) narrow
  · intro below
    refine List.foldlRecOn (motive := (· ≤ bound)) states _ (Nat.zero_le bound) ?_
    intro width narrow transitions member
    exact Nat.max_le.mpr ⟨narrow, widthOf_le_iff.mpr (below transitions member)⟩

/-- The cells of a table are as many as a bound allows if the bound allows a row up to
each code that is mentioned for every state. -/
theorem mul_commonWidth_le_iff {count bound : Nat} :
    count * commonWidth states ≤ bound ↔ ∀ transitions ∈ states, ∀ code target,
      transitions.get? (.code code) = some target → count * (code + 1) ≤ bound := by
  rcases Nat.eq_zero_or_pos count with rfl | positive
  · simp
  · rw [Nat.mul_comm, ← Nat.le_div_iff_mul_le positive, commonWidth_le_iff]
    simp only [Nat.mul_comm count, ← Nat.le_div_iff_mul_le positive, Nat.succ_le_iff]

/-! ## Encoding -/

/-- A table answers as the transitions and the flags do that it was made of. -/
structure Represents (table : CompactTable) (states : List Transitions) (accepts : List Bool) :
    Prop where
  transition : ∀ state transitions, states[state]? = some transitions →
    ∀ code, table.transition state code = .ok (transitions.target? code)
  acceptance : ∀ state flag, accepts[state]? = some flag → table.acceptance state = .ok flag

theorem represents_ofStates (counted : states.length = accepts.length)
    (small : ∀ transitions ∈ states, ∀ key target, transitions.get? key = some target →
      target < noTransition.toNat) :
    (ofStates states accepts).Represents states accepts where
  transition := by
    intro state transitions found code
    obtain ⟨inRange, _⟩ := List.getElem?_eq_some_iff.mp found
    have hasFlag : state < (ofStates states accepts).stateCount :=
      Nat.lt_of_lt_of_eq inRange counted
    rw [CompactTable.transition, if_pos hasFlag,
      lookup_ofStates found (small transitions (List.mem_of_getElem? found)),
      Transitions.or_get?_otherwise]
  acceptance := by
    intro state flag found
    change accepts[state]? = some flag at found
    simp only [CompactTable.acceptance, ofStates, found]

theorem encode_eq_ite (counted : states.length = accepts.length)
    (few : states.length ≤ RuleAutomaton.maxStates) :
    encode states accepts =
      if states.length * commonWidth states ≤ maxCells then
        .ok (ofStates states accepts)
      else
        .error (.tooManyCells (states.length * commonWidth states)) := by
  have addressable : ¬noTransition.toNat ≤ states.length :=
    Nat.not_le.mpr (Nat.lt_succ_of_le few)
  rw [encode, if_neg (not_not_intro counted), if_neg addressable]
  by_cases fits : states.length * commonWidth states ≤ maxCells
  · rw [if_neg (Nat.not_lt.mpr fits), if_pos fits]
  · rw [if_pos (Nat.lt_of_not_le fits), if_neg fits]

/-- A table can be made exactly if its cells can be counted. -/
theorem exists_encode_iff (counted : states.length = accepts.length)
    (few : states.length ≤ RuleAutomaton.maxStates) :
    (∃ table, encode states accepts = .ok table) ↔ ∀ transitions ∈ states, ∀ code target,
      transitions.get? (.code code) = some target → states.length * (code + 1) ≤ maxCells := by
  rw [← mul_commonWidth_le_iff, encode_eq_ite counted few]
  by_cases fits : states.length * commonWidth states ≤ maxCells
  · rw [if_pos fits]
    exact iff_of_true ⟨_, rfl⟩ fits
  · rw [if_neg fits]
    refine iff_of_false ?_ fits
    rintro ⟨table, encoded⟩
    cases encoded

theorem eq_ofStates_of_encode (encoded : encode states accepts = .ok table) :
    table = ofStates states accepts := by
  unfold encode at encoded
  split at encoded
  · cases encoded
  · split at encoded
    · cases encoded
    · split at encoded
      · cases encoded
      · exact (Except.ok.inj encoded).symm

theorem target_lt_of_entries {bound : Nat}
    (below : ∀ transitions ∈ states, ∀ entry ∈ transitions.entries, entry.2 < bound) :
    ∀ transitions ∈ states, ∀ key target, transitions.get? key = some target →
      target < bound :=
  fun transitions member _ _ found =>
    below transitions member _ (Dictionary.mem_entries_of_get? found)

end CompactTable

/-! ## The tables of a grammar -/

namespace RuleAutomaton

/-- The table of a rule and the arcs and flags of its states say the same; where the cells
for so many labels can be counted, the table is the encoding of these arcs. -/
structure Agrees (labelCount : Nat) (automaton : RuleAutomaton) : Prop where
  encoded : maxStates * labelCount ≤ CompactTable.maxCells →
    CompactTable.encode (automaton.states.map State.transitions)
      (automaton.states.map State.accepting) = .ok automaton.table
  transition : ∀ place state, automaton.states[place]? = some state → ∀ label target,
    automaton.transition place label = some target ↔ ⟨label, target⟩ ∈ state.arcs
  accepting : ∀ place state, automaton.states[place]? = some state →
    automaton.isAccepting place = state.accepting

theorem TableFaithful.isAccepting_eq {automaton : RuleAutomaton}
    (faithful : automaton.TableFaithful) {place : Nat} {state : State}
    (found : automaton.states[place]? = some state) :
    automaton.isAccepting place = state.accepting := by
  rw [Bool.eq_iff_iff, faithful.accepting, Dfa.IsAccepting, found]
  simp

end RuleAutomaton

namespace Grammar

variable {rules : List Rule} {vocabulary : Vocabulary} {grammar : Grammar}
  {automaton : RuleAutomaton}

/-- The columns of a rule's table are numbers of labels. -/
theorem Compiled.commonWidth_le (compiled : Compiled rules vocabulary grammar)
    (isAutomaton : automaton ∈ grammar.automata) :
    CompactTable.commonWidth (automaton.states.map State.transitions) ≤
      grammar.labels.length := by
  apply CompactTable.commonWidth_le_iff.mpr
  intro transitions member label target mentioned
  obtain ⟨state, isState, rfl⟩ := List.mem_map.mp member
  obtain ⟨arc, isArc, same⟩ := List.mem_map.mp (Dictionary.mem_of_get?_ofList mentioned)
  obtain ⟨arcLabel, isLabel⟩ := compiled.exists_label_of_mem_states isAutomaton isState isArc
  obtain ⟨inRange, _⟩ := List.getElem?_eq_some_iff.mp isLabel
  have label_eq : arc.label = label := TransitionKey.code.inj (Prod.mk.inj same).1
  exact label_eq ▸ inRange

theorem Compiled.agrees (compiled : Compiled rules vocabulary grammar)
    (isAutomaton : automaton ∈ grammar.automata) :
    automaton.Agrees grammar.labels.length := by
  have faithful := compiled.tableFaithful (compiled.automaton?_symbol isAutomaton)
  obtain ⟨index, isIndexed⟩ := List.mem_iff_getElem?.mp isAutomaton
  obtain ⟨rule, isOf⟩ := compiled.exists_automatonOf isIndexed
  refine ⟨?_, ?_, fun place state found => faithful.isAccepting_eq found⟩
  · intro countable
    have fits : (automaton.states.map State.transitions).length *
        CompactTable.commonWidth (automaton.states.map State.transitions) ≤
          CompactTable.maxCells := by
      rw [List.length_map]
      exact (Nat.mul_le_mul isOf.bounded (compiled.commonWidth_le isAutomaton)).trans countable
    rw [CompactTable.encode_eq_ite (by simp) (by simpa using isOf.bounded), if_pos fits,
      isOf.table_eq]
  · intro place state found label target
    rw [faithful.transition, RuleAutomaton.arcsAt, found]

end Grammar

/-! ## Main statement -/

namespace CompactTable

/-- A table can be made of at most 254 states with targets below 255 exactly if its cells
can be counted, and then it answers as the transitions that it was made of do, from its one
list of cells.  The table of every rule of a compiled grammar answers as the arcs of the rule
do. -/
theorem encode_exact :
    (∀ (states : List Transitions) (accepts : List Bool),
      states.length = accepts.length → states.length ≤ RuleAutomaton.maxStates →
      (∀ transitions ∈ states, ∀ key target, transitions.get? key = some target →
        target < noTransition.toNat) →
      ((∃ table, encode states accepts = .ok table) ↔ ∀ transitions ∈ states, ∀ code target,
        transitions.get? (.code code) = some target → states.length * (code + 1) ≤ maxCells) ∧
      ∀ table, encode states accepts = .ok table → table.Represents states accepts) ∧
    ∀ (rules : List Rule) (vocabulary : Vocabulary) (start : Option String)
      (policy : AmbiguityPolicy) (grammar : Grammar),
      Grammar.build rules vocabulary start policy = .ok grammar →
      ∀ automaton ∈ grammar.automata, automaton.Agrees grammar.labels.length := by
  constructor
  · intro states accepts counted few small
    refine ⟨exists_encode_iff counted few, ?_⟩
    intro table encoded
    rw [eq_ofStates_of_encode encoded]
    exact represents_ofStates counted small
  · intro rules vocabulary start policy grammar built automaton isAutomaton
    obtain ⟨compiled, _⟩ := Grammar.compiled_of_build built
    exact compiled.agrees isAutomaton

/-- A remark: a hash sign and then anything up to the end of the line. -/
def remarkStates : List Transitions :=
  [.ofList [(.code 35, 1)], .ofList [(.code 10, 2), (.otherwise, 1)], .empty]

/-- In the second state the end of a line has its own target; a hash sign lies in the last
column and any letter beyond it, and both have the other target. -/
theorem encode_exact_remarkStates :
    (∃ table, encode remarkStates [false, true, false] = .ok table ∧ table.width = 36 ∧
      table.transition 1 10 = .ok (some 2) ∧ table.transition 1 35 = .ok (some 1) ∧
      table.transition 1 120 = .ok (some 1) ∧ table.transition 2 120 = .ok none) ∧
    ∃ rules grammar automaton,
      Grammar.build rules .mini none .reject = .ok grammar ∧ automaton ∈ grammar.automata ∧
      automaton.transition 1 1 = some 0 ∧ automaton.isAccepting 1 = true := by
  constructor
  · have small : ∀ transitions ∈ remarkStates, ∀ key target,
        transitions.get? key = some target → target < noTransition.toNat :=
      target_lt_of_entries (by decide)
    have encoded : encode remarkStates [false, true, false] =
        .ok (ofStates remarkStates [false, true, false]) := by rfl
    have represents := (encode_exact.1 remarkStates _ rfl (by decide) small).2 _ encoded
    exact ⟨_, encoded, rfl, represents.transition 1 _ rfl 10, represents.transition 1 _ rfl 35,
      represents.transition 1 _ rfl 120, represents.transition 2 _ rfl 120⟩
  · have contents : (Grammar.compile "list: NAME (',' NAME)*\n" .mini none .reject).map
        (fun grammar => grammar.automata.map RuleAutomaton.states) =
          .ok [[⟨[⟨0, 1⟩], false⟩, ⟨[⟨1, 0⟩], true⟩]] := by
      decide +kernel
    cases compiled : Grammar.compile "list: NAME (',' NAME)*\n" .mini none .reject with
    | error failure =>
        rw [compiled] at contents
        cases contents
    | ok grammar =>
        rw [compiled] at contents
        obtain ⟨rules, _, built⟩ := Grammar.compile_eq_ok compiled
        obtain ⟨automaton, automata_eq, states_eq⟩ :=
          List.map_eq_singleton_iff.mp (Except.ok.inj contents)
        have isAutomaton : automaton ∈ grammar.automata :=
          automata_eq ▸ List.mem_singleton_self automaton
        have agrees := encode_exact.2 rules .mini none .reject grammar built automaton isAutomaton
        have found : automaton.states[1]? = some ⟨[⟨1, 0⟩], true⟩ := by rw [states_eq]; rfl
        exact ⟨rules, grammar, automaton, built, isAutomaton,
          (agrees.transition 1 _ found 1 0).mpr (List.mem_singleton_self _),
          agrees.accepting 1 _ found⟩

/-- A single state with a transition on a code whose row would have `2 ^ 63` cells. -/
def farStates : List Transitions :=
  [.ofList [(.code 9223372036854775807, 0)]]

/-- The targets fit into a byte, but there is no table. -/
theorem encode_farStates :
    farStates.length ≤ RuleAutomaton.maxStates ∧
      (∀ transitions ∈ farStates, ∀ key target, transitions.get? key = some target →
        target < noTransition.toNat) ∧
      encode farStates [true] = .error (.tooManyCells 9223372036854775808) :=
  ⟨by decide, target_lt_of_entries (by decide), rfl⟩

end CompactTable

end RuleMachine
