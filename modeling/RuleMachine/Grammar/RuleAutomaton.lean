import RuleMachine.Automaton.Dfa
import RuleMachine.CompactTable
import RuleMachine.Grammar.Label
import RuleMachine.NatSet

/-!
# Automata of rules

A rule is compiled to a deterministic automaton over labels, together with its
transition table and the terminal labels that it can begin with.
-/

namespace RuleMachine

/-- The automaton of a rule. -/
structure RuleAutomaton where
  name : String
  symbol : SymbolId
  states : List State
  /-- The terminal labels that the rule can begin with. -/
  first : NatSet
  /-- The arcs of the states as a transition table. -/
  table : CompactTable

/-- The arcs of a state as the transitions of a table. -/
def State.transitions (state : State) : Transitions :=
  .ofList (state.arcs.map fun arc => (.code arc.label, arc.target))

namespace RuleAutomaton

/-- The largest number of states that a transition table can address. -/
def maxStates : Nat := 254

/-- The automaton of a rule whose first labels are not known yet. -/
def ofStates (name : String) (symbol : SymbolId) (states : List State) : RuleAutomaton where
  name
  symbol
  states
  first := .empty
  table := .ofStates (states.map State.transitions) (states.map State.accepting)

/-- The arcs that leave a state. -/
def arcsAt (automaton : RuleAutomaton) (state : Nat) : List Arc :=
  match automaton.states[state]? with
  | some found => found.arcs
  | none => []

/-- The target of a label, as the transition table has it. -/
def transition (automaton : RuleAutomaton) (state : Nat) (label : LabelId) : Option Nat :=
  automaton.table.lookup state label

/-- Whether the rule may end in a state. -/
def isAccepting (automaton : RuleAutomaton) (state : Nat) : Bool :=
  automaton.table.isAccepting state

/-- Whether the rule may end in a state and cannot go on from it. -/
def isFinal (automaton : RuleAutomaton) (state : Nat) : Bool :=
  match automaton.states[state]? with
  | some found => found.accepting && found.arcs.isEmpty
  | none => false

/-- Whether the rule can begin with a terminal label. -/
def couldMatch (automaton : RuleAutomaton) (label : LabelId) : Bool :=
  decide (label ∈ automaton.first)

end RuleAutomaton

end RuleMachine
