import RuleMachine.Grammar.Basic

/-!
# State tables

A state table has one row for each state of the rules shown.  The first row of a
rule also carries its name, its first set and the size of its transition table.
-/

namespace RuleMachine.StateTable

/-- The heading of a state table. -/
def heading : List String :=
  ["Rule", "#", "Accepting", "Transitions", "First set", "Table"]

/-- The arcs of a state, one on each line. -/
def arcsCell (grammar : Grammar) (state : State) : String :=
  String.intercalate "\n" (state.arcs.map fun arc =>
    grammar.labelName arc.label ++ " -> " ++ toString arc.target)

/-- The row of a state. -/
def row (grammar : Grammar) (automaton : RuleAutomaton) (index : Nat) (state : State) :
    List String :=
  let onFirstRow (cell : String) := if index = 0 then cell else ""
  let first := automaton.first.elements.map grammar.labelName
  [onFirstRow (automaton.name ++ " (" ++ toString automaton.symbol ++ ")"),
    toString index,
    if state.accepting then "yes" else "",
    arcsCell grammar state,
    onFirstRow (String.intercalate " " first),
    onFirstRow (toString automaton.table.stateCount ++ " x " ++ toString automaton.table.width)]

/-- The rows of the given rules below the heading. -/
def rows (grammar : Grammar) (automata : List RuleAutomaton) : List (List String) :=
  heading :: automata.flatMap fun automaton =>
    automaton.states.zipIdx.map fun entry => row grammar automaton entry.2 entry.1

end RuleMachine.StateTable
