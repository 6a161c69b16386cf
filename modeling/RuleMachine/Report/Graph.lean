import RuleMachine.Grammar.Basic

/-!
# Graphs

Rule automata are drawn in the DOT language: a cluster for each rule, a node for
each state and an edge for each arc.  A state is called after the symbol of its
rule and its own number; accepting states are drawn with a double circle.
-/

namespace RuleMachine.Graph

/-- A text in which other characters stand for every occurrence of one character. -/
def replaceChar (text : List Char) (wanted : Char) (replacement : List Char) : List Char :=
  text.flatMap fun character => if character = wanted then replacement else [character]

/-- A text inside a quoted attribute: first every backslash is doubled, and then a backslash
is put in front of every quote. -/
def escape (text : List Char) : List Char :=
  replaceChar (replaceChar text '\\' ['\\', '\\']) '\x22' ['\\', '\x22']

/-- A text as a quoted attribute. -/
def quotedAttribute (text : String) : String :=
  "\"" ++ String.ofList (escape text.toList) ++ "\""

/-- The name of the node of a state. -/
def nodeName (symbol : SymbolId) (state : Nat) : String :=
  "S" ++ toString symbol ++ "_" ++ toString state

/-- The line that draws a state. -/
def nodeLine (symbol : SymbolId) (index : Nat) (state : State) : String :=
  let shape := if state.accepting then "doublecircle" else "circle"
  "    " ++ nodeName symbol index ++ " [shape=" ++ shape ++ " label=" ++
    quotedAttribute (toString index) ++ "];"

/-- The line that draws an arc. -/
def edgeLine (grammar : Grammar) (symbol : SymbolId) (index : Nat) (arc : Arc) : String :=
  "    " ++ nodeName symbol index ++ " -> " ++ nodeName symbol arc.target ++
    " [label=" ++ quotedAttribute (grammar.labelName arc.label) ++ "];"

/-- The lines that draw a rule. -/
def clusterLines (grammar : Grammar) (automaton : RuleAutomaton) : List String :=
  let states := automaton.states.zipIdx
  ["  subgraph cluster_" ++ toString automaton.symbol ++ " \x7b",
    "    label=" ++ quotedAttribute automaton.name ++ ";"] ++
  states.map (fun entry => nodeLine automaton.symbol entry.2 entry.1) ++
  states.flatMap (fun entry =>
    entry.1.arcs.map (edgeLine grammar automaton.symbol entry.2)) ++
  ["  \x7d"]

/-- The lines that draw the given rules. -/
def lines (grammar : Grammar) (automata : List RuleAutomaton) : List String :=
  ["digraph rules \x7b", "  rankdir=LR;"] ++
  automata.flatMap (clusterLines grammar) ++
  ["\x7d"]

/-- The text that draws the given rules. -/
def render (grammar : Grammar) (automata : List RuleAutomaton) : String :=
  String.intercalate "\n" (lines grammar automata)

end RuleMachine.Graph
