import RuleMachine.Automaton.Dfa
import RuleMachine.Automaton.Nfa
import RuleMachine.Roster

/-!
# The subset construction

A state of the deterministic automaton stands for the set of states in which the
nondeterministic one can be.  Sets are numbered in the order in which they are
met, breadth first from the set of the start state; afterwards twins are merged.
There are at most `2 ^ size` sets, which bounds the search.
-/

namespace RuleMachine

namespace Nfa

/-- The labels that can be read in a set of states. -/
def labelsFrom (nfa : Nfa Nat) (set : NatSet) : NatSet :=
  .ofList (nfa.edges.filterMap fun edge =>
    if edge.source ∈ set then edge.label else none)

/-- The states that reading a label leads to from a set of states. -/
def targetsOn (nfa : Nfa Nat) (set : NatSet) (label : Nat) : List Nat :=
  nfa.edges.filterMap fun edge =>
    if edge.label = some label ∧ edge.source ∈ set then some edge.target else none

/-- The arcs that leave a set of states on the given labels; sets that are met for the
first time are enrolled. -/
def arcsOn (nfa : Nfa Nat) (set : NatSet) (roster : Roster NatSet) :
    List Nat → List Arc × Roster NatSet
  | [] => ([], roster)
  | label :: later =>
      let (target, enrolled) := roster.number (nfa.closure (nfa.targetsOn set label))
      let (arcs, final) := nfa.arcsOn set enrolled later
      (⟨label, target⟩ :: arcs, final)

/-- The deterministic states of the enrolled sets from the number `current` on, at most
`count` of them. -/
def expand (nfa : Nfa Nat) (accept count : Nat) (roster : Roster NatSet) (current : Nat) :
    List State :=
  match count with
  | 0 => []
  | count + 1 =>
      match roster.get? current with
      | none => []
      | some set =>
          let (arcs, enrolled) := nfa.arcsOn set roster (nfa.labelsFrom set).elements
          ⟨arcs, decide (accept ∈ set)⟩ :: nfa.expand accept count enrolled (current + 1)

/-- The states of the subset construction, before twins are merged. -/
def subsets (nfa : Nfa Nat) (fragment : Fragment) : List State :=
  nfa.expand fragment.accept (Nat.pow 2 nfa.size)
    (Roster.empty.enroll (nfa.closure [fragment.start])) 0

/-- The deterministic automaton of a fragment. -/
def determinize (nfa : Nfa Nat) (fragment : Fragment) : List State :=
  Dfa.mergeTwins (nfa.subsets fragment)

end Nfa

namespace Dfa

/-- The deterministic automaton of an expression over labels. -/
def ofExpr (expression : Expr Nat) : List State :=
  let (nfa, fragment) := Nfa.ofExpr expression
  nfa.determinize fragment

end Dfa

end RuleMachine
