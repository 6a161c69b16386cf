import RuleMachine.GrammarText.Expr
import RuleMachine.NatSet

/-!
# Nondeterministic automata

A nondeterministic automaton is a number of states and a list of edges; an edge
without a label is taken without reading anything.  Expressions become automata
piece by piece: each piece is a fragment with one start and one accepting state,
and joining pieces only ever adds states and edges.
-/

namespace RuleMachine

/-- An edge of a nondeterministic automaton; without a label it reads nothing. -/
structure Edge (Label : Type) where
  source : Nat
  label : Option Label
  target : Nat
  deriving DecidableEq, Repr

/-- A nondeterministic automaton with states `0, …, size - 1`. -/
structure Nfa (Label : Type) where
  size : Nat
  edges : List (Edge Label)
  deriving Repr

/-- The start and the accepting state of a part of an automaton. -/
structure Fragment where
  start : Nat
  accept : Nat
  deriving DecidableEq, Repr

namespace Nfa

variable {Label : Type}

/-- The automaton without states. -/
def empty : Nfa Label where
  size := 0
  edges := []

/-- Add an edge that reads nothing. -/
def addEpsilon (nfa : Nfa Label) (source target : Nat) : Nfa Label :=
  { nfa with edges := ⟨source, none, target⟩ :: nfa.edges }

/-- Add two states and an edge between them that reads a label. -/
def addTerm (nfa : Nfa Label) (label : Label) : Nfa Label × Fragment :=
  ({ size := nfa.size + 2
     edges := ⟨nfa.size, some label, nfa.size + 1⟩ :: nfa.edges },
    ⟨nfa.size, nfa.size + 1⟩)

/-- Add a start and an accepting state around two fragments, either of which may be
taken. -/
def addChoice (nfa : Nfa Label) (left right : Fragment) : Nfa Label × Fragment :=
  let start := nfa.size
  let accept := nfa.size + 1
  let grown : Nfa Label := { nfa with size := nfa.size + 2 }
  ((((grown.addEpsilon start left.start).addEpsilon left.accept accept).addEpsilon
      start right.start).addEpsilon right.accept accept,
    ⟨start, accept⟩)

/-- Add the automaton of an expression.  Optional parts and repetitions are edges
between the two ends of the fragment that they apply to. -/
def addExpr (nfa : Nfa Label) : Expr Label → Nfa Label × Fragment
  | .term label => nfa.addTerm label
  | .seq left right =>
      let (withLeft, leftFragment) := nfa.addExpr left
      let (withRight, rightFragment) := withLeft.addExpr right
      (withRight.addEpsilon leftFragment.accept rightFragment.start,
        ⟨leftFragment.start, rightFragment.accept⟩)
  | .alt left right =>
      let (withLeft, leftFragment) := nfa.addExpr left
      let (withRight, rightFragment) := withLeft.addExpr right
      withRight.addChoice leftFragment rightFragment
  | .opt body =>
      let (withBody, fragment) := nfa.addExpr body
      (withBody.addEpsilon fragment.start fragment.accept, fragment)
  | .plus body =>
      let (withBody, fragment) := nfa.addExpr body
      (withBody.addEpsilon fragment.accept fragment.start, fragment)
  | .star body =>
      let (withBody, fragment) := nfa.addExpr body
      ((withBody.addEpsilon fragment.accept fragment.start).addEpsilon
          fragment.start fragment.accept,
        fragment)

/-- The automaton of an expression. -/
def ofExpr (expression : Expr Label) : Nfa Label × Fragment :=
  empty.addExpr expression

/-- The states that a state leads to without reading anything. -/
def epsilonTargets (nfa : Nfa Label) (state : Nat) : List Nat :=
  nfa.edges.filterMap fun edge =>
    if edge.source = state ∧ edge.label.isNone then some edge.target else none

/-- The number of edges that leave states outside a set. -/
def edgesOutside (nfa : Nfa Label) (seen : NatSet) : Nat :=
  nfa.edges.countP fun edge => decide (edge.source ∉ seen)

/-- Each edge from a new state is accounted for once. -/
private theorem length_epsilonTargets_add_edgesOutside_le
    (nfa : Nfa Label) {seen : NatSet} {state : Nat} (isNew : state ∉ seen) :
    (nfa.epsilonTargets state).length + nfa.edgesOutside (seen.insert state) ≤
      nfa.edgesOutside seen := by
  unfold epsilonTargets edgesOutside
  induction nfa.edges with
  | nil => simp
  | cons edge later inductionHypothesis =>
      simp only [NatSet.mem_insert] at inductionHypothesis ⊢
      simp only [List.countP_cons, List.filterMap_cons, decide_eq_true_eq]
      by_cases fromState : edge.source = state
      · have outside : edge.source ∉ seen := by rw [fromState]; exact isNew
        have inside : ¬¬(edge.source = state ∨ edge.source ∈ seen) :=
          not_not_intro (.inl fromState)
        rw [if_neg inside, if_pos outside]
        split
        · omega
        · simp only [List.length_cons]
          omega
      · have notTaken : ¬(edge.source = state ∧ edge.label.isNone = true) :=
          fun both => fromState both.1
        rw [if_neg notTaken]
        by_cases seenSource : edge.source ∈ seen
        · rw [if_neg (not_not_intro (.inr seenSource)), if_neg (not_not_intro seenSource)]
          exact inductionHypothesis
        · rw [if_pos (not_or.mpr ⟨fromState, seenSource⟩), if_pos seenSource]
          exact Nat.succ_le_succ inductionHypothesis

/-- Add to a set the states that the pending states lead to without reading anything,
the pending states among them. -/
def explore (nfa : Nfa Label) (pending : List Nat) (seen : NatSet) : NatSet :=
  match pending with
  | [] => seen
  | state :: later =>
      if state ∈ seen then
        nfa.explore later seen
      else
        nfa.explore (nfa.epsilonTargets state ++ later) (seen.insert state)
termination_by pending.length + nfa.edgesOutside seen
decreasing_by
  · simp only [List.length_cons]
    omega
  · rename_i isNew
    have accounted := nfa.length_epsilonTargets_add_edgesOutside_le isNew
    simp only [List.length_append, List.length_cons]
    omega

/-- The states that some states lead to without reading anything. -/
def closure (nfa : Nfa Label) (states : List Nat) : NatSet :=
  nfa.explore states .empty

end Nfa

end RuleMachine
