import RuleMachine.Grammar.Basic
import RuleMachine.GrammarText.Error

/-!
# Ambiguity

One token of look-ahead has to decide which arc of a state to take.  A grammar
is ambiguous if two arcs of one state can begin with a common token, and a rule
that can match nothing must not be descended into, since no token announces it.
-/

namespace RuleMachine

/-- How a grammar treats a token that two arcs of one state could match. -/
inductive AmbiguityPolicy where
  /-- The grammar is refused. -/
  | reject
  /-- The grammar is accepted; an arc that matches the token itself comes first, then
  rules in the order of their labels. -/
  | firstWins
  deriving DecidableEq, Repr

namespace Ambiguity

/-- Whether some token may be matched by both of two terminal labels: they are the same
label, or one is an operator and the other the label of its kind. -/
def overlaps (labels : List Label) (left right : LabelId) : Bool :=
  left == right ||
    match labels[left]?, labels[right]? with
    | some (.operator _ kind), some (.token other) => kind == other
    | some (.token other), some (.operator _ kind) => kind == other
    | _, _ => false

/-- A terminal label, and the arc label that it is reached by. -/
structure Owner where
  terminal : LabelId
  arc : LabelId

/-- Enter the terminals that an arc can begin with, unless one of them overlaps with a
terminal that another arc can begin with. -/
def claimTerminals (grammar : Grammar) (rule : String) (arc : LabelId) :
    List LabelId → List Owner → Except GrammarError (List Owner)
  | [], owners => .ok owners
  | terminal :: later, owners =>
      let clash := owners.find? fun owner =>
        owner.arc != arc && overlaps grammar.labels owner.terminal terminal
      match clash with
      | some owner =>
          .error (.unplaced (.ambiguous rule (grammar.labelName terminal)
            (grammar.labelName owner.arc) (grammar.labelName arc)))
      | none => claimTerminals grammar rule arc later (owners ++ [⟨terminal, arc⟩])

/-- Refuse an arc that descends into a rule that can match nothing. -/
def checkDescent (grammar : Grammar) (rule : String) (arc : LabelId) : Except GrammarError Unit :=
  match grammar.subAutomaton? arc with
  | some sub =>
      if sub.isAccepting 0 then
        .error (.unplaced (.emptyRule rule sub.name))
      else
        .ok ()
  | none => .ok ()

/-- Check the arcs of a state, where the owners of earlier arcs are given. -/
def checkArcs (grammar : Grammar) (rule : String) :
    List Arc → List Owner → Except GrammarError Unit
  | [], _ => .ok ()
  | arc :: later, owners =>
      match checkDescent grammar rule arc.label with
      | .error error => .error error
      | .ok () =>
          match claimTerminals grammar rule arc.label (grammar.reachable arc.label) owners with
          | .error error => .error error
          | .ok extended => checkArcs grammar rule later extended

/-- Check the states of a rule. -/
def checkStates (grammar : Grammar) (rule : String) : List State → Except GrammarError Unit
  | [] => .ok ()
  | state :: later =>
      match checkArcs grammar rule state.arcs [] with
      | .error error => .error error
      | .ok () => checkStates grammar rule later

/-- Check the automata of a list. -/
def checkAutomata (grammar : Grammar) : List RuleAutomaton → Except GrammarError Unit
  | [] => .ok ()
  | automaton :: later =>
      match checkStates grammar automaton.name automaton.states with
      | .error error => .error error
      | .ok () => checkAutomata grammar later

/-- Refuse a grammar in which a token does not decide which arc to take. -/
def check (grammar : Grammar) : Except GrammarError Unit :=
  checkAutomata grammar grammar.automata

end Ambiguity

end RuleMachine
