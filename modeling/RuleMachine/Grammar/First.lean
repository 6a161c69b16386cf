import RuleMachine.Grammar.RuleAutomaton
import RuleMachine.GrammarText.Error

/-!
# First sets

The first set of a rule holds the terminal labels that it can begin with: those
on the arcs of its initial state, and the first sets of the rules that those
arcs descend into.  Rules are visited depth first.  A rule that is met again
while it is being visited descends into itself before reading anything: the
grammar is left recursive, and the rule with the last arc of the circle is
blamed.
-/

namespace RuleMachine.First

/-- The first sets that are known, by the index of their rule. -/
abbrev Known := Dictionary Nat NatSet

/-- Collect the terminal labels behind the arcs of the initial state of the rule called
`name`.  The rules in `visiting` are being visited, this one among them, and `visit`
makes the first set of another rule known. -/
def collect
    (visit : Nat → Known → Except GrammarError Known)
    (labels : List Label) (name : String) (visiting : List Nat) :
    List Arc → NatSet → Known → Except GrammarError (NatSet × Known)
  | [], first, known => .ok (first, known)
  | arc :: later, first, known =>
      match labels[arc.label]? with
      | some (.rule symbol) =>
          let sub := symbol.ruleIndex
          if sub ∈ visiting then
            .error (.unplaced (.leftRecursion name))
          else
            match known.get? sub with
            | some subFirst =>
                collect visit labels name visiting later (first.union subFirst) known
            | none =>
                match visit sub known with
                | .error error => .error error
                | .ok extended =>
                    let subFirst := (extended.get? sub).getD .empty
                    collect visit labels name visiting later (first.union subFirst) extended
      | _ => collect visit labels name visiting later (first.insert arc.label) known

/-- Make the first set of a rule known.  At most `depth` rules are visited inside each
other, and more than there are rules is never needed. -/
def visit (automata : List RuleAutomaton) (labels : List Label) (depth : Nat)
    (visiting : List Nat) (rule : Nat) (known : Known) : Except GrammarError Known :=
  match automata[rule]? with
  | none => .ok (known.insert rule .empty)
  | some automaton =>
      match depth with
      | 0 => .error (.unplaced (.leftRecursion automaton.name))
      | depth + 1 =>
          match collect (visit automata labels depth (rule :: visiting)) labels automaton.name
              (rule :: visiting) (automaton.arcsAt 0) .empty known with
          | .error error => .error error
          | .ok (first, extended) => .ok (extended.insert rule first)

/-- Make the first sets of the given rules known, one after the other. -/
def visitAll (automata : List RuleAutomaton) (labels : List Label) :
    List Nat → Known → Except GrammarError Known
  | [], known => .ok known
  | rule :: later, known =>
      match known.get? rule with
      | some _ => visitAll automata labels later known
      | none =>
          match visit automata labels automata.length [] rule known with
          | .error error => .error error
          | .ok extended => visitAll automata labels later extended

/-- The first sets of all rules, in the order of the rules. -/
def firstSets (automata : List RuleAutomaton) (labels : List Label) :
    Except GrammarError (List NatSet) :=
  match visitAll automata labels (List.range automata.length) .empty with
  | .error error => .error error
  | .ok known =>
      .ok ((List.range automata.length).map fun rule => (known.get? rule).getD .empty)

end RuleMachine.First
