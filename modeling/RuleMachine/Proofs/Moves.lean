import RuleMachine.Proofs.Derivations
import RuleMachine.Proofs.TransitionTable

/-!
# Moves

The move that is found for a state and the candidate labels of a token is along
an arc that can be taken on one of these labels, and no move is found exactly if
there is no such arc.
-/

namespace RuleMachine

theorem Frame.isFinished_iff (frame : Frame) :
    frame.isFinished = true ↔
      Dfa.IsAccepting frame.automaton.states frame.state ∧
        frame.automaton.arcsAt frame.state = [] := by
  unfold Frame.isFinished RuleAutomaton.isFinal RuleAutomaton.arcsAt Dfa.IsAccepting
  cases frame.automaton.states[frame.state]? with
  | none => simp
  | some state => simp

namespace Session

variable {grammar : Grammar} {automaton : RuleAutomaton} {state : Nat} {label : LabelId}
  {candidates : List LabelId}

theorem exists_arc_of_descent? {arcs : List Arc} {move : Move}
    (found : descent? grammar label arcs = some move) :
    ∃ arc ∈ arcs, ∃ sub, grammar.subAutomaton? arc.label = some sub ∧ label ∈ sub.first ∧
      move = .descend arc.target sub := by
  obtain ⟨arc, member, isMove⟩ := List.exists_of_findSome?_eq_some found
  refine ⟨arc, member, ?_⟩
  split at isMove
  · rename_i sub isSub
    split at isMove
    · rename_i couldMatch
      exact ⟨sub, isSub, of_decide_eq_true couldMatch, (Option.some.inj isMove).symm⟩
    · cases isMove
  · cases isMove

theorem not_mem_first_of_descent?_eq_none {arcs : List Arc} {arc : Arc} {sub : RuleAutomaton}
    (missing : descent? grammar label arcs = none) (member : arc ∈ arcs)
    (isSub : grammar.subAutomaton? arc.label = some sub) : label ∉ sub.first := by
  have noMove := List.findSome?_eq_none_iff.mp missing arc member
  intro isFirst
  simp [isSub, RuleAutomaton.couldMatch, isFirst] at noMove

/-- An arc that a move takes on a label. -/
inductive Takes (grammar : Grammar) (label : LabelId) : Arc → Move → Prop
  | shift (target : Nat) : Takes grammar label ⟨label, target⟩ (.shift target)
  | descend {arc : Arc} {sub : RuleAutomaton} :
      grammar.subAutomaton? arc.label = some sub → label ∈ sub.first →
      Takes grammar label arc (.descend arc.target sub)

theorem Takes.answers {arc : Arc} {move : Move} (takes : Takes grammar label arc move) :
    grammar.Answers arc label := by
  cases takes with
  | shift target => exact .inl rfl
  | descend isSub isFirst => exact .inr ⟨_, isSub, isFirst⟩

theorem exists_takes_of_findMove? (faithful : automaton.TableFaithful) {move : Move}
    (found : findMove? grammar automaton state candidates = some move) :
    ∃ label ∈ candidates, ∃ arc ∈ automaton.arcsAt state, Takes grammar label arc move := by
  obtain ⟨label, isCandidate, moves⟩ := List.exists_of_findSome?_eq_some found
  refine ⟨label, isCandidate, ?_⟩
  unfold moveOn? at moves
  split at moves
  · rename_i target direct
    rw [← Option.some.inj moves]
    exact ⟨_, (faithful.transition state label target).mp direct, .shift target⟩
  · obtain ⟨arc, member, sub, isSub, isFirst, rfl⟩ := exists_arc_of_descent? moves
    exact ⟨arc, member, .descend isSub isFirst⟩

theorem not_answers_of_findMove?_eq_none (faithful : automaton.TableFaithful)
    (missing : findMove? grammar automaton state candidates = none) :
    ∀ arc ∈ automaton.arcsAt state, ∀ label ∈ candidates, ¬grammar.Answers arc label := by
  intro arc member label isCandidate answers
  have noMove := List.findSome?_eq_none_iff.mp missing label isCandidate
  unfold moveOn? at noMove
  split at noMove
  · cases noMove
  · rename_i noTransition
    rcases answers with rfl | ⟨sub, isSub, isFirst⟩
    · have direct := (faithful.transition state arc.label arc.target).mpr member
      cases noTransition.symm.trans direct
    · exact not_mem_first_of_descent?_eq_none noMove member isSub isFirst

theorem findMove?_eq_none_iff (faithful : automaton.TableFaithful) :
    findMove? grammar automaton state candidates = none ↔
      ∀ arc ∈ automaton.arcsAt state, ∀ label ∈ candidates, ¬grammar.Answers arc label := by
  constructor
  · exact not_answers_of_findMove?_eq_none faithful
  · intro noAnswer
    cases found : findMove? grammar automaton state candidates with
    | none => rfl
    | some move =>
        obtain ⟨label, isCandidate, arc, member, takes⟩ :=
          exists_takes_of_findMove? faithful found
        exact absurd takes.answers (noAnswer arc member label isCandidate)

end Session

end RuleMachine
