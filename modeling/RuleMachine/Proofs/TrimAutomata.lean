import RuleMachine.Proofs.LiveAutomata
import RuleMachine.Vocabulary.Standard

/-!
# Trim automata

No state of a compiled rule is there in vain.  The subset construction enrolls a set
only as the target of an arc, so every state is reached from the first one; the set of
a state is not empty and everything in a fragment leads to its accepting state, so
every state leads on to an accepting one.  Merging twins renames runs and ends when no
two states are equal.
-/

namespace RuleMachine

namespace Dfa

variable {states renamed : List State} {newPlace : Nat → Nat} {source middle target : Nat}
  {word later : List Nat}

/-! ## Runs -/

theorem Run.trans (first : Run states source word middle)
    (second : Run states middle later target) : Run states source (word ++ later) target := by
  induction first with
  | refl place => exact second
  | step found isArc _ inductionHypothesis =>
      exact Run.step found isArc (inductionHypothesis second)

/-! ## Merging -/

/-- Every state is reached from the first one and leads to an accepting one. -/
structure Trim (states : List State) : Prop where
  reached : ∀ place < states.length, ∃ word, Run states 0 word place
  accepts : ∀ place < states.length, ∃ word, AcceptsFrom states place word

theorem Trim.rename (trim : Trim states) (renames : Renames newPlace states renamed) :
    Trim renamed := by
  constructor
  · intro place isPlace
    obtain ⟨old, isOld, rfl⟩ := renames.onto place isPlace
    obtain ⟨word, isRun⟩ := trim.reached old isOld
    have renamedRun := renames.run isRun
    rw [renames.first] at renamedRun
    exact ⟨word, renamedRun⟩
  · intro place isPlace
    obtain ⟨old, isOld, rfl⟩ := renames.onto place isPlace
    obtain ⟨word, accepted⟩ := trim.accepts old isOld
    exact ⟨word, (renames.acceptsFrom_iff old word).mpr accepted⟩

theorem Trim.mergeTwins (trim : Trim states) : Trim (mergeTwins states) := by
  obtain ⟨newPlace, renames⟩ := exists_renames_mergeTwins states
  exact trim.rename renames

theorem nodup_of_firstTwins?_eq_none (noTwins : firstTwins? states = none) :
    states.Nodup := by
  induction states with
  | nil => exact List.nodup_nil
  | cons state others inductionHypothesis =>
      unfold firstTwins? at noTwins
      split at noTwins
      · cases noTwins
      · rename_i isNew
        have laterNone := Option.map_eq_none_iff.mp noTwins
        refine List.nodup_cons.mpr ⟨?_, inductionHypothesis laterNone⟩
        intro member
        have differs := List.findIdx?_eq_none_iff.mp isNew state member
        simp at differs

/-- Merging ends when no two states are equal. -/
theorem nodup_mergeTwins (states : List State) : (mergeTwins states).Nodup := by
  fun_induction mergeTwins states with
  | case1 states noTwins => exact nodup_of_firstTwins?_eq_none noTwins
  | case2 states kept dropped found _ inductionHypothesis => exact inductionHypothesis

end Dfa

/-! ## The subset construction -/

namespace Nfa

variable {nfa : Nfa Nat} {set : NatSet} {roster : Roster NatSet} {place : Nat}

theorem size_number (roster : Roster NatSet) (set : NatSet) :
    (roster.number set).2.size = roster.size ∨
      (roster.number set).1 = roster.size ∧
        (roster.number set).2.size = roster.size + 1 := by
  unfold Roster.number
  split
  · exact .inl rfl
  · rename_i missing
    have isNew := Roster.not_mem_of_numberOf?_eq_none missing
    right
    refine ⟨rfl, ?_⟩
    simp only [Roster.size, Roster.enroll, dif_neg isNew, List.length_append,
      List.length_singleton]

theorem size_le_arcsOn (nfa : Nfa Nat) (set : NatSet) (roster : Roster NatSet)
    (labels : List Nat) : roster.size ≤ (nfa.arcsOn set roster labels).2.size := by
  induction labels generalizing roster with
  | nil => exact Nat.le_refl _
  | cons label others inductionHypothesis =>
      have grows := (roster.number_extends (nfa.closure (nfa.targetsOn set label))).length_le
      exact Nat.le_trans grows (inductionHypothesis _)

/-- A set that is enrolled for the arcs of another set is the target of one of them. -/
theorem exists_target_of_arcsOn {labels : List Nat} (notBefore : roster.size ≤ place)
    (isEnrolled : place < (nfa.arcsOn set roster labels).2.size) :
    ∃ arc ∈ (nfa.arcsOn set roster labels).1, arc.target = place := by
  induction labels generalizing roster with
  | nil =>
      change place < roster.size at isEnrolled
      omega
  | cons label others inductionHypothesis =>
      by_cases isNext : (roster.number (nfa.closure (nfa.targetsOn set label))).2.size ≤ place
      · obtain ⟨arc, isArc, isTarget⟩ := inductionHypothesis isNext isEnrolled
        exact ⟨arc, List.mem_cons_of_mem _ isArc, isTarget⟩
      · rcases size_number roster (nfa.closure (nfa.targetsOn set label)) with
          same | ⟨isNumber, grown⟩
        · omega
        · refine ⟨_, List.mem_cons_self, ?_⟩
          change (roster.number (nfa.closure (nfa.targetsOn set label))).1 = place
          omega

/-- Every state that is not one of the sets at hand is the target of an arc of an earlier
state. -/
theorem exists_arc_of_expand {accept count current : Nat} (begun : current ≤ roster.size)
    (notBefore : roster.size ≤ place)
    (isPlace : place < current + (nfa.expand accept count roster current).length) :
    ∃ source state arc, current ≤ source ∧ source < place ∧
      (nfa.expand accept count roster current)[source - current]? = some state ∧
      arc ∈ state.arcs ∧ arc.target = place := by
  induction count generalizing roster current with
  | zero =>
      simp only [expand, List.length_nil] at isPlace
      omega
  | succ count inductionHypothesis =>
      unfold expand at isPlace ⊢
      split at isPlace
      · simp only [List.length_nil] at isPlace
        omega
      · rename_i set isCurrent
        have isOld : current < roster.size := (List.getElem?_eq_some_iff.mp isCurrent).1
        rw [List.length_cons] at isPlace
        by_cases isLater :
            (nfa.arcsOn set roster (nfa.labelsFrom set).elements).2.size ≤ place
        · have grows := nfa.size_le_arcsOn set roster (nfa.labelsFrom set).elements
          have begunNext :
              current + 1 ≤ (nfa.arcsOn set roster (nfa.labelsFrom set).elements).2.size := by
            omega
          obtain ⟨source, state, arc, behind, before, found, isArc, isTarget⟩ :=
            inductionHypothesis begunNext isLater (by omega)
          refine ⟨source, state, arc, by omega, before, ?_, isArc, isTarget⟩
          rw [show source - current = source - (current + 1) + 1 by omega,
            List.getElem?_cons_succ]
          exact found
        · obtain ⟨arc, isArc, isTarget⟩ :=
            exists_target_of_arcsOn notBefore (Nat.lt_of_not_le isLater)
          let first : State :=
            ⟨(nfa.arcsOn set roster (nfa.labelsFrom set).elements).1, decide (accept ∈ set)⟩
          refine ⟨current, first, arc, Nat.le_refl _, by omega, ?_, isArc, isTarget⟩
          rw [Nat.sub_self, List.getElem?_cons_zero]

theorem exists_arc_of_subsets {fragment : Fragment} (notFirst : 0 < place)
    (isPlace : place < (nfa.subsets fragment).length) :
    ∃ source state arc, source < place ∧ (nfa.subsets fragment)[source]? = some state ∧
      arc ∈ state.arcs ∧ arc.target = place := by
  have oneSet : (Roster.empty.enroll (nfa.closure [fragment.start])).size = 1 := rfl
  obtain ⟨source, state, arc, _, before, found, isArc, isTarget⟩ :=
    exists_arc_of_expand (Nat.zero_le _) (by omega)
      (show place < 0 + (nfa.subsets fragment).length by omega)
  exact ⟨source, state, arc, before, found, isArc, isTarget⟩

theorem exists_run_subsets {fragment : Fragment}
    (isPlace : place < (nfa.subsets fragment).length) :
    ∃ word, Dfa.Run (nfa.subsets fragment) 0 word place := by
  induction place using Nat.strong_induction_on with
  | _ place inductionHypothesis =>
      by_cases isFirst : place = 0
      · rw [isFirst]
        exact ⟨[], Dfa.Run.refl 0⟩
      · obtain ⟨source, state, arc, before, found, isArc, rfl⟩ :=
          exists_arc_of_subsets (Nat.pos_of_ne_zero isFirst) isPlace
        obtain ⟨word, run⟩ := inductionHypothesis source before (by omega)
        exact ⟨word ++ [arc.label], run.trans (Dfa.Run.step found isArc (Dfa.Run.refl _))⟩

theorem StandsFor.exists_mem_target {accept : Nat} {sets : List NatSet} {state : State}
    {arc : Arc} (standsFor : StandsFor nfa accept sets state set) (isArc : arc ∈ state.arcs) :
    ∃ reached, sets[arc.target]? = some reached ∧ ∃ member, member ∈ reached := by
  have isLabel : arc.label ∈ nfa.labelsFrom set := by
    change arc.label ∈ (nfa.labelsFrom set).elements
    rw [← standsFor.labels]
    exact List.mem_map_of_mem isArc
  obtain ⟨target, isTarget⟩ := mem_labelsFrom.mp isLabel
  exact ⟨_, standsFor.targets arc isArc, target,
    mem_closure.mpr ⟨target, isTarget, .refl target⟩⟩

theorem trim_subsets (closed : nfa.Closed) {fragment : Fragment}
    (inRange : fragment.start < nfa.size)
    (leads : ∀ state < nfa.size, ∃ word, Path nfa.edges state word fragment.accept) :
    Dfa.Trim (nfa.subsets fragment) := by
  obtain ⟨sets, first, areClosures, counted, represented⟩ := subsets_spec closed inRange
  refine ⟨fun place isPlace => exists_run_subsets isPlace, ?_⟩
  intro place isPlace
  have notEmpty : ∃ set, sets[place]? = some set ∧ ∃ member, member ∈ set := by
    by_cases isFirst : place = 0
    · rw [isFirst]
      exact ⟨_, first, fragment.start, mem_closure.mpr ⟨_, .head _, .refl _⟩⟩
    · obtain ⟨source, state, arc, before, found, isArc, rfl⟩ :=
        exists_arc_of_subsets (Nat.pos_of_ne_zero isFirst) isPlace
      have isSource : source < sets.length := by omega
      obtain ⟨other, otherFound, standsFor⟩ :=
        represented source _ (List.getElem?_eq_getElem isSource)
      rw [found, Option.some.injEq] at otherFound
      subst otherFound
      exact standsFor.exists_mem_target isArc
  obtain ⟨set, isSet, member, isMember⟩ := notEmpty
  have inAutomaton := closed.lt_of_mem (areClosures set (List.mem_of_getElem? isSet)) isMember
  obtain ⟨word, path⟩ := leads member inAutomaton
  exact ⟨word, (acceptsFrom_iff_path areClosures represented word isSet).mpr
    ⟨member, isMember, path⟩⟩

end Nfa

theorem Dfa.trim_ofExpr (expression : Expr Nat) : Dfa.Trim (ofExpr expression) := by
  obtain ⟨closed, inRange, _⟩ := Nfa.ofExpr_spec expression
  apply Trim.mergeTwins
  apply Nfa.trim_subsets closed inRange
  intro state isState
  exact Nfa.leadsTo_addExpr .empty expression state ⟨Nat.zero_le state, isState⟩

/-! ## Compiled grammars -/

namespace Grammar

variable {rules : List Rule} {vocabulary : Vocabulary} {start : Option String}
  {policy : AmbiguityPolicy} {grammar : Grammar}

/-- In every rule of a built grammar each state is reached from the first one and leads to
an accepting one, the first state has an arc, no two states are equal, and the rule can
begin with some terminal label. -/
theorem build_trim (built : build rules vocabulary start policy = .ok grammar) :
    grammar.automata.length = rules.length ∧
      ∀ automaton ∈ grammar.automata,
        (∀ place < automaton.states.length, ∃ word, Dfa.Run automaton.states 0 word place) ∧
        (∀ place < automaton.states.length, ∃ word target,
          Dfa.Run automaton.states place word target ∧
            Dfa.IsAccepting automaton.states target) ∧
        (∃ arc, arc ∈ automaton.arcsAt 0) ∧
        (∀ (place other : Nat) state, automaton.states[place]? = some state →
          automaton.states[other]? = some state → place = other) ∧
        ∃ label, label ∈ automaton.first := by
  obtain ⟨capacity, assembled, _⟩ := build_eq_ok_iff.mp built
  have compiled := compiled_of_assemble capacity assembled
  refine ⟨compiled.length, ?_⟩
  intro automaton isAutomaton
  obtain ⟨expression, states_eq⟩ := compiled.exists_states_eq isAutomaton
  have trim : Dfa.Trim automaton.states := by
    rw [states_eq]
    exact Dfa.trim_ofExpr expression
  have distinct : automaton.states.Nodup := by
    rw [states_eq]
    exact Dfa.nodup_mergeTwins _
  refine ⟨trim.reached, trim.accepts, compiled.exists_arc_zero isAutomaton, ?_, ?_⟩
  · intro place other state found otherFound
    obtain ⟨isPlace, _⟩ := List.getElem?_eq_some_iff.mp found
    exact (List.getElem?_inj isPlace distinct).mp (found.trans otherFound.symm)
  · exact compiled.exists_mem_first (exact_of_assemble assembled)
      (compiled.automaton?_symbol isAutomaton)

/-- Two alternatives that go on alike: of the seven sets of the construction all but the
first one are three pairs of twins. -/
def pairText : String := "pair: NAME '=' NUMBER | STRING '=' NUMBER\n"

theorem build_trim_pairText :
    ∃ rules grammar automaton, build rules .mini none .reject = .ok grammar ∧
      grammar.automata = [automaton] ∧ automaton.states.length = 4 ∧
      (∀ place < 4, ∃ word, Dfa.Run automaton.states 0 word place) ∧
      (∀ place < 4, ∃ word target, Dfa.Run automaton.states place word target ∧
        Dfa.IsAccepting automaton.states target) ∧
      ∃ label, label ∈ automaton.first := by
  have counts : (compile pairText .mini none .reject).map
      (fun grammar => grammar.automata.map fun automaton => automaton.states.length) =
        .ok [4] := by
    decide +kernel
  cases compiled : compile pairText .mini none .reject with
  | error failure =>
      rw [compiled] at counts
      cases counts
  | ok grammar =>
      rw [compiled] at counts
      obtain ⟨rules, _, built⟩ := compile_eq_ok compiled
      obtain ⟨automaton, automata_eq, fourStates⟩ :=
        List.map_eq_singleton_iff.mp (Except.ok.inj counts)
      obtain ⟨reached, accepts, _, _, begins⟩ :=
        (build_trim built).2 automaton (by rw [automata_eq]; exact .head _)
      rw [fourStates] at reached accepts
      exact ⟨rules, grammar, automaton, built, automata_eq, fourStates, reached, accepts, begins⟩

end Grammar

end RuleMachine
