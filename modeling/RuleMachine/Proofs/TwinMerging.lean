import RuleMachine.Proofs.CheckedAutomata
import RuleMachine.Proofs.TrimAutomata

/-!
# Merging the twins of any automaton

Each round of merging takes one state away, so there is a last round, and the states that
are gone tell how many rounds there were.  A round renames states, and so do all rounds
together: the first state stays in front, every state keeps its flag and the order of its
labels, and what is accepted stays the same.  Nothing of this depends on where the
automaton comes from.
-/

namespace RuleMachine.Dfa

variable {states : List State} {kept dropped : Nat}

/-! ## Rounds -/

/-- What the rounds of merging return, if one of the first `count` rounds finds no twins. -/
def mergeWithin : Nat → List State → Option (List State)
  | 0, _ => none
  | count + 1, states =>
      match firstTwins? states with
      | none => some states
      | some (kept, dropped) => mergeWithin count (merge states kept dropped)

theorem mergeWithin_succ_of_none (noTwins : firstTwins? states = none) (count : Nat) :
    mergeWithin (count + 1) states = some states := by
  simp only [mergeWithin, noTwins]

theorem mergeWithin_succ_of_some (found : firstTwins? states = some (kept, dropped))
    (count : Nat) :
    mergeWithin (count + 1) states = mergeWithin count (merge states kept dropped) := by
  simp only [mergeWithin, found]

/-- There are as many rounds with twins as states that are gone, and one round behind them
that returns. -/
theorem exists_rounds (states : List State) :
    ∃ rounds, rounds + (mergeTwins states).length = states.length ∧
      ∀ count, mergeWithin count states =
        if rounds < count then some (mergeTwins states) else none := by
  fun_induction mergeTwins states with
  | case1 states noTwins =>
      refine ⟨0, Nat.zero_add _, ?_⟩
      intro count
      cases count with
      | zero => rfl
      | succ count => rw [mergeWithin_succ_of_none noTwins, if_pos (Nat.succ_pos count)]
  | case2 states kept dropped found _ inductionHypothesis =>
      obtain ⟨rounds, counted, returns⟩ := inductionHypothesis
      have inRange := (firstTwins?_lt found).2
      have oneGone : (merge states kept dropped).length + 1 = states.length := by
        rw [merge, List.length_map, List.length_eraseIdx_of_lt inRange,
          Nat.sub_add_cancel (Nat.zero_lt_of_lt inRange)]
      refine ⟨rounds + 1, by omega, ?_⟩
      intro count
      cases count with
      | zero => rfl
      | succ count =>
          rw [mergeWithin_succ_of_some found, returns]
          simp only [Nat.add_lt_add_iff_right]

/-! ## All rounds together -/

theorem Renames.exists_state {newPlace : Nat → Nat} {renamed : List State} {place : Nat}
    {state : State} (renames : Renames newPlace states renamed)
    (found : states[place]? = some state) :
    ∃ new, renamed[newPlace place]? = some new ∧ new.accepting = state.accepting ∧
      new.arcs.map Arc.label = state.arcs.map Arc.label := by
  refine ⟨state.rename newPlace, ?_, rfl, state.map_label_rename newPlace⟩
  rw [renames.found, found, Option.map_some]

theorem eq_of_alike (distinct : states.Nodup) {place other : Nat} {state otherState : State}
    (found : states[place]? = some state) (otherFound : states[other]? = some otherState)
    (sameFlag : state.accepting = otherState.accepting)
    (sameArcs : state.arcs = otherState.arcs) : place = other := by
  have same : state = otherState := by
    cases state
    cases otherState
    rw [State.mk.injEq]
    exact ⟨sameArcs, sameFlag⟩
  have isPlace := (List.getElem?_eq_some_iff.mp found).1
  apply (List.getElem?_inj isPlace distinct).mp
  rw [found, otherFound, same]

/-- In any automaton whose arcs lead to states of it, merging ends, with no gap on the way.
The first state stays the first one, every state is found again with its flag and with its
labels in their order, no arc leads out of the automaton, the same words are accepted, there
are not more states than before, and no two of them are alike. -/
theorem mergeTwins_sound
    (inRange : ∀ state ∈ states, ∀ arc ∈ state.arcs, arc.target < states.length) :
    (∃ rounds, rounds + (mergeTwins states).length = states.length ∧
      ∀ count, mergeWithin count states =
        if rounds < count then some (mergeTwins states) else none) ∧
    Checked.mergeTwins states = .ok (mergeTwins states) ∧
    (∃ newPlace, newPlace 0 = 0 ∧ Renames newPlace states (mergeTwins states) ∧
      ∀ (place : Nat) state, states[place]? = some state →
        ∃ new, (mergeTwins states)[newPlace place]? = some new ∧
          new.accepting = state.accepting ∧
          new.arcs.map Arc.label = state.arcs.map Arc.label) ∧
    (∀ state ∈ mergeTwins states, ∀ arc ∈ state.arcs,
      arc.target < (mergeTwins states).length) ∧
    (∀ word, Accepts (mergeTwins states) word ↔ Accepts states word) ∧
    (mergeTwins states).length ≤ states.length ∧
    ∀ (place other : Nat) state otherState, (mergeTwins states)[place]? = some state →
      (mergeTwins states)[other]? = some otherState →
      state.accepting = otherState.accepting → state.arcs = otherState.arcs →
      place = other := by
  obtain ⟨rounds, counted, returns⟩ := exists_rounds states
  obtain ⟨newPlace, renames⟩ := exists_renames_mergeTwins states
  refine ⟨⟨rounds, counted, returns⟩, Checked.mergeTwins_eq states, ?_,
    renames.target_lt inRange, renames.accepts_iff, ?_, ?_⟩
  · refine ⟨newPlace, renames.first, renames, ?_⟩
    intro place state found
    exact renames.exists_state found
  · rw [← counted]
    exact Nat.le_add_left _ rounds
  · intro place other state otherState found otherFound sameFlag sameArcs
    exact eq_of_alike (nodup_mergeTwins states) found otherFound sameFlag sameArcs

/-- The last two states are twins, one with an arc to itself and one with an arc to the
other one.  Only after they are merged, the second and the third state are twins. -/
def cascade : List State :=
  [⟨[⟨1, 1⟩, ⟨2, 2⟩], false⟩, ⟨[⟨3, 3⟩], false⟩, ⟨[⟨3, 4⟩], false⟩, ⟨[⟨4, 3⟩], true⟩,
    ⟨[⟨4, 3⟩], true⟩]

theorem mergeTwins_sound_cascade :
    mergeTwins cascade =
      [⟨[⟨1, 1⟩, ⟨2, 1⟩], false⟩, ⟨[⟨3, 2⟩], false⟩, ⟨[⟨4, 2⟩], true⟩] ∧
    mergeWithin 2 cascade = none ∧
    ∀ word, Accepts (mergeTwins cascade) word ↔ Accepts cascade word := by
  have inRange : ∀ state ∈ cascade, ∀ arc ∈ state.arcs, arc.target < cascade.length := by
    decide
  obtain ⟨⟨rounds, _, returns⟩, _, _, _, sameWords, _⟩ := mergeTwins_sound inRange
  have thirdReturns : mergeWithin 3 cascade =
      some [⟨[⟨1, 1⟩, ⟨2, 1⟩], false⟩, ⟨[⟨3, 2⟩], false⟩, ⟨[⟨4, 2⟩], true⟩] := by
    decide
  refine ⟨?_, by decide, sameWords⟩
  rw [returns] at thirdReturns
  by_cases within : rounds < 3
  · rw [if_pos within] at thirdReturns
    exact Option.some.inj thirdReturns
  · rw [if_neg within] at thirdReturns
    cases thirdReturns

end RuleMachine.Dfa
