import Mathlib.Data.Finset.Powerset
import RuleMachine.Automaton.Subset
import RuleMachine.Proofs.DfaRuns
import RuleMachine.Proofs.FragmentPaths

/-!
# What the subset construction accepts

The state with a number stands for the set with that number on the final roster.
Each set on the roster is closed: whatever it leads to without reading is in it.
So what is accepted from a state is what some path from its set to the accepting
state spells, by induction on the word.

The search ends because distinct sets of states below `size` are at most
`2 ^ size` many.
-/

namespace RuleMachine

namespace Nfa

/-! ## Closures -/

section Closure

variable {Label : Type} {nfa : Nfa Label} {pending seeds : List Nat} {seen : NatSet}
  {state target : Nat}

theorem mem_epsilonTargets :
    target ∈ nfa.epsilonTargets state ↔ ⟨state, none, target⟩ ∈ nfa.edges := by
  unfold epsilonTargets
  rw [List.mem_filterMap]
  constructor
  · rintro ⟨⟨source, label, reached⟩, member, taken⟩
    simp only [Option.ite_none_right_eq_some, Option.some.injEq, Option.isNone_iff_eq_none]
      at taken
    obtain ⟨⟨rfl, rfl⟩, rfl⟩ := taken
    exact member
  · exact fun member => ⟨_, member, by simp⟩

theorem mem_explore_of_mem (isMember : state ∈ seen ∨ state ∈ pending) :
    state ∈ nfa.explore pending seen := by
  fun_induction explore nfa pending seen with
  | case1 seen =>
      exact isMember.resolve_right (List.not_mem_nil)
  | case2 seen first later isOld inductionHypothesis =>
      apply inductionHypothesis
      rcases isMember with inSeen | inPending
      · exact .inl inSeen
      · rcases List.mem_cons.mp inPending with rfl | inLater
        · exact .inl isOld
        · exact .inr inLater
  | case3 seen first later isNew inductionHypothesis =>
      apply inductionHypothesis
      rw [NatSet.mem_insert, List.mem_append]
      rcases isMember with inSeen | inPending
      · exact .inl (.inr inSeen)
      · rcases List.mem_cons.mp inPending with rfl | inLater
        · exact .inl (.inl rfl)
        · exact .inr (.inr inLater)

theorem explore_closed
    (accounted : ∀ source ∈ seen, ∀ reached ∈ nfa.epsilonTargets source,
      reached ∈ seen ∨ reached ∈ pending)
    (member : state ∈ nfa.explore pending seen) (edge : ⟨state, none, target⟩ ∈ nfa.edges) :
    target ∈ nfa.explore pending seen := by
  fun_induction explore nfa pending seen with
  | case1 seen =>
      exact (accounted state member target (mem_epsilonTargets.mpr edge)).resolve_right
        List.not_mem_nil
  | case2 seen first later isOld inductionHypothesis =>
      refine inductionHypothesis ?_ member
      intro source inSeen reached isTarget
      rcases accounted source inSeen reached isTarget with inSeen | inPending
      · exact .inl inSeen
      · rcases List.mem_cons.mp inPending with rfl | inLater
        · exact .inl isOld
        · exact .inr inLater
  | case3 seen first later isNew inductionHypothesis =>
      refine inductionHypothesis ?_ member
      intro source inSeen reached isTarget
      rw [NatSet.mem_insert, List.mem_append]
      rcases NatSet.mem_insert.mp inSeen with rfl | wasSeen
      · exact .inr (.inl isTarget)
      · rcases accounted source wasSeen reached isTarget with inSeen | inPending
        · exact .inl (.inr inSeen)
        · rcases List.mem_cons.mp inPending with rfl | inLater
          · exact .inl (.inl rfl)
          · exact .inr (.inr inLater)

theorem path_of_mem_explore (member : state ∈ nfa.explore pending seen) :
    state ∈ seen ∨ ∃ seed ∈ pending, Path nfa.edges seed [] state := by
  fun_induction explore nfa pending seen with
  | case1 seen => exact .inl member
  | case2 seen first later isOld inductionHypothesis =>
      rcases inductionHypothesis member with inSeen | ⟨seed, inLater, path⟩
      · exact .inl inSeen
      · exact .inr ⟨seed, List.mem_cons_of_mem first inLater, path⟩
  | case3 seen first later isNew inductionHypothesis =>
      rcases inductionHypothesis member with inSeen | ⟨seed, inPending, path⟩
      · rcases NatSet.mem_insert.mp inSeen with rfl | wasSeen
        · exact .inr ⟨state, List.mem_cons_self, .refl state⟩
        · exact .inl wasSeen
      · rcases List.mem_append.mp inPending with isTarget | inLater
        · exact .inr ⟨first, List.mem_cons_self, .epsilon (mem_epsilonTargets.mp isTarget) path⟩
        · exact .inr ⟨seed, List.mem_cons_of_mem first inLater, path⟩

/-- A closure is not left without reading. -/
theorem mem_closure_of_path (begins : state ∈ nfa.closure seeds)
    (path : Path nfa.edges state [] target) : target ∈ nfa.closure seeds := by
  generalize spelled : ([] : List Label) = word at path
  induction path with
  | refl state => exact begins
  | epsilon edge _ inductionHypothesis =>
      refine inductionHypothesis ?_ spelled
      exact explore_closed
        (fun source inEmpty => absurd inEmpty (NatSet.not_mem_empty source)) begins edge
  | read _ _ _ => cases spelled

/-- The closure holds what the seeds lead to without reading anything. -/
theorem mem_closure : state ∈ nfa.closure seeds ↔ ∃ seed ∈ seeds, Path nfa.edges seed [] state := by
  constructor
  · intro member
    exact (path_of_mem_explore member).resolve_left (NatSet.not_mem_empty state)
  · rintro ⟨seed, isSeed, path⟩
    exact mem_closure_of_path (mem_explore_of_mem (.inr isSeed)) path

/-- In a closed automaton paths from a state lead to states. -/
theorem Closed.lt_of_path {word : List Label} (closed : nfa.Closed) (begins : state < nfa.size)
    (path : Path nfa.edges state word target) : target < nfa.size := by
  have kept : ∀ edge ∈ nfa.edges, edge.source < nfa.size →
      edge ∈ nfa.edges ∧ edge.target < nfa.size :=
    fun edge member _ => ⟨member, closed edge member⟩
  exact (path.of_closed (· < nfa.size) kept begins).2

end Closure

/-! ## Reading a label in a set of states -/

section Reading

variable {nfa : Nfa Nat} {set : NatSet} {seeds : List Nat} {label state target : Nat}
  {word : List Nat}

theorem mem_targetsOn :
    target ∈ nfa.targetsOn set label ↔
      ∃ source ∈ set, ⟨source, some label, target⟩ ∈ nfa.edges := by
  unfold targetsOn
  rw [List.mem_filterMap]
  constructor
  · rintro ⟨⟨source, read, reached⟩, member, taken⟩
    simp only [Option.ite_none_right_eq_some, Option.some.injEq] at taken
    obtain ⟨⟨rfl, inSet⟩, rfl⟩ := taken
    exact ⟨source, inSet, member⟩
  · rintro ⟨source, inSet, member⟩
    exact ⟨_, member, by simp [inSet]⟩

theorem mem_labelsFrom :
    label ∈ nfa.labelsFrom set ↔ ∃ target, target ∈ nfa.targetsOn set label := by
  unfold labelsFrom
  rw [NatSet.mem_ofList, List.mem_filterMap]
  constructor
  · rintro ⟨⟨source, read, reached⟩, member, taken⟩
    simp only [Option.ite_none_right_eq_some] at taken
    obtain ⟨inSet, rfl⟩ := taken
    exact ⟨reached, mem_targetsOn.mpr ⟨source, inSet, member⟩⟩
  · rintro ⟨target, isTarget⟩
    obtain ⟨source, inSet, member⟩ := mem_targetsOn.mp isTarget
    exact ⟨_, member, by simp [inSet]⟩

/-- From a closure, a path that reads a label first reads it at one of the states. -/
theorem exists_path_cons_iff :
    (∃ source ∈ nfa.closure seeds, Path nfa.edges source (label :: word) target) ↔
      ∃ source ∈ nfa.closure (nfa.targetsOn (nfa.closure seeds) label),
        Path nfa.edges source word target := by
  constructor
  · rintro ⟨source, begins, path⟩
    generalize spelled : label :: word = whole at path
    induction path with
    | refl state => cases spelled
    | @epsilon source middle target whole edge _ inductionHypothesis =>
        exact inductionHypothesis
          (mem_closure_of_path begins (.epsilon edge (.refl middle))) spelled
    | @read source middle target first later edge rest _ =>
        cases spelled
        refine ⟨middle, mem_closure.mpr ⟨middle, ?_, .refl middle⟩, rest⟩
        exact mem_targetsOn.mpr ⟨source, begins, edge⟩
  · rintro ⟨reached, member, path⟩
    obtain ⟨first, isTarget, silent⟩ := mem_closure.mp member
    obtain ⟨source, begins, edge⟩ := mem_targetsOn.mp isTarget
    exact ⟨source, begins, .read edge (silent.trans path)⟩

end Reading

/-! ## Numbered sets -/

section Numbered

variable {nfa : Nfa Nat} {sets wider : List NatSet} {set : NatSet}

/-- A set that the construction may meet: the closure of some states. -/
def IsClosure (nfa : Nfa Nat) (set : NatSet) : Prop :=
  ∃ seeds, (∀ seed ∈ seeds, seed < nfa.size) ∧ set = nfa.closure seeds

theorem Closed.isClosure_targetsOn (closed : nfa.Closed) (set : NatSet) (label : Nat) :
    nfa.IsClosure (nfa.closure (nfa.targetsOn set label)) := by
  refine ⟨nfa.targetsOn set label, ?_, rfl⟩
  intro target isTarget
  obtain ⟨source, _, edge⟩ := mem_targetsOn.mp isTarget
  exact closed _ edge

theorem Closed.lt_of_mem (closed : nfa.Closed) (isClosure : nfa.IsClosure set)
    {state : Nat} (member : state ∈ set) : state < nfa.size := by
  obtain ⟨seeds, bounded, rfl⟩ := isClosure
  obtain ⟨seed, isSeed, path⟩ := mem_closure.mp member
  exact closed.lt_of_path (bounded seed isSeed) path

/-- There are at most `2 ^ size` sets of states. -/
theorem Closed.length_le (closed : nfa.Closed) (distinct : sets.Nodup)
    (areClosures : ∀ set ∈ sets, nfa.IsClosure set) : sets.length ≤ Nat.pow 2 nfa.size := by
  have sameElements : Function.Injective fun set : NatSet => set.elements.toFinset := by
    intro left right equal
    have permuted : left.elements.Perm right.elements := by
      apply List.perm_of_nodup_nodup_toFinset_eq
      · exact left.ascending.imp Nat.ne_of_lt
      · exact right.ascending.imp Nat.ne_of_lt
      · exact equal
    have sameList := permuted.eq_of_pairwise
      (fun first second _ _ below above => absurd (below.trans above) (Nat.lt_irrefl first))
      left.ascending right.ascending
    cases left
    cases right
    simpa using sameList
  have inPowerset : (sets.map fun set => set.elements.toFinset).toFinset ⊆
      (Finset.range nfa.size).powerset := by
    intro elements member
    obtain ⟨set, inSets, rfl⟩ := List.mem_map.mp (List.mem_toFinset.mp member)
    refine Finset.mem_powerset.mpr fun state inSet => Finset.mem_range.mpr ?_
    exact closed.lt_of_mem (areClosures set inSets) (List.mem_toFinset.mp inSet)
  have counted := Finset.card_le_card inPowerset
  rwa [List.toFinset_card_of_nodup (distinct.map sameElements), List.length_map,
    Finset.card_powerset, Finset.card_range] at counted

/-- A state stands for a set, where its arcs lead to the numbers of the sets that are
reached from there. -/
structure StandsFor (nfa : Nfa Nat) (accept : Nat) (sets : List NatSet) (state : State)
    (set : NatSet) : Prop where
  accepting : state.accepting = true ↔ accept ∈ set
  labels : state.arcs.map Arc.label = (nfa.labelsFrom set).elements
  targets : ∀ arc ∈ state.arcs,
    sets[arc.target]? = some (nfa.closure (nfa.targetsOn set arc.label))

theorem getElem?_of_extends (extended : sets <+: wider) {place : Nat}
    (found : sets[place]? = some set) : wider[place]? = some set := by
  obtain ⟨added, rfl⟩ := extended
  obtain ⟨inRange, _⟩ := List.getElem?_eq_some_iff.mp found
  rw [List.getElem?_append_left inRange, found]

/-- The arcs of a set carry the given labels and lead to the sets reached on them; the
roster grows by nothing but such sets. -/
theorem arcsOn_spec (closed : nfa.Closed) (set : NatSet) (labels : List Nat)
    (roster : Roster NatSet) (areClosures : ∀ item ∈ roster.items, nfa.IsClosure item) :
    let result := nfa.arcsOn set roster labels
    roster.items <+: result.2.items ∧
      (∀ item ∈ result.2.items, nfa.IsClosure item) ∧
      result.1.map Arc.label = labels ∧
      ∀ arc ∈ result.1,
        result.2.items[arc.target]? = some (nfa.closure (nfa.targetsOn set arc.label)) := by
  induction labels generalizing roster with
  | nil => exact ⟨List.prefix_refl _, areClosures, rfl, by simp [arcsOn]⟩
  | cons label later inductionHypothesis =>
      let reached := nfa.closure (nfa.targetsOn set label)
      have enrolledClosures : ∀ item ∈ (roster.number reached).2.items, nfa.IsClosure item := by
        intro item member
        rcases Roster.eq_or_mem_of_mem_number member with rfl | wasEnrolled
        · exact closed.isClosure_targetsOn set label
        · exact areClosures item wasEnrolled
      obtain ⟨grows, finalClosures, carried, targets⟩ :=
        inductionHypothesis (roster.number reached).2 enrolledClosures
      refine ⟨(roster.number_extends reached).trans grows, finalClosures,
        congrArg (List.cons label) carried, ?_⟩
      intro arc member
      rcases List.mem_cons.mp member with rfl | inLater
      · exact getElem?_of_extends grows (roster.get?_number reached)
      · exact targets arc inLater

/-- Expanding a roster from a number on gives a state for each set from there on, also
for those that are enrolled on the way. -/
theorem expand_spec (closed : nfa.Closed) (accept count : Nat) (roster : Roster NatSet)
    (current : Nat) (areClosures : ∀ item ∈ roster.items, nfa.IsClosure item)
    (reached : current ≤ roster.size) (enough : Nat.pow 2 nfa.size ≤ current + count) :
    ∃ sets : List NatSet,
      roster.items <+: sets ∧
        (∀ item ∈ sets, nfa.IsClosure item) ∧
        sets.length = current + (nfa.expand accept count roster current).length ∧
        ∀ offset set, sets[current + offset]? = some set →
          ∃ state, (nfa.expand accept count roster current)[offset]? = some state ∧
            StandsFor nfa accept sets state set := by
  have bounded := closed.length_le roster.distinct areClosures
  induction count generalizing roster current with
  | zero =>
      refine ⟨roster.items, List.prefix_refl _, areClosures, ?_, ?_⟩
      · simp only [expand, List.length_nil, Nat.add_zero]
        exact le_antisymm (bounded.trans enough) reached
      · intro offset set found
        obtain ⟨inRange, _⟩ := List.getElem?_eq_some_iff.mp found
        omega
  | succ count inductionHypothesis =>
      unfold expand
      split
      · rename_i missing
        have exhausted : roster.items.length ≤ current := List.getElem?_eq_none_iff.mp missing
        refine ⟨roster.items, List.prefix_refl _, areClosures, ?_, ?_⟩
        · exact le_antisymm exhausted reached
        · intro offset set found
          obtain ⟨inRange, _⟩ := List.getElem?_eq_some_iff.mp found
          omega
      · rename_i set isCurrent
        obtain ⟨inRange, _⟩ := List.getElem?_eq_some_iff.mp isCurrent
        obtain ⟨grows, grownClosures, carried, targets⟩ :=
          arcsOn_spec closed set (nfa.labelsFrom set).elements roster areClosures
        have reachedNext :
            current + 1 ≤ (nfa.arcsOn set roster (nfa.labelsFrom set).elements).2.size :=
          Nat.succ_le_of_lt (inRange.trans_le grows.length_le)
        obtain ⟨sets, extended, setClosures, counted, represented⟩ :=
          inductionHypothesis _ (current + 1) grownClosures reachedNext (by omega)
            (closed.length_le (Roster.distinct _) grownClosures)
        refine ⟨sets, grows.trans extended, setClosures, ?_, ?_⟩
        · rw [counted, List.length_cons]
          omega
        · intro offset tested found
          cases offset with
          | zero =>
              have same : tested = set := by
                have kept := getElem?_of_extends (grows.trans extended) isCurrent
                exact Option.some.inj (found.symm.trans kept)
              subst same
              refine ⟨_, List.getElem?_cons_zero, ?_⟩
              exact
                { accepting := decide_eq_true_iff
                  labels := carried
                  targets := fun arc member =>
                    getElem?_of_extends extended (targets arc member) }
          | succ offset =>
              rw [List.getElem?_cons_succ]
              exact represented offset tested (by rw [← found]; congr 1; omega)

/-- The states of the subset construction stand for a list of sets, the first of which is
the closure of the start. -/
theorem subsets_spec (closed : nfa.Closed) {fragment : Fragment}
    (inRange : fragment.start < nfa.size) :
    ∃ sets : List NatSet,
      sets[0]? = some (nfa.closure [fragment.start]) ∧
        (∀ set ∈ sets, nfa.IsClosure set) ∧
        sets.length = (nfa.subsets fragment).length ∧
        ∀ (place : Nat) set, sets[place]? = some set →
          ∃ state, (nfa.subsets fragment)[place]? = some state ∧
            StandsFor nfa fragment.accept sets state set := by
  have first : (Roster.empty.enroll (nfa.closure [fragment.start])).items =
      [nfa.closure [fragment.start]] := by
    simp [Roster.enroll, Roster.empty]
  have firstClosure : ∀ item ∈ (Roster.empty.enroll (nfa.closure [fragment.start])).items,
      nfa.IsClosure item := by
    intro item member
    rw [first, List.mem_singleton] at member
    exact ⟨[fragment.start], by simpa using inRange, member⟩
  obtain ⟨sets, extended, areClosures, counted, represented⟩ :=
    expand_spec closed fragment.accept (Nat.pow 2 nfa.size) _ 0 firstClosure
      (Nat.zero_le _) (Nat.le_add_left _ 0)
  refine ⟨sets, ?_, areClosures, ?_, ?_⟩
  · exact getElem?_of_extends extended (by rw [first]; rfl)
  · rw [counted, Nat.zero_add, subsets]
  · intro place set found
    exact represented place set (by rwa [Nat.zero_add])

end Numbered

/-! ## What is accepted -/

section Accepted

variable {nfa : Nfa Nat} {sets : List NatSet} {states : List State} {accept : Nat}

/-- From the state of a set those words are accepted that a path from the set to the
accepting state spells. -/
theorem acceptsFrom_iff_path (areClosures : ∀ set ∈ sets, nfa.IsClosure set)
    (represented : ∀ (place : Nat) set, sets[place]? = some set →
      ∃ state, states[place]? = some state ∧ StandsFor nfa accept sets state set)
    (word : List Nat) {place : Nat} {set : NatSet} (found : sets[place]? = some set) :
    Dfa.AcceptsFrom states place word ↔ ∃ source ∈ set, Path nfa.edges source word accept := by
  induction word generalizing place set with
  | nil =>
      obtain ⟨state, stateFound, standsFor⟩ := represented place set found
      obtain ⟨seeds, _, rfl⟩ := areClosures set (List.mem_of_getElem? found)
      rw [Dfa.acceptsFrom_nil]
      constructor
      · rintro ⟨tested, testedFound, accepting⟩
        obtain rfl : state = tested := Option.some.inj (stateFound.symm.trans testedFound)
        exact ⟨accept, standsFor.accepting.mp accepting, .refl accept⟩
      · rintro ⟨source, member, path⟩
        have accepting := standsFor.accepting.mpr (mem_closure_of_path member path)
        exact ⟨state, stateFound, accepting⟩
  | cons label later inductionHypothesis =>
      obtain ⟨state, stateFound, standsFor⟩ := represented place set found
      obtain ⟨seeds, _, rfl⟩ := areClosures set (List.mem_of_getElem? found)
      rw [Dfa.acceptsFrom_cons, exists_path_cons_iff]
      constructor
      · rintro ⟨tested, arc, testedFound, member, rfl, accepted⟩
        obtain rfl : state = tested := Option.some.inj (stateFound.symm.trans testedFound)
        exact (inductionHypothesis (standsFor.targets arc member)).mp accepted
      · intro pathExists
        -- A path reads the label, so the set has an arc for it.
        have ⟨source, member, _⟩ := pathExists
        obtain ⟨first, isTarget, _⟩ := mem_closure.mp member
        have isLabel : label ∈ state.arcs.map Arc.label := by
          rw [standsFor.labels]
          exact mem_labelsFrom.mpr ⟨first, isTarget⟩
        obtain ⟨arc, arcMember, rfl⟩ := List.mem_map.mp isLabel
        refine ⟨state, arc, stateFound, arcMember, rfl, ?_⟩
        exact (inductionHypothesis (standsFor.targets arc arcMember)).mpr pathExists

/-- The subset construction gives a well-formed automaton. -/
theorem wellFormed_subsets (closed : nfa.Closed) {fragment : Fragment}
    (inRange : fragment.start < nfa.size) : Dfa.WellFormed (nfa.subsets fragment) := by
  obtain ⟨sets, first, _, counted, represented⟩ := subsets_spec closed inRange
  have standing : ∀ state ∈ nfa.subsets fragment,
      ∃ set, StandsFor nfa fragment.accept sets state set := by
    intro state member
    obtain ⟨place, placeInRange, rfl⟩ := List.getElem_of_mem member
    have found := List.getElem?_eq_getElem (counted ▸ placeInRange : place < sets.length)
    obtain ⟨other, otherFound, standsFor⟩ := represented place _ found
    rw [List.getElem?_eq_getElem placeInRange] at otherFound
    exact ⟨_, Option.some.inj otherFound ▸ standsFor⟩
  constructor
  · obtain ⟨nonempty, _⟩ := List.getElem?_eq_some_iff.mp first
    exact counted ▸ nonempty
  · intro state member
    obtain ⟨set, standsFor⟩ := standing state member
    have ascending := (nfa.labelsFrom set).ascending
    rw [← standsFor.labels, List.pairwise_map] at ascending
    exact ascending
  · intro state member arc arcMember
    obtain ⟨set, standsFor⟩ := standing state member
    obtain ⟨targetInRange, _⟩ := List.getElem?_eq_some_iff.mp (standsFor.targets arc arcMember)
    exact counted ▸ targetInRange

/-- The deterministic automaton of a fragment is well formed and accepts what the paths
through the fragment spell. -/
theorem determinize_spec (closed : nfa.Closed) {fragment : Fragment}
    (inRange : fragment.start < nfa.size) :
    Dfa.WellFormed (nfa.determinize fragment) ∧
      ∀ word, Dfa.Accepts (nfa.determinize fragment) word ↔
        Path nfa.edges fragment.start word fragment.accept := by
  obtain ⟨wellFormed, sameWords⟩ :=
    Dfa.mergeTwins_spec (nfa.subsets fragment) (wellFormed_subsets closed inRange)
  refine ⟨wellFormed, fun word => (sameWords word).trans ?_⟩
  obtain ⟨sets, first, areClosures, _, represented⟩ := subsets_spec closed inRange
  rw [Dfa.Accepts, acceptsFrom_iff_path areClosures represented word first]
  constructor
  · rintro ⟨source, member, path⟩
    obtain ⟨seed, isSeed, silent⟩ := mem_closure.mp member
    rw [List.mem_singleton] at isSeed
    exact isSeed ▸ silent.trans path
  · intro path
    exact ⟨fragment.start, mem_closure.mpr ⟨_, List.mem_singleton_self _, .refl _⟩, path⟩

end Accepted

end Nfa

namespace Dfa

/-- The automaton of an expression is well formed and accepts what can be read across the
fragment of the expression. -/
theorem ofExpr_spec (expression : Expr Nat) :
    WellFormed (ofExpr expression) ∧
      ∀ word, Accepts (ofExpr expression) word ↔
        word ∈ (expression.endPaths Nfa.letter).across := by
  obtain ⟨closed, inRange, across⟩ := Nfa.ofExpr_spec expression
  obtain ⟨wellFormed, accepted⟩ := Nfa.determinize_spec closed inRange
  refine ⟨wellFormed, fun word => ?_⟩
  rw [← across]
  exact accepted word

end Dfa

end RuleMachine
