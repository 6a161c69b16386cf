import Mathlib.Data.List.Basic
import RuleMachine.Automaton.Dfa

/-!
# Runs of deterministic automata

A run follows the arcs of the states and reads their labels.  Merging twins
renames states and changes nothing about what is accepted: the renamed state has
the renamed arcs of the original one, also for the state that was dropped, since
its twin was kept.
-/

namespace RuleMachine

/-- The arc to the new place of its target. -/
def Arc.rename (newPlace : Nat → Nat) (arc : Arc) : Arc :=
  { arc with target := newPlace arc.target }

/-- The state with all its arcs to the new places of their targets. -/
def State.rename (newPlace : Nat → Nat) (state : State) : State :=
  { state with arcs := state.arcs.map (Arc.rename newPlace) }

theorem State.rename_id (state : State) : state.rename id = state := by
  change State.mk (state.arcs.map id) state.accepting = state
  rw [List.map_id]

theorem State.rename_rename (first second : Nat → Nat) (state : State) :
    (state.rename first).rename second = state.rename (second ∘ first) := by
  simp only [State.rename, List.map_map]
  rfl

theorem State.mem_arcs_rename {newPlace : Nat → Nat} {state : State} {arc : Arc} :
    arc ∈ (state.rename newPlace).arcs ↔ ∃ old ∈ state.arcs, old.rename newPlace = arc :=
  List.mem_map

/-- A renamed state has its labels in the same order. -/
theorem State.map_label_rename (newPlace : Nat → Nat) (state : State) :
    (state.rename newPlace).arcs.map Arc.label = state.arcs.map Arc.label :=
  List.map_map

/-- The place of a state after the state `dropped` was merged into `kept`. -/
def Arc.moved (kept dropped place : Nat) : Nat :=
  if place = dropped then kept else if dropped < place then place - 1 else place

theorem Arc.retarget_eq (arc : Arc) (kept dropped : Nat) :
    arc.retarget kept dropped = arc.rename (Arc.moved kept dropped) := by
  unfold Arc.retarget Arc.rename Arc.moved
  split
  · rfl
  · split <;> rfl

theorem State.retarget_eq (state : State) (kept dropped : Nat) :
    state.retarget kept dropped = state.rename (Arc.moved kept dropped) := by
  simp only [State.retarget, State.rename, Arc.retarget_eq]

namespace Dfa

variable {states middle renamed : List State} {newPlace : Nat → Nat}
  {kept dropped source target : Nat} {word : List Nat}

/-- A run along the arcs of an automaton, with the labels that it reads. -/
inductive Run (states : List State) : Nat → List Nat → Nat → Prop
  | refl (place : Nat) : Run states place [] place
  | step {source target : Nat} {state : State} {arc : Arc} {word : List Nat} :
      states[source]? = some state → arc ∈ state.arcs → Run states arc.target word target →
      Run states source (arc.label :: word) target

/-- Whether a place is one of an accepting state. -/
def IsAccepting (states : List State) (place : Nat) : Prop :=
  ∃ state, states[place]? = some state ∧ state.accepting = true

/-- Whether some run from a place reads a word and ends in an accepting state. -/
def AcceptsFrom (states : List State) (source : Nat) (word : List Nat) : Prop :=
  ∃ target, Run states source word target ∧ IsAccepting states target

/-- Whether an automaton accepts a word from its first state. -/
def Accepts (states : List State) (word : List Nat) : Prop :=
  AcceptsFrom states 0 word

theorem acceptsFrom_nil : AcceptsFrom states source [] ↔ IsAccepting states source := by
  constructor
  · rintro ⟨target, run, accepting⟩
    cases run
    exact accepting
  · exact fun accepting => ⟨source, .refl source, accepting⟩

theorem acceptsFrom_cons {label : Nat} :
    AcceptsFrom states source (label :: word) ↔
      ∃ state arc, states[source]? = some state ∧ arc ∈ state.arcs ∧ arc.label = label ∧
        AcceptsFrom states arc.target word := by
  constructor
  · rintro ⟨target, run, accepting⟩
    cases run with
    | step found member rest =>
        exact ⟨_, _, found, member, rfl, target, rest, accepting⟩
  · rintro ⟨state, arc, found, member, rfl, target, rest, accepting⟩
    exact ⟨target, .step found member rest, accepting⟩

/-! ## Well-formed automata -/

/-- An automaton with a first state, in which the arcs of every state ascend by label and
lead to states of the automaton. -/
structure WellFormed (states : List State) : Prop where
  nonempty : 0 < states.length
  ascending : ∀ state ∈ states, state.arcs.Pairwise fun left right => left.label < right.label
  inRange : ∀ state ∈ states, ∀ arc ∈ state.arcs, arc.target < states.length

/-! ## Renaming states -/

/-- The states of an automaton have new places in another one.  Each keeps its flag and its
arcs, in their order, and the arcs lead to the new places of their targets. -/
structure Renames (newPlace : Nat → Nat) (states renamed : List State) : Prop where
  /-- The automata have the same start. -/
  first : newPlace 0 = 0
  found : ∀ place, renamed[newPlace place]? = states[place]?.map (State.rename newPlace)
  onto : ∀ place < renamed.length, ∃ old < states.length, newPlace old = place

theorem Renames.refl (states : List State) : Renames id states states := by
  refine ⟨rfl, ?_, fun place isPlace => ⟨place, isPlace, rfl⟩⟩
  intro place
  change states[place]? = states[place]?.map fun state => state.rename id
  simp only [State.rename_id, Option.map_id']

theorem Renames.trans {first second : Nat → Nat} (before : Renames first states middle)
    (behind : Renames second middle renamed) : Renames (second ∘ first) states renamed := by
  constructor
  · rw [Function.comp_apply, before.first, behind.first]
  · intro place
    rw [Function.comp_apply, behind.found, before.found, Option.map_map]
    congr 1
    funext state
    exact state.rename_rename first second
  · intro place isPlace
    obtain ⟨between, isBetween, rfl⟩ := behind.onto place isPlace
    obtain ⟨old, isOld, rfl⟩ := before.onto between isBetween
    exact ⟨old, isOld, rfl⟩

theorem Renames.exists_of_mem {state : State} (renames : Renames newPlace states renamed)
    (isState : state ∈ renamed) : ∃ old ∈ states, old.rename newPlace = state := by
  obtain ⟨place, isPlace, found⟩ := List.getElem_of_mem isState
  obtain ⟨old, _, rfl⟩ := renames.onto place isPlace
  have atOld := renames.found old
  rw [List.getElem?_eq_getElem isPlace, found] at atOld
  obtain ⟨oldState, oldFound, state_eq⟩ := Option.map_eq_some_iff.mp atOld.symm
  exact ⟨oldState, List.mem_of_getElem? oldFound, state_eq⟩

theorem Renames.lt_length {place : Nat} (renames : Renames newPlace states renamed)
    (isPlace : place < states.length) : newPlace place < renamed.length := by
  have atPlace := renames.found place
  rw [List.getElem?_eq_getElem isPlace, Option.map_some] at atPlace
  exact (List.getElem?_eq_some_iff.mp atPlace).1

theorem Renames.isAccepting_iff (renames : Renames newPlace states renamed) (place : Nat) :
    IsAccepting renamed (newPlace place) ↔ IsAccepting states place := by
  unfold IsAccepting
  rw [renames.found]
  cases states[place]? <;> simp [State.rename]

theorem Renames.run (renames : Renames newPlace states renamed)
    (isRun : Run states source word target) :
    Run renamed (newPlace source) word (newPlace target) := by
  induction isRun with
  | refl place => exact .refl _
  | @step source target state arc word found isArc _ inductionHypothesis =>
      have renamedFound : renamed[newPlace source]? = some (state.rename newPlace) := by
        rw [renames.found, found, Option.map_some]
      have isRenamed : arc.rename newPlace ∈ (state.rename newPlace).arcs :=
        State.mem_arcs_rename.mpr ⟨arc, isArc, rfl⟩
      have taken := Run.step renamedFound isRenamed inductionHypothesis
      exact taken

/-- Nothing that is read from a place tells the automata apart. -/
theorem Renames.acceptsFrom_iff (renames : Renames newPlace states renamed) (source : Nat)
    (word : List Nat) :
    AcceptsFrom renamed (newPlace source) word ↔ AcceptsFrom states source word := by
  constructor
  · intro accepted
    induction word generalizing source with
    | nil =>
        apply acceptsFrom_nil.mpr
        exact (renames.isAccepting_iff source).mp (acceptsFrom_nil.mp accepted)
    | cons label later inductionHypothesis =>
        obtain ⟨state, arc, found, isArc, sameLabel, laterAccepted⟩ :=
          acceptsFrom_cons.mp accepted
        rw [renames.found] at found
        obtain ⟨old, oldFound, rfl⟩ := Option.map_eq_some_iff.mp found
        obtain ⟨oldArc, isOldArc, rfl⟩ := State.mem_arcs_rename.mp isArc
        apply acceptsFrom_cons.mpr
        exact ⟨old, oldArc, oldFound, isOldArc, sameLabel,
          inductionHypothesis oldArc.target laterAccepted⟩
  · rintro ⟨target, isRun, isAccepting⟩
    exact ⟨newPlace target, renames.run isRun, (renames.isAccepting_iff target).mpr isAccepting⟩

theorem Renames.accepts_iff (renames : Renames newPlace states renamed) (word : List Nat) :
    Accepts renamed word ↔ Accepts states word := by
  have fromFirst := renames.acceptsFrom_iff 0 word
  rw [renames.first] at fromFirst
  exact fromFirst

theorem Renames.target_lt (renames : Renames newPlace states renamed)
    (inRange : ∀ state ∈ states, ∀ arc ∈ state.arcs, arc.target < states.length) :
    ∀ state ∈ renamed, ∀ arc ∈ state.arcs, arc.target < renamed.length := by
  intro state isState arc isArc
  obtain ⟨old, isOld, rfl⟩ := renames.exists_of_mem isState
  obtain ⟨oldArc, isOldArc, rfl⟩ := State.mem_arcs_rename.mp isArc
  exact renames.lt_length (inRange old isOld oldArc isOldArc)

theorem WellFormed.rename (wellFormed : WellFormed states)
    (renames : Renames newPlace states renamed) : WellFormed renamed := by
  refine ⟨?_, ?_, renames.target_lt wellFormed.inRange⟩
  · have nonempty := renames.lt_length wellFormed.nonempty
    rw [renames.first] at nonempty
    exact nonempty
  · intro state isState
    obtain ⟨old, isOld, rfl⟩ := renames.exists_of_mem isState
    exact List.pairwise_map.mpr (wellFormed.ascending old isOld)

/-! ## Merging twins -/

/-- Twins are equal states. -/
theorem getElem?_firstTwins? (found : firstTwins? states = some (kept, dropped)) :
    states[kept]? = states[dropped]? := by
  induction states generalizing kept dropped with
  | nil => simp [firstTwins?] at found
  | cons state later inductionHypothesis =>
      unfold firstTwins? at found
      split at found
      · rename_i place atPlace
        obtain ⟨inRange, isTwin, _⟩ := List.findIdx?_eq_some_iff_getElem.mp atPlace
        simp only [Option.some.injEq, Prod.mk.injEq] at found
        obtain ⟨rfl, rfl⟩ := found
        rw [List.getElem?_cons_zero, List.getElem?_cons_succ,
          List.getElem?_eq_getElem inRange, eq_of_beq isTwin]
      · obtain ⟨⟨laterKept, laterDropped⟩, laterFound, shifted⟩ :=
          Option.map_eq_some_iff.mp found
        simp only [Prod.mk.injEq] at shifted
        obtain ⟨rfl, rfl⟩ := shifted
        rw [List.getElem?_cons_succ, List.getElem?_cons_succ]
        exact inductionHypothesis laterFound

/-- Merging twins renames states: also the dropped state is found at its new place, since
its twin was kept. -/
theorem renames_merge (ordered : kept < dropped) (inRange : dropped < states.length)
    (twins : states[kept]? = states[dropped]?) :
    Renames (Arc.moved kept dropped) states (merge states kept dropped) := by
  constructor
  · rw [Arc.moved, if_neg (by omega), if_neg (by omega)]
  · intro place
    unfold merge Arc.moved
    simp only [List.getElem?_map, State.retarget_eq]
    congr 1
    by_cases isDropped : place = dropped
    · rw [if_pos isDropped, List.getElem?_eraseIdx_of_lt ordered, twins, isDropped]
    · rw [if_neg isDropped]
      by_cases behind : dropped < place
      · rw [if_pos behind, List.getElem?_eraseIdx_of_ge (by omega),
          Nat.sub_add_cancel (by omega)]
      · rw [if_neg behind, List.getElem?_eraseIdx_of_lt (by omega)]
  · intro place isPlace
    rw [merge, List.length_map, List.length_eraseIdx_of_lt inRange] at isPlace
    by_cases before : place < dropped
    · refine ⟨place, by omega, ?_⟩
      rw [Arc.moved, if_neg (by omega), if_neg (by omega)]
    · refine ⟨place + 1, by omega, ?_⟩
      rw [Arc.moved, if_neg (by omega), if_pos (by omega), Nat.add_sub_cancel]

/-- Merging all twins renames states. -/
theorem exists_renames_mergeTwins (states : List State) :
    ∃ newPlace, Renames newPlace states (mergeTwins states) := by
  fun_induction mergeTwins states with
  | case1 states noTwins => exact ⟨id, .refl states⟩
  | case2 states kept dropped found _ inductionHypothesis =>
      obtain ⟨ordered, inRange⟩ := firstTwins?_lt found
      obtain ⟨newPlace, renames⟩ := inductionHypothesis
      have oneRound := renames_merge ordered inRange (getElem?_firstTwins? found)
      exact ⟨newPlace ∘ Arc.moved kept dropped, oneRound.trans renames⟩

/-- Merging all twins keeps an automaton well formed and changes nothing about what it
accepts. -/
theorem mergeTwins_spec (states : List State) (wellFormed : WellFormed states) :
    WellFormed (mergeTwins states) ∧
      ∀ word, Accepts (mergeTwins states) word ↔ Accepts states word := by
  obtain ⟨newPlace, renames⟩ := exists_renames_mergeTwins states
  exact ⟨wellFormed.rename renames, renames.accepts_iff⟩

end Dfa

end RuleMachine
