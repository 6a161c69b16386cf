import RuleMachine.Proofs.SubsetConstruction

/-!
# Determinization under an assignment of labels

The edges of an automaton may read terms that stand for labels, several of them
perhaps for the same one.  After the terms are replaced by their labels, a path
spells the labels of the terms that it spelled before, so the deterministic
automaton accepts the images of the words through the fragment.

The search for sets of states ends by itself: there is no set left to expand after
as many rounds as there are sets of states, and a larger bound changes nothing.
-/

namespace RuleMachine.Nfa

/-! ## The search ends -/

section Search

variable {nfa : Nfa Nat} {roster : Roster NatSet} {accept current : Nat}

theorem expand_of_exhausted (exhausted : roster.size ≤ current) (count : Nat) :
    nfa.expand accept count roster current = [] := by
  have missing : roster.get? current = none := List.getElem?_eq_none exhausted
  cases count with
  | zero => rfl
  | succ count => simp only [expand, missing]

/-- A search that may expand every set of states is not cut short by its bound. -/
theorem Closed.expand_add (closed : nfa.Closed)
    (areClosures : ∀ item ∈ roster.items, nfa.IsClosure item)
    {count : Nat} (enough : Nat.pow 2 nfa.size ≤ current + count) (extra : Nat) :
    nfa.expand accept (count + extra) roster current =
      nfa.expand accept count roster current := by
  induction count generalizing roster current with
  | zero =>
      have bounded : roster.size ≤ Nat.pow 2 nfa.size :=
        closed.length_le roster.distinct areClosures
      have exhausted : roster.size ≤ current := by omega
      rw [expand_of_exhausted exhausted, expand_of_exhausted exhausted]
  | succ count inductionHypothesis =>
      cases found : roster.get? current with
      | none =>
          have exhausted : roster.size ≤ current := List.getElem?_eq_none_iff.mp found
          rw [expand_of_exhausted exhausted, expand_of_exhausted exhausted]
      | some set =>
          obtain ⟨_, grownClosures, _⟩ :=
            arcsOn_spec closed set (nfa.labelsFrom set).elements roster areClosures
          have enoughLater : Nat.pow 2 nfa.size ≤ current + 1 + count := by omega
          have later := inductionHypothesis grownClosures enoughLater
          rw [Nat.succ_add]
          simp only [expand, found, later]

/-- The one set that a search begins with. -/
def startSets (nfa : Nfa Nat) (fragment : Fragment) : Roster NatSet :=
  Roster.empty.enroll (nfa.closure [fragment.start])

theorem isClosure_of_mem_startSets (fragment : Fragment) (inRange : fragment.start < nfa.size) :
    ∀ item ∈ (nfa.startSets fragment).items, nfa.IsClosure item := by
  intro item member
  have isStart : item = nfa.closure [fragment.start] := by
    simpa [startSets, Roster.enroll, Roster.empty] using member
  exact ⟨[fragment.start], by simpa using inRange, isStart⟩

theorem Closed.expand_eq_subsets (closed : nfa.Closed) {fragment : Fragment}
    (inRange : fragment.start < nfa.size) {count : Nat}
    (enough : Nat.pow 2 nfa.size ≤ count) :
    nfa.expand fragment.accept count (nfa.startSets fragment) 0 = nfa.subsets fragment := by
  obtain ⟨extra, rfl⟩ := Nat.exists_eq_add_of_le enough
  have areClosures := isClosure_of_mem_startSets fragment inRange
  exact closed.expand_add areClosures (by omega) extra

end Search

/-! ## Terms that stand for labels -/

section Assignment

variable {Term : Type} {nfa : Nfa Term} {assign : Term → Nat} {source target : Nat}

/-- The automaton in which every edge reads the label that its term stands for. -/
def relabel (nfa : Nfa Term) (assign : Term → Nat) : Nfa Nat where
  size := nfa.size
  edges := nfa.edges.map fun edge => ⟨edge.source, edge.label.map assign, edge.target⟩

theorem Closed.relabel (closed : nfa.Closed) (assign : Term → Nat) :
    (nfa.relabel assign).Closed := by
  intro edge member
  obtain ⟨original, originalMember, rfl⟩ := List.mem_map.mp member
  exact closed original originalMember

theorem Path.relabel {spelled : List Term} (path : Path nfa.edges source spelled target) :
    Path (nfa.relabel assign).edges source (spelled.map assign) target := by
  induction path with
  | refl state => exact .refl state
  | epsilon edge _ inductionHypothesis =>
      exact .epsilon (List.mem_map.mpr ⟨_, edge, rfl⟩) inductionHypothesis
  | read edge _ inductionHypothesis =>
      exact .read (List.mem_map.mpr ⟨_, edge, rfl⟩) inductionHypothesis

theorem exists_path_of_relabel {word : List Nat}
    (path : Path (nfa.relabel assign).edges source word target) :
    ∃ spelled, Path nfa.edges source spelled target ∧ spelled.map assign = word := by
  induction path with
  | refl state => exact ⟨[], .refl state, rfl⟩
  | epsilon edge _ inductionHypothesis =>
      obtain ⟨spelled, rest, rfl⟩ := inductionHypothesis
      obtain ⟨⟨source, label, target⟩, member, same⟩ := List.mem_map.mp edge
      simp only [Edge.mk.injEq, Option.map_eq_none_iff] at same
      obtain ⟨rfl, rfl, rfl⟩ := same
      exact ⟨spelled, .epsilon member rest, rfl⟩
  | read edge _ inductionHypothesis =>
      obtain ⟨spelled, rest, rfl⟩ := inductionHypothesis
      obtain ⟨⟨source, label, target⟩, member, same⟩ := List.mem_map.mp edge
      simp only [Edge.mk.injEq, Option.map_eq_some_iff] at same
      obtain ⟨rfl, ⟨term, rfl, rfl⟩, rfl⟩ := same
      exact ⟨term :: spelled, .read member rest, rfl⟩

theorem path_relabel_iff {word : List Nat} :
    Path (nfa.relabel assign).edges source word target ↔
      ∃ spelled, Path nfa.edges source spelled target ∧ spelled.map assign = word := by
  constructor
  · exact exists_path_of_relabel
  · rintro ⟨spelled, path, rfl⟩
    exact path.relabel

/-- Determinizing ends, whatever the labels of the terms are, and it gives a well-formed
deterministic automaton that accepts exactly the label sequences of the paths through the
fragment. -/
theorem determinize_relabel_accepts_iff (closed : nfa.Closed) (assign : Term → Nat)
    (fragment : Fragment) (inRange : fragment.start < nfa.size) :
    (∀ count, Nat.pow 2 nfa.size ≤ count →
      (nfa.relabel assign).expand fragment.accept count
        ((nfa.relabel assign).startSets fragment) 0 = (nfa.relabel assign).subsets fragment) ∧
      Dfa.WellFormed ((nfa.relabel assign).determinize fragment) ∧
      ∀ word, Dfa.Accepts ((nfa.relabel assign).determinize fragment) word ↔
        ∃ spelled, Path nfa.edges fragment.start spelled fragment.accept ∧
          spelled.map assign = word := by
  have relabeled := closed.relabel assign
  have inRangeRelabeled : fragment.start < (nfa.relabel assign).size := inRange
  obtain ⟨wellFormed, accepts⟩ := determinize_spec relabeled inRangeRelabeled
  refine ⟨fun count enough => relabeled.expand_eq_subsets inRange enough, wellFormed, ?_⟩
  intro word
  rw [accepts, path_relabel_iff]

/-- Two states on a circle that reads nothing, and two terms that lead out of it. -/
def circleNfa : Nfa Bool where
  size := 4
  edges := [⟨0, none, 1⟩, ⟨1, none, 0⟩, ⟨0, some true, 2⟩, ⟨1, some false, 3⟩, ⟨2, none, 1⟩]

/-- Both terms stand for one label; after two of them the automaton may end. -/
theorem determinize_relabel_accepts_iff_circleNfa :
    circleNfa.Closed ∧
      Dfa.Accepts ((circleNfa.relabel fun _ => 7).determinize ⟨0, 3⟩) [7, 7] ∧
      ¬Dfa.Accepts ((circleNfa.relabel fun _ => 7).determinize ⟨0, 3⟩) [] := by
  have closed : circleNfa.Closed := by
    unfold Closed
    decide
  obtain ⟨_, _, accepts⟩ :=
    determinize_relabel_accepts_iff closed (fun _ => 7) ⟨0, 3⟩ (by decide)
  refine ⟨closed, (accepts [7, 7]).mpr ⟨[true, false], ?_, rfl⟩, ?_⟩
  · have readsFalse : Path circleNfa.edges 1 [false] 3 := .read (by decide) (.refl 3)
    have returns : Path circleNfa.edges 2 [false] 3 := .epsilon (by decide) readsFalse
    exact .read (by decide) returns
  · intro accepted
    obtain ⟨spelled, path, isEmpty⟩ := (accepts []).mp accepted
    rw [List.map_eq_nil_iff] at isEmpty
    subst isEmpty
    have silent : 3 ∈ circleNfa.closure [0] :=
      mem_closure.mpr ⟨0, List.mem_singleton_self 0, path⟩
    have outside : 3 ∉ circleNfa.closure [0] := by decide +kernel
    exact outside silent

end Assignment

end RuleMachine.Nfa
