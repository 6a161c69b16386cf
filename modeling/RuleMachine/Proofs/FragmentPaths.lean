import RuleMachine.Automaton.Nfa
import RuleMachine.Proofs.EndPaths

/-!
# Paths through fragments

A path follows the edges of a nondeterministic automaton and spells the labels
that it reads.  Adding one edge that reads nothing changes the words between two
states in one way: a path may now go to the source of the edge, take it, and do
so again as often as it comes back.

From this the words between the ends of the fragment of an expression follow by
induction on the expression: they are its `endPaths`.  Fragments do not disturb
each other because each has a range of states of its own.
-/

namespace RuleMachine

open scoped Computability

variable {Label : Type}

namespace Nfa

/-- A path along the edges of an automaton, with the word that it spells. -/
inductive Path (edges : List (Edge Label)) : Nat → List Label → Nat → Prop
  | refl (state : Nat) : Path edges state [] state
  | epsilon {source middle target : Nat} {word : List Label} :
      ⟨source, none, middle⟩ ∈ edges → Path edges middle word target →
      Path edges source word target
  | read {source middle target : Nat} {label : Label} {word : List Label} :
      ⟨source, some label, middle⟩ ∈ edges → Path edges middle word target →
      Path edges source (label :: word) target

namespace Path

variable {edges wider : List (Edge Label)} {source middle target : Nat}
  {word later : List Label}

theorem trans (first : Path edges source word middle) (second : Path edges middle later target) :
    Path edges source (word ++ later) target := by
  induction first with
  | refl state => exact second
  | epsilon edge _ inductionHypothesis => exact .epsilon edge (inductionHypothesis second)
  | read edge _ inductionHypothesis => exact .read edge (inductionHypothesis second)

theorem mono (path : Path edges source word target) (contained : edges ⊆ wider) :
    Path wider source word target := by
  induction path with
  | refl state => exact .refl state
  | epsilon edge _ inductionHypothesis => exact .epsilon (contained edge) inductionHypothesis
  | read edge _ inductionHypothesis => exact .read (contained edge) inductionHypothesis

/-- A path that begins in a closed set of states stays in it and uses only the edges that
leave its states. -/
theorem of_closed {inner : List (Edge Label)} (inside : Nat → Prop)
    (closed : ∀ edge ∈ edges, inside edge.source → edge ∈ inner ∧ inside edge.target)
    (path : Path edges source word target) (begins : inside source) :
    Path inner source word target ∧ inside target := by
  induction path with
  | refl state => exact ⟨.refl state, begins⟩
  | epsilon edge _ inductionHypothesis =>
      obtain ⟨kept, targetInside⟩ := closed _ edge begins
      obtain ⟨rest, ends⟩ := inductionHypothesis targetInside
      exact ⟨.epsilon kept rest, ends⟩
  | read edge _ inductionHypothesis =>
      obtain ⟨kept, targetInside⟩ := closed _ edge begins
      obtain ⟨rest, ends⟩ := inductionHypothesis targetInside
      exact ⟨.read kept rest, ends⟩

end Path

/-! ## Words between two states -/

/-- The words that are spelled by the paths from one state to another. -/
def between (edges : List (Edge Label)) (source target : Nat) : Language Label :=
  {word | Path edges source word target}

section Between

variable {edges wider : List (Edge Label)} {source middle target : Nat}

theorem mem_between {word : List Label} :
    word ∈ between edges source target ↔ Path edges source word target :=
  Iff.rfl

theorem one_le_between (edges : List (Edge Label)) (state : Nat) :
    1 ≤ between edges state state := by
  rintro word rfl
  exact Path.refl state

theorem between_mul_between_le :
    between edges source middle * between edges middle target ≤
      between edges source target := by
  rintro word ⟨first, firstPath, second, secondPath, rfl⟩
  exact firstPath.trans secondPath

theorem between_mono (contained : edges ⊆ wider) :
    between edges source target ≤ between wider source target :=
  fun _ path => path.mono contained

theorem between_le_of_epsilon (target : Nat) (edge : ⟨source, none, middle⟩ ∈ edges) :
    between edges middle target ≤ between edges source target :=
  fun _ path => .epsilon edge path

theorem singleton_mul_between_le {label : Label} (target : Nat)
    (edge : ⟨source, some label, middle⟩ ∈ edges) :
    {[label]} * between edges middle target ≤ between edges source target := by
  rintro word ⟨_, rfl, later, path, rfl⟩
  exact .read edge path

/-- A path that may take the edge from `tail` to `head` splits where it takes it. -/
private theorem mem_of_path_cons_epsilon {tail head : Nat} {word : List Label}
    (path : Path (⟨tail, none, head⟩ :: edges) source word target) :
    word ∈ between edges source target +
      between edges source tail * (between edges head tail)∗ * between edges head target := by
  induction path with
  | refl state => exact .inl (Path.refl state)
  | @epsilon source middle target word edge _ inductionHypothesis =>
      rcases List.mem_cons.mp edge with isNew | isOld
      · -- The new edge itself: what follows it may take it again.
        injection isNew with sourceEq _ middleEq
        subst sourceEq middleEq
        have unfolded :
            between edges middle target +
                between edges middle source * (between edges middle source)∗ *
                  between edges middle target =
              (between edges middle source)∗ * between edges middle target := by
          rw [← one_add_mul_kstar, add_mul, one_mul, one_add_mul_kstar]
        rw [unfolded] at inductionHypothesis
        have extended := mul_le_mul' (one_le_between edges source)
          (le_refl ((between edges middle source)∗ * between edges middle target))
        rw [one_mul, ← mul_assoc] at extended
        exact .inr (extended inductionHypothesis)
      · have direct := between_le_of_epsilon target isOld
        have detour := between_le_of_epsilon tail isOld
        exact add_le_add direct (mul_le_mul' (mul_le_mul' detour le_rfl) le_rfl)
          inductionHypothesis
  | @read source middle target label word edge _ inductionHypothesis =>
      have isOld : ⟨source, some label, middle⟩ ∈ edges := by
        simpa using edge
      have direct := singleton_mul_between_le target isOld
      have detour := singleton_mul_between_le tail isOld
      have extended := add_le_add direct
        (mul_le_mul' (mul_le_mul' detour (le_refl (between edges head tail)∗))
          (le_refl (between edges head target)))
      rw [mul_assoc, mul_assoc, ← mul_add, ← mul_assoc] at extended
      exact extended ⟨[label], rfl, word, inductionHypothesis, rfl⟩

/-- The words between two states after an edge from `tail` to `head` was added that reads
nothing: those from before, and those of the paths that take the edge once or several
times. -/
theorem between_cons_epsilon (edges : List (Edge Label)) (tail head source target : Nat) :
    between (⟨tail, none, head⟩ :: edges) source target =
      between edges source target +
        between edges source tail * (between edges head tail)∗ * between edges head target := by
  have old : edges ⊆ ⟨tail, none, head⟩ :: edges := List.subset_cons_self _ _
  have taken : (⟨tail, none, head⟩ : Edge Label) ∈ ⟨tail, none, head⟩ :: edges :=
    List.mem_cons_self
  apply le_antisymm
  · exact fun word path => mem_of_path_cons_epsilon path
  · have repeated :
        (between edges head tail)∗ * between edges head target ≤
          between (⟨tail, none, head⟩ :: edges) head target := by
      refine kstar_mul_le (between_mono old) ?_
      calc between edges head tail * between (⟨tail, none, head⟩ :: edges) head target
          ≤ between (⟨tail, none, head⟩ :: edges) head tail *
              between (⟨tail, none, head⟩ :: edges) tail target :=
            mul_le_mul' (between_mono old) (between_le_of_epsilon target taken)
        _ ≤ between (⟨tail, none, head⟩ :: edges) head target := between_mul_between_le
    refine add_le (between_mono old) ?_
    rw [mul_assoc]
    calc between edges source tail *
          ((between edges head tail)∗ * between edges head target)
        ≤ between (⟨tail, none, head⟩ :: edges) source tail *
            between (⟨tail, none, head⟩ :: edges) tail target :=
          mul_le_mul' (between_mono old) (repeated.trans (between_le_of_epsilon target taken))
      _ ≤ between (⟨tail, none, head⟩ :: edges) source target := between_mul_between_le

end Between

/-! ## Ranges of states -/

/-- All edges lead from a range of states into the same range. -/
def Within (range : Set Nat) (edges : List (Edge Label)) : Prop :=
  ∀ edge ∈ edges, edge.source ∈ range ∧ edge.target ∈ range

section Within

variable {edges upper lower : List (Edge Label)} {range upperRange lowerRange : Set Nat}
  {source target : Nat}

theorem Within.mono (within : Within lowerRange edges) (contained : lowerRange ⊆ range) :
    Within range edges :=
  fun edge member => ⟨contained (within edge member).1, contained (within edge member).2⟩

theorem Within.append (upperWithin : Within range upper) (lowerWithin : Within range lower) :
    Within range (upper ++ lower) := by
  intro edge member
  rcases List.mem_append.mp member with inUpper | inLower
  · exact upperWithin edge inUpper
  · exact lowerWithin edge inLower

theorem Within.cons {edge : Edge Label} (within : Within range edges)
    (sourceMember : edge.source ∈ range) (targetMember : edge.target ∈ range) :
    Within range (edge :: edges) := by
  intro tested member
  rcases List.mem_cons.mp member with rfl | inEdges
  · exact ⟨sourceMember, targetMember⟩
  · exact within tested inEdges

/-- No path leads out of a range. -/
theorem between_eq_zero (within : Within range edges)
    (begins : source ∈ range) (ends : target ∉ range) :
    between edges source target = 0 := by
  ext word
  refine iff_of_false (fun path => ends ?_) (Language.notMem_zero word)
  exact (path.of_closed (· ∈ range) (fun edge member _ => ⟨member, (within edge member).2⟩)
    begins).2

/-- From a state that no edge leaves only the empty path leads anywhere. -/
theorem eq_of_path_of_isolated {word : List Label}
    (isolated : ∀ edge ∈ edges, edge.source ≠ source) (path : Path edges source word target) :
    word = [] ∧ target = source := by
  cases path with
  | refl => exact ⟨rfl, rfl⟩
  | epsilon edge _ => exact absurd rfl (isolated _ edge)
  | read edge _ => exact absurd rfl (isolated _ edge)

theorem between_self_of_isolated (isolated : ∀ edge ∈ edges, edge.source ≠ source) :
    between edges source source = 1 := by
  apply le_antisymm
  · exact fun word path => (eq_of_path_of_isolated isolated path).1
  · exact one_le_between edges source

theorem between_eq_zero_of_isolated (isolated : ∀ edge ∈ edges, edge.source ≠ source)
    (differs : target ≠ source) : between edges source target = 0 := by
  ext word
  exact iff_of_false (fun path => differs (eq_of_path_of_isolated isolated path).2)
    (Language.notMem_zero word)

/-- Only the edges that leave the states of a closed set matter to a path that begins in
it. -/
theorem between_eq_of_closed {inner : List (Edge Label)} (inside : Nat → Prop)
    (contained : inner ⊆ edges)
    (closed : ∀ edge ∈ edges, inside edge.source → edge ∈ inner ∧ inside edge.target)
    (begins : inside source) :
    between edges source target = between inner source target := by
  apply le_antisymm
  · exact fun word path => (path.of_closed inside closed begins).1
  · exact between_mono contained

theorem between_append_of_mem_lower
    (upperWithin : Within upperRange upper) (lowerWithin : Within lowerRange lower)
    (apart : Disjoint upperRange lowerRange) (begins : source ∈ lowerRange) :
    between (upper ++ lower) source target = between lower source target := by
  refine between_eq_of_closed (· ∈ lowerRange) (List.subset_append_right upper lower) ?_ begins
  intro edge member sourceMember
  rcases List.mem_append.mp member with inUpper | inLower
  · exact absurd sourceMember (Set.disjoint_left.mp apart (upperWithin edge inUpper).1)
  · exact ⟨inLower, (lowerWithin edge inLower).2⟩

theorem between_append_of_mem_upper
    (upperWithin : Within upperRange upper) (lowerWithin : Within lowerRange lower)
    (apart : Disjoint upperRange lowerRange) (begins : source ∈ upperRange) :
    between (upper ++ lower) source target = between upper source target := by
  refine between_eq_of_closed (· ∈ upperRange) (List.subset_append_left upper lower) ?_ begins
  intro edge member sourceMember
  rcases List.mem_append.mp member with inUpper | inLower
  · exact ⟨inUpper, (upperWithin edge inUpper).2⟩
  · exact absurd (lowerWithin edge inLower).1 (Set.disjoint_left.mp apart sourceMember)

end Within

end Nfa

/-! ## The ends of a fragment -/

namespace Fragment

/-- The words between the ends of a fragment. -/
def paths (fragment : Fragment) (edges : List (Edge Label)) : EndPaths Label where
  across := Nfa.between edges fragment.start fragment.accept
  atStart := Nfa.between edges fragment.start fragment.start
  atAccept := Nfa.between edges fragment.accept fragment.accept
  back := Nfa.between edges fragment.accept fragment.start

theorem paths_bypass (fragment : Fragment) (edges : List (Edge Label)) :
    fragment.paths (⟨fragment.start, none, fragment.accept⟩ :: edges) =
      (fragment.paths edges).bypass := by
  simp only [paths, EndPaths.bypass, Nfa.between_cons_epsilon]

theorem paths_loop (fragment : Fragment) (edges : List (Edge Label)) :
    fragment.paths (⟨fragment.accept, none, fragment.start⟩ :: edges) =
      (fragment.paths edges).loop := by
  simp only [paths, EndPaths.loop, Nfa.between_cons_epsilon]

end Fragment

namespace Nfa

/-- The word of a single label. -/
def letter (label : Label) : Language Label :=
  {[label]}

/-- An automaton was grown by a fragment on states of its own, with the given edges and
the given words between its ends. -/
structure Grown (nfa grown : Nfa Label) (fragment : Fragment) (added : List (Edge Label))
    (paths : EndPaths Label) : Prop where
  edges_eq : grown.edges = added ++ nfa.edges
  size_le : nfa.size ≤ grown.size
  within : Within (Set.Ico nfa.size grown.size) added
  start_mem : fragment.start ∈ Set.Ico nfa.size grown.size
  accept_mem : fragment.accept ∈ Set.Ico nfa.size grown.size
  paths_eq : fragment.paths added = paths

section Grown

variable {nfa middle grown : Nfa Label} {fragment left right : Fragment}
  {added leftAdded rightAdded : List (Edge Label)} {paths leftPaths rightPaths : EndPaths Label}

theorem paths_singleton (fragment : Fragment) (label : Label)
    (differs : fragment.accept ≠ fragment.start) :
    fragment.paths [⟨fragment.start, some label, fragment.accept⟩] =
      { across := letter label, atStart := 1, atAccept := 1, back := 0 } := by
  obtain ⟨start, accept⟩ := fragment
  have isolated : ∀ edge ∈ [(⟨start, some label, accept⟩ : Edge Label)],
      edge.source ≠ accept := by
    simpa using differs.symm
  -- From the start there is the empty path, and the edge with an empty path behind it.
  have fromStart : ∀ word goal, Path [⟨start, some label, accept⟩] start word goal ↔
      (word = [] ∧ goal = start) ∨ (word = [label] ∧ goal = accept) := by
    intro word goal
    constructor
    · intro path
      cases path with
      | refl => exact .inl ⟨rfl, rfl⟩
      | epsilon edge _ => simp at edge
      | read edge rest =>
          simp only [List.mem_singleton, Edge.mk.injEq, Option.some.injEq, true_and] at edge
          obtain ⟨rfl, rfl⟩ := edge
          obtain ⟨rfl, rfl⟩ := eq_of_path_of_isolated isolated rest
          exact .inr ⟨rfl, rfl⟩
    · rintro (⟨rfl, rfl⟩ | ⟨rfl, rfl⟩)
      · exact .refl _
      · exact .read (List.mem_singleton.mpr rfl) (.refl _)
  have across : between [⟨start, some label, accept⟩] start accept = letter label := by
    ext word
    rw [mem_between, fromStart]
    exact ⟨fun cases => (cases.resolve_left fun empty => differs empty.2).1,
      fun isLetter => .inr ⟨isLetter, rfl⟩⟩
  have atStart : between [⟨start, some label, accept⟩] start start = 1 := by
    ext word
    rw [mem_between, fromStart]
    exact ⟨fun cases => (cases.resolve_right fun taken => differs taken.2.symm).1,
      fun isEmpty => .inl ⟨isEmpty, rfl⟩⟩
  rw [Fragment.paths, across, atStart, between_self_of_isolated isolated,
    between_eq_zero_of_isolated isolated differs.symm]

theorem grown_addTerm (nfa : Nfa Label) (label : Label) :
    Grown nfa (nfa.addTerm label).1 (nfa.addTerm label).2
      [⟨nfa.size, some label, nfa.size + 1⟩]
      { across := letter label, atStart := 1, atAccept := 1, back := 0 } where
  edges_eq := rfl
  size_le := Nat.le_add_right nfa.size 2
  within := by
    intro edge member
    rw [List.mem_singleton] at member
    subst member
    simp [addTerm]
  start_mem := by simp [addTerm]
  accept_mem := by simp [addTerm]
  paths_eq := paths_singleton (nfa.addTerm label).2 label (Nat.succ_ne_self nfa.size)

theorem Grown.addBypass (body : Grown nfa grown fragment added paths) :
    Grown nfa (grown.addEpsilon fragment.start fragment.accept) fragment
      (⟨fragment.start, none, fragment.accept⟩ :: added) paths.bypass where
  edges_eq := congrArg (List.cons _) body.edges_eq
  size_le := body.size_le
  within := body.within.cons body.start_mem body.accept_mem
  start_mem := body.start_mem
  accept_mem := body.accept_mem
  paths_eq := by rw [Fragment.paths_bypass, body.paths_eq]

theorem Grown.addLoop (body : Grown nfa grown fragment added paths) :
    Grown nfa (grown.addEpsilon fragment.accept fragment.start) fragment
      (⟨fragment.accept, none, fragment.start⟩ :: added) paths.loop where
  edges_eq := congrArg (List.cons _) body.edges_eq
  size_le := body.size_le
  within := body.within.cons body.accept_mem body.start_mem
  start_mem := body.start_mem
  accept_mem := body.accept_mem
  paths_eq := by rw [Fragment.paths_loop, body.paths_eq]

/-- The words between the ends of two fragments that stand side by side. -/
structure SideBySide (edges : List (Edge Label)) (left right : Fragment)
    (leftPaths rightPaths : EndPaths Label) : Prop where
  left_eq : left.paths edges = leftPaths
  right_eq : right.paths edges = rightPaths
  apart : ∀ source ∈ [left.start, left.accept], ∀ target ∈ [right.start, right.accept],
    between edges source target = 0 ∧ between edges target source = 0

theorem Grown.sideBySide (leftGrown : Grown nfa middle left leftAdded leftPaths)
    (rightGrown : Grown middle grown right rightAdded rightPaths) :
    SideBySide (rightAdded ++ leftAdded) left right leftPaths rightPaths := by
  have disjoint :
      Disjoint (Set.Ico middle.size grown.size) (Set.Ico nfa.size middle.size) :=
    Set.disjoint_left.mpr fun state inRight inLeft => Nat.not_lt.mpr inRight.1 inLeft.2
  have fromLeft : ∀ source ∈ Set.Ico nfa.size middle.size, ∀ target,
      between (rightAdded ++ leftAdded) source target = between leftAdded source target :=
    fun source begins target =>
      between_append_of_mem_lower rightGrown.within leftGrown.within disjoint begins
  have fromRight : ∀ source ∈ Set.Ico middle.size grown.size, ∀ target,
      between (rightAdded ++ leftAdded) source target = between rightAdded source target :=
    fun source begins target =>
      between_append_of_mem_upper rightGrown.within leftGrown.within disjoint begins
  have leftRange : ∀ state ∈ [left.start, left.accept],
      state ∈ Set.Ico nfa.size middle.size := by
    simpa using ⟨leftGrown.start_mem, leftGrown.accept_mem⟩
  have rightRange : ∀ state ∈ [right.start, right.accept],
      state ∈ Set.Ico middle.size grown.size := by
    simpa using ⟨rightGrown.start_mem, rightGrown.accept_mem⟩
  constructor
  · rw [← leftGrown.paths_eq]
    simp only [Fragment.paths, fromLeft _ leftGrown.start_mem, fromLeft _ leftGrown.accept_mem]
  · rw [← rightGrown.paths_eq]
    simp only [Fragment.paths, fromRight _ rightGrown.start_mem,
      fromRight _ rightGrown.accept_mem]
  · intro source sourceMember target targetMember
    have inLeft := leftRange source sourceMember
    have inRight := rightRange target targetMember
    rw [fromLeft source inLeft, fromRight target inRight]
    exact ⟨between_eq_zero leftGrown.within inLeft (Set.disjoint_left.mp disjoint inRight),
      between_eq_zero rightGrown.within inRight (Set.disjoint_right.mp disjoint inLeft)⟩

/-- One fragment behind another. -/
theorem SideBySide.paths_seq {edges : List (Edge Label)}
    (both : SideBySide edges left right leftPaths rightPaths) :
    (Fragment.mk left.start right.accept).paths
        (⟨left.accept, none, right.start⟩ :: edges) =
      { across := leftPaths.across * rightPaths.across
        atStart := leftPaths.atStart
        atAccept := rightPaths.atAccept
        back := 0 } := by
  obtain ⟨rfl, rfl, apart⟩ := both
  have startApart := apart left.start (by simp)
  have acceptApart := apart left.accept (by simp)
  have noReturn := (acceptApart right.start (by simp)).2
  simp only [Fragment.paths, between_cons_epsilon, noReturn,
    (startApart right.start (by simp)).2, (startApart right.accept (by simp)).1,
    (startApart right.accept (by simp)).2, (acceptApart right.accept (by simp)).2,
    kstar_zero, mul_one, mul_zero, zero_mul, add_zero, zero_add]

theorem Grown.addSeq (leftGrown : Grown nfa middle left leftAdded leftPaths)
    (rightGrown : Grown middle grown right rightAdded rightPaths) :
    Grown nfa (grown.addEpsilon left.accept right.start) ⟨left.start, right.accept⟩
      (⟨left.accept, none, right.start⟩ :: (rightAdded ++ leftAdded))
      { across := leftPaths.across * rightPaths.across
        atStart := leftPaths.atStart
        atAccept := rightPaths.atAccept
        back := 0 } := by
  have lowerPart : Set.Ico nfa.size middle.size ⊆ Set.Ico nfa.size grown.size :=
    Set.Ico_subset_Ico_right rightGrown.size_le
  have upperPart : Set.Ico middle.size grown.size ⊆ Set.Ico nfa.size grown.size :=
    Set.Ico_subset_Ico_left leftGrown.size_le
  refine
    { edges_eq := ?_
      size_le := leftGrown.size_le.trans rightGrown.size_le
      within := ?_
      start_mem := lowerPart leftGrown.start_mem
      accept_mem := upperPart rightGrown.accept_mem
      paths_eq := (leftGrown.sideBySide rightGrown).paths_seq }
  · rw [addEpsilon, rightGrown.edges_eq, leftGrown.edges_eq, List.cons_append,
      List.append_assoc]
  · exact ((rightGrown.within.mono upperPart).append (leftGrown.within.mono lowerPart)).cons
      (lowerPart leftGrown.accept_mem) (upperPart rightGrown.start_mem)

/-- Two fragments between a start and an accepting state of their own. -/
theorem SideBySide.paths_choice {edges : List (Edge Label)} {range : Set Nat}
    {start accept : Nat}
    (both : SideBySide edges left right leftPaths rightPaths) (within : Within range edges)
    (inRange : ∀ state ∈ [left.start, left.accept, right.start, right.accept], state ∈ range)
    (startOutside : start ∉ range) (acceptOutside : accept ∉ range)
    (differs : accept ≠ start) :
    (Fragment.mk start accept).paths
        (⟨right.accept, none, accept⟩ :: ⟨start, none, right.start⟩ ::
          ⟨left.accept, none, accept⟩ :: ⟨start, none, left.start⟩ :: edges) =
      { across := leftPaths.across + rightPaths.across
        atStart := 1
        atAccept := 1
        back := 0 } := by
  obtain ⟨rfl, rfl, apart⟩ := both
  have startIsolated : ∀ edge ∈ edges, edge.source ≠ start :=
    fun edge member isStart => startOutside (isStart ▸ (within edge member).1)
  have acceptIsolated : ∀ edge ∈ edges, edge.source ≠ accept :=
    fun edge member isAccept => acceptOutside (isAccept ▸ (within edge member).1)
  have atStart := between_self_of_isolated startIsolated
  have atAccept := between_self_of_isolated acceptIsolated
  have toAccept := between_eq_zero_of_isolated startIsolated differs
  have toStart := between_eq_zero_of_isolated acceptIsolated differs.symm
  have fromStart : ∀ state ∈ [left.start, left.accept, right.start, right.accept],
      between edges start state = 0 := fun state member =>
    between_eq_zero_of_isolated startIsolated fun isStart =>
      startOutside (isStart ▸ inRange state member)
  have fromAccept : ∀ state ∈ [left.start, left.accept, right.start, right.accept],
      between edges accept state = 0 := fun state member =>
    between_eq_zero_of_isolated acceptIsolated fun isAccept =>
      acceptOutside (isAccept ▸ inRange state member)
  have leaveToStart : ∀ state ∈ [left.start, left.accept, right.start, right.accept],
      between edges state start = 0 := fun state member =>
    between_eq_zero within (inRange state member) startOutside
  have leaveToAccept : ∀ state ∈ [left.start, left.accept, right.start, right.accept],
      between edges state accept = 0 := fun state member =>
    between_eq_zero within (inRange state member) acceptOutside
  simp only [List.mem_cons, List.not_mem_nil, or_false, forall_eq_or_imp, forall_eq]
    at fromStart fromAccept leaveToStart leaveToAccept apart
  simp only [Fragment.paths, between_cons_epsilon, atStart, atAccept, toAccept, toStart,
    fromStart, fromAccept, leaveToStart, leaveToAccept, apart,
    kstar_zero, mul_one, one_mul, mul_zero, zero_mul, add_zero, zero_add]

theorem Grown.addChoice (leftGrown : Grown nfa middle left leftAdded leftPaths)
    (rightGrown : Grown middle grown right rightAdded rightPaths) :
    Grown nfa (grown.addChoice left right).1 (grown.addChoice left right).2
      (⟨right.accept, none, grown.size + 1⟩ :: ⟨grown.size, none, right.start⟩ ::
        ⟨left.accept, none, grown.size + 1⟩ :: ⟨grown.size, none, left.start⟩ ::
          (rightAdded ++ leftAdded))
      { across := leftPaths.across + rightPaths.across
        atStart := 1
        atAccept := 1
        back := 0 } := by
  have sizes := leftGrown.size_le.trans rightGrown.size_le
  have lowerPart : Set.Ico nfa.size middle.size ⊆ Set.Ico nfa.size grown.size :=
    Set.Ico_subset_Ico_right rightGrown.size_le
  have upperPart : Set.Ico middle.size grown.size ⊆ Set.Ico nfa.size grown.size :=
    Set.Ico_subset_Ico_left leftGrown.size_le
  have inRange : ∀ state ∈ [left.start, left.accept, right.start, right.accept],
      state ∈ Set.Ico nfa.size grown.size := by
    simpa using ⟨lowerPart leftGrown.start_mem, lowerPart leftGrown.accept_mem,
      upperPart rightGrown.start_mem, upperPart rightGrown.accept_mem⟩
  have within : Within (Set.Ico nfa.size grown.size) (rightAdded ++ leftAdded) :=
    (rightGrown.within.mono upperPart).append (leftGrown.within.mono lowerPart)
  have grownPart : Set.Ico nfa.size grown.size ⊆ Set.Ico nfa.size (grown.size + 2) :=
    Set.Ico_subset_Ico_right (Nat.le_add_right _ 2)
  have start_mem : grown.size ∈ Set.Ico nfa.size (grown.size + 2) :=
    ⟨sizes, Nat.lt_add_of_pos_right Nat.two_pos⟩
  have accept_mem : grown.size + 1 ∈ Set.Ico nfa.size (grown.size + 2) :=
    ⟨Nat.le_succ_of_le sizes, Nat.lt_succ_self _⟩
  have inGrown := fun state member => grownPart (inRange state member)
  refine
    { edges_eq := ?_
      size_le := sizes.trans (Nat.le_add_right _ 2)
      within := ?_
      start_mem := start_mem
      accept_mem := accept_mem
      paths_eq := ?_ }
  · rw [Nfa.addChoice, addEpsilon, addEpsilon, addEpsilon, addEpsilon, rightGrown.edges_eq,
      leftGrown.edges_eq]
    simp only [List.cons_append, List.append_assoc]
  · exact ((((within.mono grownPart).cons start_mem (inGrown left.start (by simp))).cons
      (inGrown left.accept (by simp)) accept_mem).cons start_mem
        (inGrown right.start (by simp))).cons (inGrown right.accept (by simp)) accept_mem
  · exact (leftGrown.sideBySide rightGrown).paths_choice within inRange
      (fun member => Nat.lt_irrefl _ member.2)
      (fun member => Nat.not_succ_lt_self member.2) (Nat.succ_ne_self _)

/-- The fragment of an expression stands on states of its own, and the words between its
ends are those of the expression. -/
theorem exists_grown_addExpr (nfa : Nfa Label) (expression : Expr Label) :
    ∃ added, Grown nfa (nfa.addExpr expression).1 (nfa.addExpr expression).2 added
      (expression.endPaths letter) := by
  induction expression generalizing nfa with
  | term label => exact ⟨_, grown_addTerm nfa label⟩
  | seq left right leftHypothesis rightHypothesis =>
      obtain ⟨leftAdded, leftGrown⟩ := leftHypothesis nfa
      obtain ⟨rightAdded, rightGrown⟩ := rightHypothesis (nfa.addExpr left).1
      exact ⟨_, leftGrown.addSeq rightGrown⟩
  | alt left right leftHypothesis rightHypothesis =>
      obtain ⟨leftAdded, leftGrown⟩ := leftHypothesis nfa
      obtain ⟨rightAdded, rightGrown⟩ := rightHypothesis (nfa.addExpr left).1
      exact ⟨_, leftGrown.addChoice rightGrown⟩
  | opt body inductionHypothesis =>
      obtain ⟨added, bodyGrown⟩ := inductionHypothesis nfa
      exact ⟨_, bodyGrown.addBypass⟩
  | plus body inductionHypothesis =>
      obtain ⟨added, bodyGrown⟩ := inductionHypothesis nfa
      exact ⟨_, bodyGrown.addLoop⟩
  | star body inductionHypothesis =>
      obtain ⟨added, bodyGrown⟩ := inductionHypothesis nfa
      exact ⟨_, bodyGrown.addLoop.addBypass⟩

end Grown

/-! ## Whole automata -/

/-- Every edge leads to a state of the automaton. -/
def Closed (nfa : Nfa Label) : Prop :=
  ∀ edge ∈ nfa.edges, edge.target < nfa.size

/-- The automaton of an expression is closed, begins at one of its states, and accepts
the words across the fragment of the expression. -/
theorem ofExpr_spec (expression : Expr Label) :
    (ofExpr expression).1.Closed ∧
      (ofExpr expression).2.start < (ofExpr expression).1.size ∧
      between (ofExpr expression).1.edges (ofExpr expression).2.start
          (ofExpr expression).2.accept =
        (expression.endPaths letter).across := by
  obtain ⟨added, grown⟩ := exists_grown_addExpr empty expression
  have edges_eq : (ofExpr expression).1.edges = added := by
    rw [ofExpr, grown.edges_eq, empty, List.append_nil]
  refine ⟨?_, grown.start_mem.2, ?_⟩
  · intro edge member
    rw [edges_eq] at member
    exact (grown.within edge member).2.2
  · rw [edges_eq, ← grown.paths_eq]
    rfl

end Nfa

end RuleMachine
