/-!
# Deterministic automata

The states of a deterministic automaton stand in a list and the first one is its
start.  States that accept alike and have the same arcs are twins: nothing that
is read from them can tell them apart, so they are merged until none are left.
-/

namespace RuleMachine

/-- A transition to another state. -/
structure Arc where
  label : Nat
  target : Nat
  deriving DecidableEq, Repr

/-- A state of a deterministic automaton, its arcs in the order of their labels. -/
structure State where
  arcs : List Arc
  accepting : Bool
  deriving DecidableEq, Repr

/-- The arc after the state `dropped` was merged into `kept` and the states behind it
moved up by one place. -/
def Arc.retarget (arc : Arc) (kept dropped : Nat) : Arc :=
  if arc.target = dropped then { arc with target := kept }
  else if dropped < arc.target then { arc with target := arc.target - 1 }
  else arc

/-- The state with all its arcs after a merge. -/
def State.retarget (state : State) (kept dropped : Nat) : State :=
  { state with arcs := state.arcs.map (·.retarget kept dropped) }

namespace Dfa

/-- The first state that has a later twin, and the first of its twins. -/
def firstTwins? : List State → Option (Nat × Nat)
  | [] => none
  | state :: later =>
      match later.idxOf? state with
      | some place => some (0, place + 1)
      | none => (firstTwins? later).map fun twins => (twins.1 + 1, twins.2 + 1)

/-- Both twins are states of the automaton. -/
theorem firstTwins?_lt {states : List State} {kept dropped : Nat}
    (found : firstTwins? states = some (kept, dropped)) :
    kept < dropped ∧ dropped < states.length := by
  induction states generalizing kept dropped with
  | nil => simp [firstTwins?] at found
  | cons state later inductionHypothesis =>
      unfold firstTwins? at found
      split at found
      · rename_i place atPlace
        have bound : place < later.length := by
          obtain ⟨inRange, _⟩ := List.findIdx?_eq_some_iff_getElem.mp atPlace
          exact inRange
        simp only [Option.some.injEq, Prod.mk.injEq] at found
        obtain ⟨rfl, rfl⟩ := found
        simp only [List.length_cons]
        omega
      · obtain ⟨⟨laterKept, laterDropped⟩, laterFound, shifted⟩ :=
          Option.map_eq_some_iff.mp found
        have bounds := inductionHypothesis laterFound
        simp only [Prod.mk.injEq] at shifted
        simp only [List.length_cons]
        omega

/-- Merge the state `dropped` into the state `kept`. -/
def merge (states : List State) (kept dropped : Nat) : List State :=
  (states.eraseIdx dropped).map (·.retarget kept dropped)

/-- Merging twins takes one state away. -/
theorem length_merge_lt {states : List State} {kept dropped : Nat}
    (found : firstTwins? states = some (kept, dropped)) :
    (merge states kept dropped).length < states.length := by
  have bound := (firstTwins?_lt found).2
  simp only [merge, List.length_map, List.length_eraseIdx_of_lt bound]
  omega

/-- Merge twins until there are none. -/
def mergeTwins (states : List State) : List State :=
  match found : firstTwins? states with
  | none => states
  | some (kept, dropped) =>
      have := length_merge_lt found
      mergeTwins (merge states kept dropped)
termination_by states.length

end Dfa

end RuleMachine
