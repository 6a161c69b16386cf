/-!
# Finite sets of numbers

A set of natural numbers is kept as its strictly ascending list of elements,
so that two sets with the same elements are equal and listing a set gives its
elements in order.
-/

namespace RuleMachine

/-- A finite set of natural numbers, listed in ascending order. -/
structure NatSet where
  elements : List Nat
  ascending : elements.Pairwise (· < ·)
  deriving DecidableEq

namespace NatSet

instance : Membership Nat NatSet where
  mem set number := number ∈ set.elements

instance (number : Nat) (set : NatSet) : Decidable (number ∈ set) :=
  inferInstanceAs (Decidable (number ∈ set.elements))

theorem mem_def {number : Nat} {set : NatSet} : number ∈ set ↔ number ∈ set.elements :=
  Iff.rfl

/-- The set without elements. -/
def empty : NatSet where
  elements := []
  ascending := List.Pairwise.nil

/-- Put a number at its place in an ascending list, unless it stands there. -/
def insertAscending (number : Nat) : List Nat → List Nat
  | [] => [number]
  | head :: tail =>
      if number < head then number :: head :: tail
      else if number = head then head :: tail
      else head :: insertAscending number tail

theorem mem_insertAscending {number tested : Nat} {elements : List Nat} :
    tested ∈ insertAscending number elements ↔ tested = number ∨ tested ∈ elements := by
  induction elements with
  | nil => simp [insertAscending]
  | cons head tail inductionHypothesis =>
      unfold insertAscending
      split
      · simp
      · split
        · rename_i sameNumber
          simp [sameNumber]
        · simp only [List.mem_cons, inductionHypothesis]
          constructor
          · rintro (isHead | isNumber | inTail)
            · exact .inr (.inl isHead)
            · exact .inl isNumber
            · exact .inr (.inr inTail)
          · rintro (isNumber | isHead | inTail)
            · exact .inr (.inl isNumber)
            · exact .inl isHead
            · exact .inr (.inr inTail)

theorem pairwise_insertAscending
    {number : Nat} {elements : List Nat} (ascending : elements.Pairwise (· < ·)) :
    (insertAscending number elements).Pairwise (· < ·) := by
  induction elements with
  | nil => simp [insertAscending]
  | cons head tail inductionHypothesis =>
      obtain ⟨headBelow, tailAscending⟩ := List.pairwise_cons.mp ascending
      unfold insertAscending
      split
      · rename_i below
        refine List.pairwise_cons.mpr ⟨?_, ascending⟩
        intro tested member
        rcases List.mem_cons.mp member with rfl | inTail
        · exact below
        · exact Nat.lt_trans below (headBelow tested inTail)
      · split
        · exact ascending
        · refine List.pairwise_cons.mpr ⟨?_, inductionHypothesis tailAscending⟩
          intro tested member
          rcases mem_insertAscending.mp member with rfl | inTail
          · omega
          · exact headBelow tested inTail

/-- Add a number to a set. -/
def insert (set : NatSet) (number : Nat) : NatSet where
  elements := insertAscending number set.elements
  ascending := pairwise_insertAscending set.ascending

/-- Add every number of a list to a set. -/
def insertAll (set : NatSet) (numbers : List Nat) : NatSet :=
  numbers.foldl insert set

/-- The set of the numbers of a list. -/
def ofList (numbers : List Nat) : NatSet :=
  empty.insertAll numbers

/-- The set of the numbers in either set. -/
def union (left right : NatSet) : NatSet :=
  left.insertAll right.elements

@[simp]
theorem not_mem_empty (number : Nat) : number ∉ empty :=
  List.not_mem_nil

@[simp]
theorem mem_insert {set : NatSet} {number tested : Nat} :
    tested ∈ set.insert number ↔ tested = number ∨ tested ∈ set :=
  mem_insertAscending

@[simp]
theorem mem_insertAll {set : NatSet} {numbers : List Nat} {tested : Nat} :
    tested ∈ set.insertAll numbers ↔ tested ∈ set ∨ tested ∈ numbers := by
  induction numbers generalizing set with
  | nil => simp [insertAll]
  | cons head tail inductionHypothesis =>
      have unfolded : set.insertAll (head :: tail) = (set.insert head).insertAll tail := rfl
      rw [unfolded, inductionHypothesis, mem_insert, List.mem_cons]
      constructor
      · rintro ((isHead | inSet) | inTail)
        · exact .inr (.inl isHead)
        · exact .inl inSet
        · exact .inr (.inr inTail)
      · rintro (inSet | isHead | inTail)
        · exact .inl (.inr inSet)
        · exact .inl (.inl isHead)
        · exact .inr inTail

@[simp]
theorem mem_ofList {numbers : List Nat} {tested : Nat} :
    tested ∈ ofList numbers ↔ tested ∈ numbers := by
  simp [ofList]

@[simp]
theorem mem_union {left right : NatSet} {tested : Nat} :
    tested ∈ left.union right ↔ tested ∈ left ∨ tested ∈ right :=
  mem_insertAll

end NatSet

end RuleMachine
