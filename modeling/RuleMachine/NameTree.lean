/-!
# Search trees of names

A tree keeps names apart by their order: behind a name, smaller ones stand in one
branch and greater ones in the other.  A name is looked for on the way on which it
would be put into the tree.
-/

namespace RuleMachine

/-- A search tree of names. -/
inductive NameTree where
  | leaf
  | node (name : String) (smaller greater : NameTree)

namespace NameTree

/-- Whether a name stands in a tree. -/
def contains (tree : NameTree) (name : String) : Bool :=
  match tree with
  | .leaf => false
  | .node root smaller greater =>
      if name = root then true
      else if name < root then smaller.contains name
      else greater.contains name

/-- Put a name into a tree, unless it stands there. -/
def insert (tree : NameTree) (name : String) : NameTree :=
  match tree with
  | .leaf => .node name .leaf .leaf
  | .node root smaller greater =>
      if name = root then .node root smaller greater
      else if name < root then .node root (smaller.insert name) greater
      else .node root smaller (greater.insert name)

/-- The tree of some names. -/
def ofList (names : List String) : NameTree :=
  names.foldl insert .leaf

theorem contains_insert {tree : NameTree} {name tested : String} :
    (tree.insert name).contains tested = true ↔
      tested = name ∨ tree.contains tested = true := by
  induction tree with
  | leaf => simp [insert, contains]
  | node root smaller greater smallerHypothesis greaterHypothesis =>
      unfold insert
      by_cases isRoot : name = root
      · simp [contains, isRoot]
      · -- Either both names go the same way, or they differ.
        rw [if_neg isRoot]
        by_cases isSmaller : name < root
        · rw [if_pos isSmaller]
          simp only [contains]
          grind
        · rw [if_neg isSmaller]
          simp only [contains]
          grind

private theorem contains_foldl_insert {names : List String} {tree : NameTree} {tested : String} :
    (names.foldl insert tree).contains tested = true ↔
      tested ∈ names ∨ tree.contains tested = true := by
  induction names generalizing tree with
  | nil => simp
  | cons name later inductionHypothesis =>
      rw [List.foldl_cons, inductionHypothesis, contains_insert, List.mem_cons, or_left_comm,
        or_assoc]

theorem contains_ofList {names : List String} {tested : String} :
    (ofList names).contains tested = true ↔ tested ∈ names := by
  rw [ofList, contains_foldl_insert]
  simp [contains]

theorem ofList_concat (names : List String) (name : String) :
    ofList (names ++ [name]) = (ofList names).insert name := by
  rw [ofList, ofList, List.foldl_append]
  rfl

end NameTree

end RuleMachine
