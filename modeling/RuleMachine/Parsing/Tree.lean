import RuleMachine.Grammar.Basic
import RuleMachine.Text.Padding
import RuleMachine.Text.Quoted

/-!
# Concrete syntax trees

A tree has the tokens of the input as its leaves and a branch for each rule that
matched.  Trees can be as deep as the input is long, so they are walked with a
list of pending subtrees instead of by recursion.
-/

namespace RuleMachine

/-- A concrete syntax tree. -/
inductive Tree where
  /-- A token. -/
  | leaf (kind : TokenKind) (value : String) (position : Position)
  /-- What a rule matched, at the place of its first token. -/
  | branch (symbol : SymbolId) (position : Position) (children : List Tree)

namespace Tree

/-- The leaf of a token. -/
def ofToken (token : Token) : Tree :=
  .leaf token.kind token.value token.position

/-- The kind of a leaf or the rule symbol of a branch. -/
def symbol : Tree → SymbolId
  | .leaf kind _ _ => kind
  | .branch symbol _ _ => symbol

/-- The place of the first token of a tree. -/
def position : Tree → Position
  | .leaf _ _ position => position
  | .branch _ position _ => position

/-- The text of a leaf. -/
def value? : Tree → Option String
  | .leaf _ value _ => some value
  | .branch _ _ _ => none

/-- Whether a tree is a single token. -/
def isLeaf : Tree → Bool
  | .leaf _ _ _ => true
  | .branch _ _ _ => false

/-- The subtrees right below the root. -/
def children : Tree → List Tree
  | .leaf _ _ _ => []
  | .branch _ _ children => children

/-- The subtree that a path of child numbers leads to. -/
def descend? (tree : Tree) : List Nat → Option Tree
  | [] => some tree
  | index :: later =>
      match tree.children[index]? with
      | none => none
      | some child => child.descend? later

/-! ## Sizes -/

mutual

/-- The number of nodes of a tree. -/
def size : Tree → Nat
  | .leaf _ _ _ => 1
  | .branch _ _ children => 1 + totalSize children

/-- The number of nodes of the trees in a list. -/
def totalSize : List Tree → Nat
  | [] => 0
  | tree :: later => tree.size + totalSize later

end

theorem size_eq (tree : Tree) : tree.size = 1 + totalSize tree.children := by
  cases tree <;> rfl

theorem totalSize_append (left right : List Tree) :
    totalSize (left ++ right) = totalSize left + totalSize right := by
  induction left with
  | nil => simp [totalSize]
  | cons tree later inductionHypothesis =>
      simp only [List.cons_append, totalSize, inductionHypothesis]
      omega

/-! ## Walks -/

/-- The nodes of pending trees with their depths, every node before its children. -/
def outlineFrom : List (Nat × Tree) → List (Nat × Tree)
  | [] => []
  | (depth, tree) :: later =>
      (depth, tree) :: outlineFrom (tree.children.map (fun child => (depth + 1, child)) ++ later)
termination_by pending => totalSize (pending.map Prod.snd)
decreasing_by
  have below : (Prod.snd ∘ fun child : Tree => (depth + 1, child)) = id := rfl
  simp only [List.map_append, List.map_map, below, List.map_id, List.map_cons, totalSize,
    totalSize_append, size_eq tree]
  omega

/-- The nodes of a tree with their depths, every node before its children. -/
def outline (tree : Tree) : List (Nat × Tree) :=
  outlineFrom [(0, tree)]

/-- The leaves of pending trees from left to right. -/
def leavesFrom : List Tree → List Tree
  | [] => []
  | .leaf kind value position :: later => .leaf kind value position :: leavesFrom later
  | .branch _ _ children :: later => leavesFrom (children ++ later)
termination_by pending => totalSize pending
decreasing_by
  · simp only [totalSize, size]
    omega
  · simp only [totalSize, totalSize_append, size]
    omega

/-- The leaves of a tree from left to right. -/
def leaves (tree : Tree) : List Tree :=
  leavesFrom [tree]

/-- Zipping children adds no nodes on the left. -/
private theorem totalSize_map_fst_zip_le (left right : List Tree) :
    totalSize ((left.zip right).map Prod.fst) ≤ totalSize left := by
  induction left generalizing right with
  | nil => simp [totalSize]
  | cons tree later inductionHypothesis =>
      cases right with
      | nil => simp [totalSize]
      | cons other others =>
          simp only [List.zip_cons_cons, List.map_cons, totalSize]
          have := inductionHypothesis others
          omega

/-- Whether the trees of every pending pair are the same. -/
def sameFrom : List (Tree × Tree) → Bool
  | [] => true
  | (.leaf kind value position, .leaf otherKind otherValue otherPosition) :: later =>
      if kind = otherKind ∧ value = otherValue ∧ position = otherPosition then
        sameFrom later
      else
        false
  | (.branch symbol position children, .branch otherSymbol otherPosition otherChildren) ::
      later =>
      if symbol = otherSymbol ∧ position = otherPosition ∧
          children.length = otherChildren.length then
        sameFrom (children.zip otherChildren ++ later)
      else
        false
  | (.leaf _ _ _, .branch _ _ _) :: _ => false
  | (.branch _ _ _, .leaf _ _ _) :: _ => false
termination_by pending => totalSize (pending.map Prod.fst)
decreasing_by
  · simp only [List.map_cons, totalSize, size]
    omega
  · have zipped := totalSize_map_fst_zip_le children otherChildren
    simp only [List.map_append, List.map_cons, totalSize, totalSize_append, size]
    omega

/-- Whether two trees are the same in shape, symbols, texts and places. -/
def same (left right : Tree) : Bool :=
  sameFrom [(left, right)]

/-! ## Text -/

/-- The line of a node in the rendering of a tree. -/
def dumpLine (grammar : Grammar) (depth : Nat) (tree : Tree) : String :=
  let indent := Text.spaces (2 * depth)
  let name := (grammar.symbolName? tree.symbol).getD "?"
  match tree.value? with
  | some value => indent ++ name ++ " " ++ Text.quoted value ++ "\n"
  | none => indent ++ name ++ "\n"

/-- A tree as text, one line for each node, indented by twice its depth. -/
def dump (tree : Tree) (grammar : Grammar) : String :=
  String.join (tree.outline.map fun node => dumpLine grammar node.1 node.2)

/-- Whether no line of the text of a tree is indented wider than a report allows. -/
def fitsReport (tree : Tree) : Bool :=
  tree.outline.all fun node => 2 * node.1 ≤ Text.maxPadding

/-- A tree as text, provided that it is not too deep for a report. -/
def dump? (tree : Tree) (grammar : Grammar) : Option String :=
  if tree.fitsReport then some (tree.dump grammar) else none

end Tree

end RuleMachine
