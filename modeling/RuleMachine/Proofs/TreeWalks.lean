import RuleMachine.Proofs.Compilation
import RuleMachine.Proofs.Derivations
import RuleMachine.Vocabulary.Standard

/-!
# Walks over trees

A walk over a tree keeps a list of pending subtrees, so that it does not depend on how deep
the tree is.  Here leaves, text and height are given by recursion over the tree; a walk is
this recursion on one pending subtree after the other, whatever is pending.  Leaves and
comparisons have no limit.  The text has one: a line cannot be indented wider than a report
allows, so a tree that is too deep has no text.
-/

namespace RuleMachine

namespace Tree

/-! ## Recursion over trees -/

mutual

/-- The leaves of a tree from left to right, by recursion. -/
def terminals : Tree → List Tree
  | .leaf kind value position => [.leaf kind value position]
  | .branch _ _ children => terminalsOfAll children

/-- The leaves of trees from left to right, by recursion. -/
def terminalsOfAll : List Tree → List Tree
  | [] => []
  | tree :: later => tree.terminals ++ terminalsOfAll later

end

mutual

/-- The lines of a tree whose root has the given depth, by recursion: the line of a node,
indented by twice its depth, and behind it the lines of its children. -/
def renderedLines (grammar : Grammar) (depth : Nat) : Tree → List String
  | .leaf kind value _ =>
      [Text.spaces (2 * depth) ++ (grammar.symbolName? kind).getD "?" ++ " " ++
        Text.quoted value ++ "\n"]
  | .branch symbol _ children =>
      (Text.spaces (2 * depth) ++ (grammar.symbolName? symbol).getD "?" ++ "\n") ::
        renderedLinesOfAll grammar (depth + 1) children

/-- The lines of trees whose roots have the given depth, by recursion. -/
def renderedLinesOfAll (grammar : Grammar) (depth : Nat) : List Tree → List String
  | [] => []
  | tree :: later => tree.renderedLines grammar depth ++ renderedLinesOfAll grammar depth later

end

mutual

/-- The depth of the deepest node of a tree. -/
def height : Tree → Nat
  | .leaf _ _ _ => 0
  | .branch _ _ children => heightAbove children

/-- The height of a branch with the given children. -/
def heightAbove : List Tree → Nat
  | [] => 0
  | tree :: later => max (tree.height + 1) (heightAbove later)

end

/-- The text of a tree, by recursion. -/
def rendering (grammar : Grammar) (tree : Tree) : String :=
  String.join (tree.renderedLines grammar 0)

theorem terminalsOfAll_append (left right : List Tree) :
    terminalsOfAll (left ++ right) = terminalsOfAll left ++ terminalsOfAll right := by
  induction left with
  | nil => rfl
  | cons tree later inductionHypothesis =>
      rw [List.cons_append, terminalsOfAll, terminalsOfAll, inductionHypothesis,
        List.append_assoc]

theorem renderedLinesOfAll_eq_flatMap (grammar : Grammar) (depth : Nat) (trees : List Tree) :
    renderedLinesOfAll grammar depth trees = trees.flatMap (renderedLines grammar depth) := by
  induction trees with
  | nil => rfl
  | cons tree later inductionHypothesis =>
      rw [renderedLinesOfAll, inductionHypothesis, List.flatMap_cons]

theorem renderedLines_eq_cons (grammar : Grammar) (depth : Nat) (tree : Tree) :
    tree.renderedLines grammar depth = dumpLine grammar depth tree ::
      tree.children.flatMap (renderedLines grammar (depth + 1)) := by
  cases tree with
  | leaf kind value position => rfl
  | branch symbol position children =>
      rw [renderedLines, renderedLinesOfAll_eq_flatMap]
      rfl

theorem heightAbove_le_iff {trees : List Tree} {bound : Nat} :
    heightAbove trees ≤ bound ↔ ∀ tree ∈ trees, tree.height + 1 ≤ bound := by
  induction trees with
  | nil => simp [heightAbove]
  | cons tree later inductionHypothesis =>
      rw [heightAbove, Nat.max_le, inductionHypothesis, List.forall_mem_cons]

theorem height_eq_heightAbove (tree : Tree) : tree.height = heightAbove tree.children := by
  cases tree with
  | leaf => rfl
  | branch => rfl

/-- A tree stays within a depth if its root and the trees below it do. -/
theorem depth_add_height_le_iff {tree : Tree} {depth bound : Nat} :
    depth + tree.height ≤ bound ↔
      depth ≤ bound ∧ ∀ child ∈ tree.children, depth + 1 + child.height ≤ bound := by
  rw [height_eq_heightAbove]
  constructor
  · intro inBound
    have below := heightAbove_le_iff.mp (Nat.le_sub_of_add_le' inBound)
    refine ⟨by omega, ?_⟩
    intro child isChild
    have := below child isChild
    omega
  · rintro ⟨rootInBound, childrenInBound⟩
    have below : heightAbove tree.children ≤ bound - depth := by
      refine heightAbove_le_iff.mpr ?_
      intro child isChild
      have := childrenInBound child isChild
      omega
    omega

/-! ## Pending subtrees -/

theorem leavesFrom_eq_terminalsOfAll (pending : List Tree) :
    leavesFrom pending = terminalsOfAll pending := by
  fun_induction leavesFrom pending with
  | case1 => rfl
  | case2 kind value position later inductionHypothesis =>
      rw [inductionHypothesis, terminalsOfAll, terminals, List.singleton_append]
  | case3 symbol position children later inductionHypothesis =>
      rw [inductionHypothesis, terminalsOfAll_append, terminalsOfAll, terminals]

theorem map_dumpLine_outlineFrom (grammar : Grammar) (pending : List (Nat × Tree)) :
    (outlineFrom pending).map (fun node => dumpLine grammar node.1 node.2) =
      pending.flatMap fun entry => entry.2.renderedLines grammar entry.1 := by
  fun_induction outlineFrom pending with
  | case1 => rfl
  | case2 depth tree later inductionHypothesis =>
      rw [List.map_cons, inductionHypothesis, List.flatMap_append, List.flatMap_map,
        List.flatMap_cons, renderedLines_eq_cons, List.cons_append]

theorem forall_mem_outlineFrom_iff {pending : List (Nat × Tree)} {bound : Nat} :
    (∀ node ∈ outlineFrom pending, node.1 ≤ bound) ↔
      ∀ entry ∈ pending, entry.1 + entry.2.height ≤ bound := by
  fun_induction outlineFrom pending with
  | case1 => simp
  | case2 depth tree later inductionHypothesis =>
      rw [List.forall_mem_cons, inductionHypothesis, List.forall_mem_append,
        List.forall_mem_cons, depth_add_height_le_iff, List.forall_mem_map, and_assoc]

/-- Lists of the same length are equal if their items are equal in pairs. -/
theorem eq_iff_forall_mem_zip {left right : List Tree} (sameLength : left.length = right.length) :
    left = right ↔ ∀ pair ∈ left.zip right, pair.1 = pair.2 := by
  induction left generalizing right with
  | nil =>
      rw [List.eq_nil_of_length_eq_zero sameLength.symm]
      simp
  | cons tree later inductionHypothesis =>
      cases right with
      | nil => cases sameLength
      | cons other others =>
          rw [List.cons.injEq, inductionHypothesis (Nat.succ.inj sameLength),
            List.zip_cons_cons, List.forall_mem_cons]

theorem not_forall_mem_of_head {left right : Tree} {later : List (Tree × Tree)}
    (differ : left ≠ right) : ¬ ∀ pair ∈ (left, right) :: later, pair.1 = pair.2 :=
  fun allEqual => differ (allEqual _ (.head later))

/-- A comparison succeeds exactly if the trees of every pending pair are equal; so the order
in which the pairs are compared does not matter. -/
theorem sameFrom_iff (pending : List (Tree × Tree)) :
    sameFrom pending = true ↔ ∀ pair ∈ pending, pair.1 = pair.2 := by
  fun_induction sameFrom pending with
  | case1 => simp
  | case2 kind value position otherKind otherValue otherPosition later agree
      inductionHypothesis =>
      obtain ⟨rfl, rfl, rfl⟩ := agree
      rw [inductionHypothesis, List.forall_mem_cons, and_iff_right rfl]
  | case3 kind value position otherKind otherValue otherPosition later differ =>
      refine iff_of_false Bool.false_ne_true (not_forall_mem_of_head ?_)
      rintro ⟨⟩
      exact differ ⟨rfl, rfl, rfl⟩
  | case4 symbol position children otherSymbol otherPosition otherChildren later agree
      inductionHypothesis =>
      obtain ⟨rfl, rfl, sameLength⟩ := agree
      rw [inductionHypothesis, List.forall_mem_append, ← eq_iff_forall_mem_zip sameLength,
        List.forall_mem_cons, branch.injEq, and_iff_right rfl, and_iff_right rfl]
  | case5 symbol position children otherSymbol otherPosition otherChildren later differ =>
      refine iff_of_false Bool.false_ne_true (not_forall_mem_of_head ?_)
      rintro ⟨⟩
      exact differ ⟨rfl, rfl, rfl⟩
  | case6 kind value position symbol otherPosition children later =>
      refine iff_of_false Bool.false_ne_true (not_forall_mem_of_head ?_)
      rintro ⟨⟩
  | case7 symbol position children kind value otherPosition later =>
      refine iff_of_false Bool.false_ne_true (not_forall_mem_of_head ?_)
      rintro ⟨⟩

/-! ## Whole trees -/

theorem leaves_eq_terminals (tree : Tree) : tree.leaves = tree.terminals := by
  rw [leaves, leavesFrom_eq_terminalsOfAll, terminalsOfAll, terminalsOfAll, List.append_nil]

theorem dump_eq_rendering (tree : Tree) (grammar : Grammar) :
    tree.dump grammar = tree.rendering grammar := by
  rw [dump, outline, map_dumpLine_outlineFrom, rendering, List.flatMap_singleton]

theorem fitsReport_iff (tree : Tree) :
    tree.fitsReport = true ↔ 2 * tree.height ≤ Text.maxPadding := by
  have halved : ∀ depth, 2 * depth ≤ Text.maxPadding ↔ depth ≤ Text.maxPadding / 2 := by
    intro depth
    omega
  have within : (∀ node ∈ outlineFrom [(0, tree)], node.1 ≤ Text.maxPadding / 2) ↔
      ∀ entry ∈ [(0, tree)], entry.1 + entry.2.height ≤ Text.maxPadding / 2 :=
    forall_mem_outlineFrom_iff
  rw [List.forall_mem_singleton, Nat.zero_add] at within
  rw [fitsReport, outline, List.all_eq_true, halved, ← within]
  simp only [decide_eq_true_eq, halved]

/-- The leaves of a tree are those that the recursion finds; the text is that of the
recursion exactly if no line is indented wider than a report allows, and otherwise there is
none; and two trees compare as the same exactly if they are equal. -/
theorem walks_agree_unless_too_deep (grammar : Grammar) (tree other : Tree) :
    tree.leaves = tree.terminals ∧
      tree.dump? grammar =
        (if 2 * tree.height ≤ Text.maxPadding then some (tree.rendering grammar) else none) ∧
      (tree.same other = true ↔ tree = other) := by
  refine ⟨leaves_eq_terminals tree, ?_, ?_⟩
  · simp only [dump?, fitsReport_iff, dump_eq_rendering]
  · rw [same, sameFrom_iff, List.forall_mem_singleton]

/-- A name, and so many more names behind it, each inside the rule of the one before. -/
def nested : Nat → Tree
  | 0 => .branch 256 ⟨1, 0⟩ [.leaf 2 "x" ⟨1, 0⟩]
  | count + 1 => .branch 256 ⟨1, 0⟩ [.leaf 2 "x" ⟨1, 0⟩, nested count]

theorem height_nested (count : Nat) : (nested count).height = count + 1 := by
  induction count with
  | zero => rfl
  | succ count inductionHypothesis =>
      simp only [nested, height, heightAbove, inductionHypothesis]
      omega

/-- Of 32768 names inside each other there is a text by recursion, but none as a report. -/
theorem dump?_nested_ne_rendering :
    ∃ grammar, Grammar.compile "a: NAME [a]\n" .python none .reject = .ok grammar ∧
      (nested 32767).dump? grammar = none ∧
      (nested 32767).dump? grammar ≠ some ((nested 32767).rendering grammar) := by
  have succeeds : (Grammar.compile "a: NAME [a]\n" .python none .reject).isOk = true := by
    decide +kernel
  obtain ⟨grammar, compiled⟩ := Grammar.exists_ok_of_isOk succeeds
  have tooDeep : (nested 32767).dump? grammar = none := by
    refine if_neg ?_
    rw [fitsReport_iff, height_nested]
    decide
  refine ⟨grammar, compiled, tooDeep, ?_⟩
  rw [tooDeep]
  nofun

end Tree

end RuleMachine
