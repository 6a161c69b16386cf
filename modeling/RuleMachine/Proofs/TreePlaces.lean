import RuleMachine.Proofs.GaplessGrammars

/-!
# Places of trees

A rule is placed where it is entered, and its first subtree moves it to its own place.
Subtrees are attached from the innermost rule outwards, so every branch with children ends
up at the place of its leftmost leaf.  Only a rule without subtrees would keep the first
guess.  But a rule is entered only if it begins with a label of the token, so it does not
end before the token, or a subtree that holds it, is attached.  Hence no subtree is without
a leaf; only the start rule can match nothing.
-/

namespace RuleMachine

open Grammar

namespace Tree

/-! ## Placed trees -/

/-- Every branch of a tree that has children has the place of its leftmost leaf, and every
node below the root has a leaf. -/
structure IsPlaced (tree : Tree) : Prop where
  placed : ∀ path node, tree.descend? path = some node → node.children ≠ [] →
    node.leaves.head?.map position = some node.position
  inhabited : ∀ path node, tree.descend? path = some node → path ≠ [] → node.leaves ≠ []

theorem descend?_cons_eq_some_iff {tree node : Tree} {index : Nat} {later : List Nat} :
    tree.descend? (index :: later) = some node ↔
      ∃ child, tree.children[index]? = some child ∧ child.descend? later = some node := by
  rw [descend?]
  cases tree.children[index]? with
  | none => simp
  | some child => simp

theorem leaves_ne_nil_of_leaf (kind : TokenKind) (value : String) (position : Position) :
    (leaf kind value position).leaves ≠ [] := by
  rw [leaves, leavesFrom]
  exact List.cons_ne_nil _ _

theorem isPlaced_leaf (kind : TokenKind) (value : String) (position : Position) :
    (leaf kind value position).IsPlaced := by
  constructor
  · intro path node reached hasChildren
    cases path with
    | nil =>
        cases reached
        exact absurd rfl hasChildren
    | cons index later =>
        obtain ⟨child, isChild, _⟩ := descend?_cons_eq_some_iff.mp reached
        cases isChild
  · intro path node reached isBelow
    cases path with
    | nil => exact absurd rfl isBelow
    | cons index later =>
        obtain ⟨child, isChild, _⟩ := descend?_cons_eq_some_iff.mp reached
        cases isChild

/-- A branch is placed if its children are and have leaves, and if it has the place of its
leftmost leaf. -/
theorem isPlaced_branch {symbol : SymbolId} {position : Position} {children : List Tree}
    (atFirst : children ≠ [] → (leavesFrom children).head?.map Tree.position = some position)
    (childrenPlaced : ∀ child ∈ children, child.IsPlaced ∧ child.leaves ≠ []) :
    (branch symbol position children).IsPlaced := by
  constructor
  · intro path node reached hasChildren
    cases path with
    | nil =>
        cases reached
        rw [leaves_branch]
        exact atFirst hasChildren
    | cons index later =>
        obtain ⟨child, isChild, lower⟩ := descend?_cons_eq_some_iff.mp reached
        have childPlaced := (childrenPlaced child (List.mem_of_getElem? isChild)).1
        exact childPlaced.placed later node lower hasChildren
  · intro path node reached _
    cases path with
    | nil => contradiction
    | cons index later =>
        obtain ⟨child, isChild, lower⟩ := descend?_cons_eq_some_iff.mp reached
        obtain ⟨childPlaced, hasLeaf⟩ := childrenPlaced child (List.mem_of_getElem? isChild)
        cases later with
        | nil =>
            cases lower
            exact hasLeaf
        | cons next further =>
            exact childPlaced.inhabited (next :: further) node lower (List.cons_ne_nil _ _)

/-- A child of a placed tree is placed and has a leaf. -/
theorem IsPlaced.child {tree child : Tree} (isPlaced : tree.IsPlaced)
    (isChild : child ∈ tree.children) : child.IsPlaced ∧ child.leaves ≠ [] := by
  obtain ⟨index, isAt⟩ := List.mem_iff_getElem?.mp isChild
  have reached : ∀ path node, child.descend? path = some node →
      tree.descend? (index :: path) = some node := by
    intro path node lower
    exact descend?_cons_eq_some_iff.mpr ⟨child, isAt, lower⟩
  refine ⟨⟨?_, ?_⟩, isPlaced.inhabited [index] child (reached [] child rfl) (List.cons_ne_nil _ _)⟩
  · intro path node lower
    exact isPlaced.placed (index :: path) node (reached path node lower)
  · intro path node lower _
    exact isPlaced.inhabited (index :: path) node (reached path node lower) (List.cons_ne_nil _ _)

/-- A placed tree with a leaf has the place of its leftmost leaf. -/
theorem IsPlaced.atFirst {tree : Tree} (isPlaced : tree.IsPlaced) (hasLeaf : tree.leaves ≠ []) :
    tree.leaves.head?.map position = some tree.position := by
  cases tree with
  | leaf kind value position =>
      rw [leaves, leavesFrom]
      rfl
  | branch symbol position children =>
      refine isPlaced.placed [] _ rfl ?_
      rintro rfl
      refine hasLeaf ?_
      rw [leaves_branch, leavesFrom]

end Tree

namespace Frame

variable {frame : Frame} {child : Tree}

theorem isPlaced_enter (automaton : RuleAutomaton) (position : Position) :
    (enter automaton position).tree.IsPlaced := by
  refine Tree.isPlaced_branch (fun hasChildren => absurd rfl hasChildren) ?_
  intro child isChild
  cases isChild

theorem leaves_attach_ne_nil (frame : Frame) (hasLeaf : child.leaves ≠ []) :
    (frame.attach child).tree.leaves ≠ [] := by
  rw [leaves_tree_attach]
  exact List.append_ne_nil_of_right_ne_nil _ hasLeaf

/-- The first subtree gives a rule its place, and every later one leaves it there. -/
theorem isPlaced_attach (isPlaced : frame.tree.IsPlaced) (childPlaced : child.IsPlaced)
    (hasLeaf : child.leaves ≠ []) : (frame.attach child).tree.IsPlaced := by
  refine Tree.isPlaced_branch ?_ ?_
  · intro _
    have split : Tree.leavesFrom (frame.attach child).children =
        frame.tree.leaves ++ child.leaves := by
      rw [← leaves_tree, leaves_tree_attach]
    rw [split]
    by_cases isFirst : frame.children = []
    · have noLeaf : frame.tree.leaves = [] := by
        rw [leaves_tree, isFirst, Tree.leavesFrom]
      simp only [attach, isFirst, List.isEmpty_nil, if_true, noLeaf, List.nil_append]
      exact childPlaced.atFirst hasLeaf
    · have atFirst := isPlaced.placed [] frame.tree rfl isFirst
      have notEmpty : frame.children.isEmpty = false := List.isEmpty_eq_false_iff.mpr isFirst
      simp only [attach, notEmpty, Bool.false_eq_true, if_false, List.head?_append]
      cases firstLeaf : frame.tree.leaves.head? with
      | none =>
          rw [firstLeaf] at atFirst
          cases atFirst
      | some first =>
          rw [firstLeaf] at atFirst
          exact atFirst
  · intro other isOther
    rcases List.mem_append.mp isOther with isEarlier | isChild
    · exact isPlaced.child isEarlier
    · rw [List.mem_singleton.mp isChild]
      exact ⟨childPlaced, hasLeaf⟩

end Frame

namespace Session

variable {grammar : Grammar} {token : Token} {session middle final : Session} {frame : Frame}
  {below : List Frame}

/-! ## Sessions -/

/-- The root and what the rules on the stack have matched are placed. -/
structure IsPlaced (session : Session) : Prop where
  stack : ∀ frame ∈ session.stack, frame.tree.IsPlaced
  root : ∀ tree, session.root = some tree → tree.IsPlaced

/-- A rule inside another one has matched a leaf. -/
def HasLeafOnTop (session : Session) : Prop :=
  ∀ frame parent below, session.stack = frame :: parent :: below → frame.tree.leaves ≠ []

theorem isPlaced_begin (automaton : RuleAutomaton) : (begin automaton).IsPlaced := by
  constructor
  · intro frame isFrame
    rw [List.mem_singleton.mp isFrame]
    exact Frame.isPlaced_enter automaton ⟨0, 0⟩
  · intro tree isRoot
    cases isRoot

theorem hasLeafOnTop_begin (automaton : RuleAutomaton) : (begin automaton).HasLeafOnTop := by
  intro frame parent below stack_eq
  cases stack_eq

theorem isPlaced_finished {tree : Tree} (treePlaced : tree.IsPlaced) :
    IsPlaced { stack := [], root := some tree } ∧
      HasLeafOnTop { stack := [], root := some tree } := by
  refine ⟨⟨List.forall_mem_nil _, ?_⟩, ?_⟩
  · rintro root ⟨rfl⟩
    exact treePlaced
  · intro frame parent below stack_eq
    cases stack_eq

theorem IsPlaced.of_stack_eq (isPlaced : session.IsPlaced)
    (stack_eq : session.stack = frame :: below) :
    frame.tree.IsPlaced ∧ ∀ lower ∈ below, lower.tree.IsPlaced := by
  have areFrames := isPlaced.stack
  rw [stack_eq] at areFrames
  exact List.forall_mem_cons.mp areFrames

/-- A rule that ends hands a subtree with a leaf to the rule around it. -/
theorem IsPlaced.pop (isPlaced : session.IsPlaced) (hasLeafOnTop : session.HasLeafOnTop)
    (stack_eq : session.stack = frame :: below) :
    session.pop.IsPlaced ∧ session.pop.HasLeafOnTop := by
  obtain ⟨framePlaced, belowPlaced⟩ := isPlaced.of_stack_eq stack_eq
  cases below with
  | nil =>
      have popped : session.pop = { stack := [], root := some frame.tree } := by
        simp only [pop, stack_eq]
      rw [popped]
      exact isPlaced_finished framePlaced
  | cons parent below =>
      have hasLeaf := hasLeafOnTop frame parent below stack_eq
      obtain ⟨parentPlaced, lowerPlaced⟩ := List.forall_mem_cons.mp belowPlaced
      have popped : session.pop =
          { session with stack := parent.attach frame.tree :: below } := by
        simp only [pop, stack_eq]
      rw [popped]
      refine ⟨⟨?_, isPlaced.root⟩, ?_⟩
      · exact List.forall_mem_cons.mpr
          ⟨Frame.isPlaced_attach parentPlaced framePlaced hasLeaf, lowerPlaced⟩
      · rintro top other lower ⟨rfl, _⟩
        exact parent.leaves_attach_ne_nil hasLeaf

theorem Closes.isPlaced (closes : Closes grammar token session final)
    (isPlaced : session.IsPlaced) (hasLeafOnTop : session.HasLeafOnTop) :
    final.IsPlaced ∧ final.HasLeafOnTop := by
  induction closes with
  | refl => exact ⟨isPlaced, hasLeafOnTop⟩
  | pop stack_eq _ _ inductionHypothesis =>
      obtain ⟨popPlaced, popHasLeaf⟩ := isPlaced.pop hasLeafOnTop stack_eq
      exact inductionHypothesis popPlaced popHasLeaf

/-- Where a rule on the stack has matched a leaf, all finished rules hand it on. -/
theorem isPlaced_settle {root : Option Tree} (rootPlaced : ∀ tree, root = some tree → tree.IsPlaced)
    (framePlaced : frame.tree.IsPlaced) (hasLeaf : frame.tree.leaves ≠ [])
    (belowPlaced : ∀ lower ∈ below, lower.tree.IsPlaced) :
    (settle root frame below).IsPlaced ∧ (settle root frame below).HasLeafOnTop := by
  induction below generalizing frame with
  | nil =>
      unfold settle
      split
      · exact isPlaced_finished framePlaced
      · refine ⟨⟨List.forall_mem_singleton.mpr framePlaced, rootPlaced⟩, ?_⟩
        intro top parent lower stack_eq
        cases stack_eq
  | cons parent below inductionHypothesis =>
      obtain ⟨parentPlaced, lowerPlaced⟩ := List.forall_mem_cons.mp belowPlaced
      unfold settle
      split
      · exact inductionHypothesis (Frame.isPlaced_attach parentPlaced framePlaced hasLeaf)
          (parent.leaves_attach_ne_nil hasLeaf) lowerPlaced
      · refine ⟨⟨List.forall_mem_cons.mpr ⟨framePlaced, belowPlaced⟩, rootPlaced⟩, ?_⟩
        rintro top other lower ⟨rfl, _⟩
        exact hasLeaf

/-- Rules that are entered have no leaf yet; but the last one of them shifts the token
before any of them ends. -/
theorem Shifts.isPlaced (shifts : Shifts grammar token session final)
    (isPlaced : session.IsPlaced) : final.IsPlaced ∧ final.HasLeafOnTop := by
  induction shifts with
  | @shift session frame below target stack_eq _ =>
      obtain ⟨framePlaced, belowPlaced⟩ := isPlaced.of_stack_eq stack_eq
      have movedPlaced : (frame.moveTo target).tree.IsPlaced := framePlaced
      have tokenPlaced := Tree.isPlaced_leaf token.kind token.value token.position
      have hasLeaf := Tree.leaves_ne_nil_of_leaf token.kind token.value token.position
      exact isPlaced_settle isPlaced.root
        (Frame.isPlaced_attach movedPlaced tokenPlaced hasLeaf)
        ((frame.moveTo target).leaves_attach_ne_nil hasLeaf) belowPlaced
  | @push session final frame below target sub stack_eq _ _ inductionHypothesis =>
      obtain ⟨framePlaced, belowPlaced⟩ := isPlaced.of_stack_eq stack_eq
      have movedPlaced : (frame.moveTo target).tree.IsPlaced := framePlaced
      refine inductionHypothesis ⟨?_, isPlaced.root⟩
      exact List.forall_mem_cons.mpr ⟨Frame.isPlaced_enter sub token.position,
        List.forall_mem_cons.mpr ⟨movedPlaced, belowPlaced⟩⟩

section Compiled

variable {rules : List Rule} {vocabulary : Vocabulary}

theorem IsPlaced.feed (compiled : Compiled rules vocabulary grammar)
    (supported : Supported grammar session) (isPlaced : session.IsPlaced)
    (hasLeafOnTop : session.HasLeafOnTop) (token : Token) :
    (session.feed grammar token).2.IsPlaced ∧ (session.feed grammar token).2.HasLeafOnTop := by
  obtain ⟨middle, closes, outcome⟩ := feed_cases compiled supported token
  have middlePlaced := closes.isPlaced isPlaced hasLeafOnTop
  generalize (session.feed grammar token).1 = answer at outcome
  generalize (session.feed grammar token).2 = final at outcome
  cases outcome with
  | complete | beyond | stuck => exact middlePlaced
  | shifted shifts => exact shifts.isPlaced middlePlaced.1

theorem IsPlaced.feedEach (compiled : Compiled rules vocabulary grammar)
    (supported : Supported grammar session) (isPlaced : session.IsPlaced)
    (hasLeafOnTop : session.HasLeafOnTop) (tokens : List Token) :
    (feedEach grammar session tokens).IsPlaced := by
  induction tokens generalizing session with
  | nil => exact isPlaced
  | cons token later inductionHypothesis =>
      obtain ⟨nextPlaced, nextHasLeaf⟩ := isPlaced.feed compiled supported hasLeafOnTop token
      exact inductionHypothesis (supported.feed compiled token) nextPlaced nextHasLeaf

/-- A root without leaves shows that no call has kept its token. -/
theorem isKept_eq_false_of_leaves_eq_nil (compiled : Compiled rules vocabulary grammar)
    {automaton : RuleAutomaton} {start : SymbolId}
    (found : grammar.automaton? start = some automaton) {tokens : List Token} {root : Tree}
    (isRoot : (feedEach grammar (begin automaton) tokens).root = some root)
    (noLeaf : root.leaves = []) :
    ∀ call ∈ calls grammar (begin automaton) tokens, call.isKept grammar = false := by
  obtain ⟨coherent, leaves_eq, _⟩ := calls_spec compiled (supported_begin compiled found)
    (isCoherent_begin automaton) tokens
  rw [isCoherent_iff, isRoot] at coherent
  have stack_eq := List.isEmpty_iff.mp coherent.symm
  rw [leaves_begin, List.nil_append, leaves, stack_eq] at leaves_eq
  simp only [isRoot, Option.elim_some, noLeaf] at leaves_eq
  have noneKept := List.map_eq_nil_iff.mp (List.map_eq_nil_iff.mp leaves_eq.symm)
  intro call isCall
  exact Bool.eq_false_of_not_eq_true (List.filter_eq_nil_iff.mp noneKept call isCall)

/-- Whatever is fed to a session, the root and all that the rules on the stack have matched
are placed by their leaves.  In a root only the root itself can be without children, and
only if no call has kept its token. -/
theorem trees_placed_by_first_leaf {startName : Option String} {policy : AmbiguityPolicy}
    {start : SymbolId} {first : Session}
    (built : build rules vocabulary startName policy = .ok grammar)
    (prepared : prepare grammar start = .ok first) (tokens : List Token) :
    (∀ root, (feedEach grammar first tokens).root = some root → root.IsPlaced) ∧
      (∀ frame ∈ (feedEach grammar first tokens).stack, frame.tree.IsPlaced) ∧
      ∀ root path node, (feedEach grammar first tokens).root = some root →
        root.descend? path = some node → node.isLeaf = false → node.children = [] →
        path = [] ∧ ∀ call ∈ calls grammar first tokens, call.isKept grammar = false := by
  obtain ⟨compiled, _⟩ := compiled_of_build built
  unfold prepare at prepared
  split at prepared
  · rename_i automaton found
    cases prepared
    have isPlaced := (isPlaced_begin automaton).feedEach compiled
      (supported_begin compiled found) (hasLeafOnTop_begin automaton) tokens
    refine ⟨isPlaced.root, isPlaced.stack, ?_⟩
    intro root path node isRoot reached notLeaf childless
    have noLeaf : node.leaves = [] := by
      cases node with
      | leaf => cases notLeaf
      | branch symbol position children =>
          obtain rfl : children = [] := childless
          rw [Tree.leaves_branch, Tree.leavesFrom]
    have isTop : path = [] := by
      by_contra isBelow
      exact (isPlaced.root root isRoot).inhabited path node reached isBelow noLeaf
    subst isTop
    cases reached
    exact ⟨rfl, isKept_eq_false_of_leaves_eq_nil compiled found isRoot noLeaf⟩
  · cases prepared

end Compiled

/-- Rules inside each other, and one that may match nothing in front of them. -/
def indentedText : String := "a: [d] b\nb: c NUMBER\nc: NAME\nd: STRING*\n"

def indentedTokens : List Token :=
  [⟨1, "x", ⟨1, 4⟩, ""⟩, ⟨2, "7", ⟨1, 6⟩, ""⟩]

/-- All three rules around a name have its place, and the one that may match nothing is not
entered. -/
theorem trees_placed_by_first_leaf_indentedTokens :
    ∃ rules grammar first root, build rules .mini none .firstWins = .ok grammar ∧
      prepare grammar grammar.start = .ok first ∧
      (feedEach grammar first indentedTokens).root = some root ∧
      root.outline.map (fun node => (node.1, node.2.symbol, node.2.position)) =
        [(0, 256, ⟨1, 4⟩), (1, 257, ⟨1, 4⟩), (2, 258, ⟨1, 4⟩), (3, 1, ⟨1, 4⟩),
          (2, 2, ⟨1, 6⟩)] ∧
      root.IsPlaced := by
  have succeeds : (compile indentedText .mini none .firstWins).isOk = true := by
    decide +kernel
  have contents : (compile indentedText .mini none .firstWins).map (fun grammar =>
      (grammar.automaton? grammar.start).map fun automaton =>
        (feedEach grammar (begin automaton) indentedTokens).root.map fun root =>
          root.outline.map fun node => (node.1, node.2.symbol, node.2.position)) =
      .ok (some (some [(0, 256, ⟨1, 4⟩), (1, 257, ⟨1, 4⟩), (2, 258, ⟨1, 4⟩), (3, 1, ⟨1, 4⟩),
        (2, 2, ⟨1, 6⟩)])) := by
    decide +kernel
  obtain ⟨grammar, compiled⟩ := exists_ok_of_isOk succeeds
  obtain ⟨rules, _, built⟩ := compile_eq_ok compiled
  rw [compiled] at contents
  obtain ⟨automaton, found, contents⟩ := Option.map_eq_some_iff.mp (Except.ok.inj contents)
  obtain ⟨root, isRoot, outline_eq⟩ := Option.map_eq_some_iff.mp contents
  have prepared : prepare grammar grammar.start = .ok (begin automaton) := by
    simp only [prepare, found]
  obtain ⟨rootPlaced, _, _⟩ := trees_placed_by_first_leaf built prepared indentedTokens
  exact ⟨rules, grammar, _, root, built, prepared, isRoot, outline_eq, rootPlaced root isRoot⟩

end Session

end RuleMachine
