import Mathlib.Logic.Basic
import RuleMachine.Proofs.TokenCalls

/-!
# No token is lost

A session may be fed tokens for as long as one likes: behind a failure, and behind the
end.  The leaves of what it has matched are always the tokens of the calls that
succeeded, each of them once and in their order.  Only end markers are left out, where
every rule on the stack ends in front of them.  A call that fails may have ended rules,
but this moves no leaf.
-/

namespace RuleMachine

open Grammar

namespace Frame

/-- The leaves of the trees on a stack, from the outermost rule to the innermost one. -/
def leavesOf (stack : List Frame) : List Tree :=
  stack.reverse.flatMap fun frame => frame.tree.leaves

theorem leavesOf_cons (frame : Frame) (below : List Frame) :
    leavesOf (frame :: below) = leavesOf below ++ frame.tree.leaves := by
  simp [leavesOf]

theorem leaves_tree (frame : Frame) : frame.tree.leaves = Tree.leavesFrom frame.children :=
  Tree.leaves_branch frame.automaton.symbol frame.position frame.children

theorem leaves_tree_attach (frame : Frame) (child : Tree) :
    (frame.attach child).tree.leaves = frame.tree.leaves ++ child.leaves := by
  rw [leaves_tree, leaves_tree]
  exact Tree.leavesFrom_append frame.children [child]

/-- What a rule on the stack is doing, whatever it has matched. -/
def place (frame : Frame) : RuleAutomaton × Nat :=
  (frame.automaton, frame.state)

end Frame

namespace Session

variable {grammar : Grammar} {token : Token} {session middle final : Session} {frame : Frame}
  {below : List Frame} {answer : Except ParseError Bool}

/-! ## Stack and root -/

/-- Either rules are being matched and there is no root, or there is a root and no rule is
left. -/
def IsCoherent (session : Session) : Prop :=
  Xor (session.stack ≠ [] ∧ session.root = none)
    (session.stack = [] ∧ session.root.isSome = true)

theorem isCoherent_iff :
    session.IsCoherent ↔ session.root.isSome = session.stack.isEmpty := by
  unfold IsCoherent Xor
  cases session.root <;> cases session.stack <;> simp

theorem IsCoherent.root_eq_none (coherent : session.IsCoherent)
    (stack_eq : session.stack = frame :: below) : session.root = none := by
  rw [isCoherent_iff, stack_eq] at coherent
  exact Option.isSome_eq_false_iff.mp coherent |> Option.isNone_iff_eq_none.mp

theorem IsCoherent.pop (coherent : session.IsCoherent)
    (stack_eq : session.stack = frame :: below) : session.pop.IsCoherent := by
  have noRoot := coherent.root_eq_none stack_eq
  rw [isCoherent_iff]
  cases below with
  | nil => simp only [Session.pop, stack_eq, Option.isSome_some, List.isEmpty_nil]
  | cons parent below =>
      simp only [Session.pop, stack_eq, noRoot, Option.isSome_none, List.isEmpty_cons]

theorem isCoherent_settle (frame : Frame) (below : List Frame) :
    (settle none frame below).IsCoherent := by
  induction below generalizing frame with
  | nil =>
      unfold settle
      split
      · exact isCoherent_iff.mpr rfl
      · exact isCoherent_iff.mpr rfl
  | cons parent below inductionHypothesis =>
      unfold settle
      split
      · exact inductionHypothesis (parent.attach frame.tree)
      · exact isCoherent_iff.mpr rfl

theorem Closes.isCoherent (closes : Closes grammar token session final)
    (coherent : session.IsCoherent) : final.IsCoherent := by
  induction closes with
  | refl => exact coherent
  | pop stack_eq _ _ inductionHypothesis => exact inductionHypothesis (coherent.pop stack_eq)

theorem Shifts.isCoherent (shifts : Shifts grammar token session final)
    (coherent : session.IsCoherent) : final.IsCoherent := by
  induction shifts with
  | shift stack_eq _ =>
      rw [coherent.root_eq_none stack_eq]
      exact isCoherent_settle _ _
  | push stack_eq _ _ inductionHypothesis =>
      apply inductionHypothesis
      rw [isCoherent_iff, coherent.root_eq_none stack_eq]
      rfl

/-! ## Leaves -/

/-- The leaves of the trees on the stack from the bottom to the top; if no rule is left,
those of the root. -/
def leaves (session : Session) : List Tree :=
  match session.stack with
  | [] => session.root.elim [] Tree.leaves
  | frame :: below => Frame.leavesOf (frame :: below)

theorem leaves_of_stack (stack_eq : session.stack = frame :: below) :
    session.leaves = Frame.leavesOf below ++ frame.tree.leaves := by
  simp only [leaves, stack_eq, Frame.leavesOf_cons]

theorem leaves_pop (stack_eq : session.stack = frame :: below) :
    session.pop.leaves = session.leaves := by
  rw [leaves_of_stack stack_eq]
  cases below with
  | nil =>
      simp only [pop, stack_eq, leaves]
      rfl
  | cons parent below =>
      have popped : session.pop.stack = parent.attach frame.tree :: below :=
        stack_pop stack_eq
      rw [leaves_of_stack popped, Frame.leaves_tree_attach, Frame.leavesOf_cons,
        List.append_assoc]

theorem leaves_settle (root : Option Tree) (frame : Frame) (below : List Frame) :
    (settle root frame below).leaves = Frame.leavesOf below ++ frame.tree.leaves := by
  induction below generalizing frame with
  | nil =>
      unfold settle
      split
      · rfl
      · exact leaves_of_stack rfl
  | cons parent below inductionHypothesis =>
      unfold settle
      split
      · rw [inductionHypothesis, Frame.leaves_tree_attach, Frame.leavesOf_cons,
          List.append_assoc]
      · exact leaves_of_stack rfl

theorem Closes.leaves_eq (closes : Closes grammar token session final) :
    final.leaves = session.leaves := by
  induction closes with
  | refl => rfl
  | pop stack_eq _ _ inductionHypothesis =>
      rw [inductionHypothesis, leaves_pop stack_eq]

theorem Shifts.leaves_eq (shifts : Shifts grammar token session final) :
    final.leaves = session.leaves ++ [.ofToken token] := by
  induction shifts with
  | @shift session frame below target stack_eq _ =>
      have moved : (frame.moveTo target).tree = frame.tree := rfl
      rw [leaves_settle, Frame.leaves_tree_attach, Tree.leaves_ofToken, moved,
        leaves_of_stack stack_eq, List.append_assoc]
  | @push session final frame below target sub stack_eq _ _ inductionHypothesis =>
      have entered : (Frame.enter sub token.position).tree.leaves = [] := by
        rw [Frame.leaves_tree]
        exact Tree.leavesFrom.eq_1
      have moved : (frame.moveTo target).tree = frame.tree := rfl
      rw [inductionHypothesis, leaves_of_stack rfl, entered, List.append_nil,
        Frame.leavesOf_cons, moved, leaves_of_stack stack_eq]

/-- Ending rules takes them off the stack and moves no other rule. -/
theorem Closes.places_suffix (closes : Closes grammar token session final) :
    final.stack.map Frame.place <:+ session.stack.map Frame.place := by
  induction closes with
  | refl => exact List.suffix_refl _
  | @pop session final frame below stack_eq _ _ inductionHypothesis =>
      have popped : session.pop.stack.map Frame.place = below.map Frame.place := by
        rw [stack_pop stack_eq]
        cases below <;> rfl
      rw [popped] at inductionHypothesis
      rw [stack_eq]
      exact inductionHypothesis.trans (List.suffix_cons _ _)

theorem Shifts.not_isClosedBy (shifts : Shifts grammar token session final) :
    session.isClosedBy grammar token = false := by
  cases shifts with
  | shift stack_eq moves => simp [isClosedBy, stack_eq, Frame.isClosedBy, moves]
  | push stack_eq moves => simp [isClosedBy, stack_eq, Frame.isClosedBy, moves]

/-! ## Calls -/

/-- A call that feeds a token. -/
structure Call where
  before : Session
  token : Token
  answer : Except ParseError Bool
  after : Session

/-- The calls that feed tokens one after the other, whatever their answers are. -/
def calls (grammar : Grammar) (session : Session) : List Token → List Call
  | [] => []
  | token :: later =>
      { before := session
        token
        answer := (session.feed grammar token).1
        after := (session.feed grammar token).2 } ::
        calls grammar (session.feed grammar token).2 later

/-- The session behind all these calls. -/
def feedEach (grammar : Grammar) (session : Session) (tokens : List Token) : Session :=
  tokens.foldl (fun current token => (current.feed grammar token).2) session

/-- Whether the token of a call becomes a leaf: the call succeeds, and not every rule on
the stack ends in front of the token. -/
def Call.isKept (grammar : Grammar) (call : Call) : Bool :=
  call.answer.isOk && !call.before.isClosedBy grammar call.token

/-- What a call does to the answers, the leaves and the stack. -/
structure Call.Conserves (grammar : Grammar) (call : Call) : Prop where
  coherent : call.after.IsCoherent
  leaves_eq : call.after.leaves =
    call.before.leaves ++ if call.isKept grammar then [.ofToken call.token] else []
  answered : ∀ isDone, call.answer = .ok isDone →
    (isDone = true ↔ call.after.root.isSome = true)
  skipped : ∀ isDone, call.answer = .ok isDone → call.isKept grammar = false →
    call.token.kind = grammar.endMarker ∧ call.after.stack = []
  refused : ∀ error, call.answer = .error error → call.isKept grammar = false ∧
    call.after.stack.map Frame.place <:+ call.before.stack.map Frame.place

theorem Closes.conserves_error (closes : Closes grammar token session final)
    (coherent : session.IsCoherent) (error : ParseError) :
    Call.Conserves grammar
      { before := session, token, answer := .error error, after := final } where
  coherent := closes.isCoherent coherent
  leaves_eq := by simp [Call.isKept, Except.isOk, Except.toBool, closes.leaves_eq]
  answered := by
    intro isDone succeeds
    cases succeeds
  skipped := by
    intro isDone succeeds
    cases succeeds
  refused := fun _ _ => ⟨rfl, closes.places_suffix⟩

theorem Closes.conserves_marker (closes : Closes grammar token session final)
    (coherent : session.IsCoherent) (stack_eq : final.stack = [])
    (isMarker : token.kind = grammar.endMarker) :
    Call.Conserves grammar
      { before := session, token, answer := .ok true, after := final } where
  coherent := closes.isCoherent coherent
  leaves_eq := by
    have closed : session.isClosedBy grammar token = true := by
      rw [closes.isClosedBy_eq, isClosedBy, stack_eq, List.all_nil]
    simp [Call.isKept, closed, closes.leaves_eq]
  answered := by
    rintro isDone ⟨rfl⟩
    have rootIsSome := isCoherent_iff.mp (closes.isCoherent coherent)
    rw [stack_eq] at rootIsSome
    exact ⟨fun _ => rootIsSome, fun _ => rfl⟩
  skipped := fun _ _ _ => ⟨isMarker, stack_eq⟩
  refused := by
    intro error fails
    cases fails

theorem Closes.conserves_shift (closes : Closes grammar token session middle)
    (coherent : session.IsCoherent) (shifts : Shifts grammar token middle final) :
    Call.Conserves grammar
      { before := session, token, answer := .ok final.stack.isEmpty, after := final } := by
  have finalCoherent := shifts.isCoherent (closes.isCoherent coherent)
  have isOpen : session.isClosedBy grammar token = false :=
    closes.isClosedBy_eq.trans shifts.not_isClosedBy
  have isKept : Call.isKept grammar
      { before := session, token, answer := .ok final.stack.isEmpty, after := final } = true := by
    simp [Call.isKept, Except.isOk, Except.toBool, isOpen]
  refine ⟨finalCoherent, ?_, ?_, ?_, ?_⟩
  · rw [if_pos isKept, shifts.leaves_eq, closes.leaves_eq]
  · rintro isDone ⟨rfl⟩
    rw [isCoherent_iff.mp finalCoherent]
  · intro isDone _ notKept
    cases isKept.symm.trans notKept
  · intro error fails
    cases fails

section Compiled

variable {rules : List Rule} {vocabulary : Vocabulary}

theorem conserves_feed (compiled : Compiled rules vocabulary grammar)
    (supported : Supported grammar session) (coherent : session.IsCoherent) (token : Token) :
    Call.Conserves grammar
      { before := session
        token
        answer := (session.feed grammar token).1
        after := (session.feed grammar token).2 } := by
  obtain ⟨middle, closes, outcome⟩ := feed_cases compiled supported token
  generalize (session.feed grammar token).1 = answer at outcome
  generalize (session.feed grammar token).2 = final at outcome
  cases outcome with
  | complete stack_eq isMarker => exact closes.conserves_marker coherent stack_eq isMarker
  | beyond => exact closes.conserves_error coherent _
  | stuck => exact closes.conserves_error coherent _
  | shifted shifts => exact closes.conserves_shift coherent shifts

theorem calls_spec (compiled : Compiled rules vocabulary grammar)
    (supported : Supported grammar session) (coherent : session.IsCoherent)
    (tokens : List Token) :
    (feedEach grammar session tokens).IsCoherent ∧
      (feedEach grammar session tokens).leaves = session.leaves ++
        (((calls grammar session tokens).filter (Call.isKept grammar)).map Call.token).map
          Tree.ofToken ∧
      ∀ call ∈ calls grammar session tokens, call.Conserves grammar := by
  induction tokens generalizing session with
  | nil => simp [feedEach, calls, coherent]
  | cons token later inductionHypothesis =>
      have conserves := conserves_feed compiled supported coherent token
      obtain ⟨finalCoherent, leaves_eq, areConserving⟩ :=
        inductionHypothesis (supported.feed compiled token) conserves.coherent
      refine ⟨finalCoherent, ?_, List.forall_mem_cons.mpr ⟨conserves, areConserving⟩⟩
      have step_eq : feedEach grammar session (token :: later) =
          feedEach grammar (session.feed grammar token).2 later := rfl
      rw [step_eq, leaves_eq, conserves.leaves_eq, calls, List.filter_cons]
      split
      · simp
      · simp

end Compiled

theorem isCoherent_begin (automaton : RuleAutomaton) : (begin automaton).IsCoherent :=
  isCoherent_iff.mpr rfl

theorem leaves_begin (automaton : RuleAutomaton) : (begin automaton).leaves = [] := by
  rw [leaves_of_stack rfl, Frame.leaves_tree]
  exact Tree.leavesFrom.eq_1

/-- Whatever is fed to a session, it matches rules or has a root, but not both; the leaves
of what it has matched are the tokens of the calls that succeeded, up to end markers that
only end rules; a call answers that the start rule is complete exactly if there is a root
behind it; and a call that fails adds neither a leaf nor a rule. -/
theorem calls_conserve_tokens {rules : List Rule} {vocabulary : Vocabulary}
    {startName : Option String} {policy : AmbiguityPolicy} {start : SymbolId} {first : Session}
    (built : build rules vocabulary startName policy = .ok grammar)
    (prepared : prepare grammar start = .ok first) (tokens : List Token) :
    (feedEach grammar first tokens).IsCoherent ∧
      (feedEach grammar first tokens).leaves =
        (((calls grammar first tokens).filter (Call.isKept grammar)).map Call.token).map
          Tree.ofToken ∧
      ∀ call ∈ calls grammar first tokens, call.Conserves grammar := by
  obtain ⟨compiled, _⟩ := compiled_of_build built
  unfold prepare at prepared
  split at prepared
  · rename_i automaton found
    cases prepared
    have spec := calls_spec compiled (supported_begin compiled found)
      (isCoherent_begin automaton) tokens
    rw [leaves_begin, List.nil_append] at spec
    exact spec
  · cases prepared

/-- Two items and an end marker, with a number that fits nowhere in between and two more
tokens behind the end. -/
def restlessTokens : List Token :=
  [⟨1, "x", ⟨1, 0⟩, ""⟩, ⟨2, "3", ⟨1, 2⟩, ""⟩, ⟨5, ",", ⟨1, 3⟩, ""⟩, ⟨1, "y", ⟨1, 5⟩, ""⟩,
    ⟨0, "", ⟨1, 6⟩, ""⟩, ⟨0, "", ⟨1, 6⟩, ""⟩, ⟨1, "z", ⟨1, 7⟩, ""⟩]

/-- The number has ended the first item before it fails, and the last name comes too late.
The first end marker becomes a leaf, the second one is left out. -/
theorem calls_conserve_tokens_restlessTokens :
    ∃ rules grammar first, build rules .mini none .reject = .ok grammar ∧
      prepare grammar grammar.start = .ok first ∧
      (calls grammar first restlessTokens).map (fun call => call.answer.isOk) =
        [true, false, true, true, true, true, false] ∧
      (feedEach grammar first restlessTokens).IsCoherent ∧
      (feedEach grammar first restlessTokens).leaves =
        ([⟨1, "x", ⟨1, 0⟩, ""⟩, ⟨5, ",", ⟨1, 3⟩, ""⟩, ⟨1, "y", ⟨1, 5⟩, ""⟩,
          ⟨0, "", ⟨1, 6⟩, ""⟩] : List Token).map Tree.ofToken := by
  have succeeds : (compile commaText .mini none .reject).isOk = true := by
    decide +kernel
  have contents : (compile commaText .mini none .reject).map (fun grammar =>
      (grammar.automaton? grammar.start).map fun automaton =>
        ((calls grammar (begin automaton) restlessTokens).map (fun call => call.answer.isOk),
          ((calls grammar (begin automaton) restlessTokens).filter (Call.isKept grammar)).map
            Call.token)) =
      .ok (some ([true, false, true, true, true, true, false],
        [⟨1, "x", ⟨1, 0⟩, ""⟩, ⟨5, ",", ⟨1, 3⟩, ""⟩, ⟨1, "y", ⟨1, 5⟩, ""⟩,
          ⟨0, "", ⟨1, 6⟩, ""⟩])) := by
    decide +kernel
  obtain ⟨grammar, compiled⟩ := exists_ok_of_isOk succeeds
  obtain ⟨rules, _, built⟩ := compile_eq_ok compiled
  rw [compiled] at contents
  obtain ⟨automaton, found, contents⟩ := Option.map_eq_some_iff.mp (Except.ok.inj contents)
  obtain ⟨answers_eq, kept_eq⟩ := Prod.mk.inj contents
  have prepared : prepare grammar grammar.start = .ok (begin automaton) := by
    simp only [prepare, found]
  obtain ⟨coherent, leaves_eq, _⟩ := calls_conserve_tokens built prepared restlessTokens
  rw [kept_eq] at leaves_eq
  exact ⟨rules, grammar, _, built, prepared, answers_eq, coherent, leaves_eq⟩

end Session

end RuleMachine
