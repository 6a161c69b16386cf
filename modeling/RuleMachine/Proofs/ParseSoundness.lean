import RuleMachine.Proofs.Moves
import RuleMachine.Vocabulary.Standard

/-!
# Parses are derivations

While tokens are fed to a session, every rule on the stack has derived its
subtrees so far, and every rule but the innermost one stands behind the arc into
the rule above it.  Each step keeps this up, whichever arcs it takes.  When the
stack is empty, the root is a derivation from the start rule, and whatever came
behind it were end markers.
-/

namespace RuleMachine

open Grammar

/-- The place of a rule is that of its first subtree or of its entry; the start rule is
entered nowhere. -/
def Frame.Placed (frame : Frame) (below : List Frame) : Prop :=
  ∃ entry, frame.position = Tree.placeOf entry frame.children ∧ (below = [] → entry = ⟨0, 0⟩)

theorem Frame.Placed.attach {frame : Frame} {below : List Frame} (placed : frame.Placed below)
    (child : Tree) : (frame.attach child).Placed below := by
  obtain ⟨entry, position_eq, atRoot⟩ := placed
  refine ⟨entry, ?_, atRoot⟩
  cases children_eq : frame.children with
  | nil => simp [Frame.attach, Tree.placeOf, children_eq]
  | cons first later => simp [Frame.attach, Tree.placeOf, children_eq, position_eq]

namespace Session

variable {grammar : Grammar} {root : RuleAutomaton} {whole : List Token}

/-! ## What the stack holds -/

/-- The rules below the innermost one wait for what it matches from the given tokens on. -/
inductive Waiting (grammar : Grammar) (root : RuleAutomaton) (whole : List Token) :
    List Frame → RuleAutomaton → List Token → Prop
  | bottom : Waiting grammar root whole [] root whole
  | above {parent : Frame} {below : List Frame} {sub : RuleAutomaton} {source : Nat}
      {arc : Arc} {symbol : SymbolId} {input rest : List Token} :
      Waiting grammar root whole below parent.automaton input →
      Derives grammar parent.automaton 0 input parent.children source rest →
      parent.Placed below → arc ∈ parent.automaton.arcsAt source → parent.state = arc.target →
      grammar.labelTable.get? arc.label = some (.rule symbol) →
      grammar.automaton? symbol = some sub →
      Waiting grammar root whole (parent :: below) sub rest

/-- The innermost rule has derived its subtrees, and the rules below wait for it. -/
structure Matching (grammar : Grammar) (root : RuleAutomaton) (whole : List Token)
    (frame : Frame) (below : List Frame) (rest : List Token) : Prop where
  derived : ∃ input, Waiting grammar root whole below frame.automaton input ∧
    Derives grammar frame.automaton 0 input frame.children frame.state rest
  placed : frame.Placed below

/-- A tree of the start rule, behind which nothing but end markers came. -/
inductive Complete (grammar : Grammar) (root : RuleAutomaton) (whole rest : List Token) :
    Tree → Prop
  | intro {children : List Tree} {last : Nat} (skipped : List Token) :
      Derives grammar root 0 whole children last (skipped ++ rest) →
      grammar.Ends root last (skipped ++ rest) →
      (∀ token ∈ skipped, token.kind = grammar.endMarker) →
      Complete grammar root whole rest
        (.branch root.symbol (Tree.placeOf ⟨0, 0⟩ children) children)

/-- What holds of a session before the given rest of the input. -/
def Sound (grammar : Grammar) (root : RuleAutomaton) (whole : List Token)
    (session : Session) (rest : List Token) : Prop :=
  match session.stack with
  | [] => ∃ tree, session.root = some tree ∧ Complete grammar root whole rest tree
  | frame :: below => Matching grammar root whole frame below rest

section Steps

variable {rules : List Rule} {vocabulary : Vocabulary} {start : SymbolId}
  {frame parent : Frame} {below : List Frame} {rest : List Token} {session : Session}

theorem Waiting.exists_symbol (found : grammar.automaton? start = some root)
    {automaton : RuleAutomaton} {input : List Token}
    (waiting : Waiting grammar root whole below automaton input) :
    ∃ symbol, grammar.automaton? symbol = some automaton := by
  cases waiting with
  | bottom => exact ⟨start, found⟩
  | above _ _ _ _ _ _ isSub => exact ⟨_, isSub⟩

theorem Matching.tableFaithful (compiled : Compiled rules vocabulary grammar)
    (found : grammar.automaton? start = some root)
    (matching : Matching grammar root whole frame below rest) :
    frame.automaton.TableFaithful := by
  obtain ⟨input, waiting, _⟩ := matching.derived
  obtain ⟨symbol, isAutomaton⟩ := waiting.exists_symbol found
  exact compiled.tableFaithful isAutomaton

/-! ## Ending a rule -/

theorem ends_of_isFinished (finished : frame.isFinished = true) (rest : List Token) :
    grammar.Ends frame.automaton frame.state rest := by
  obtain ⟨accepting, arcs_eq⟩ := frame.isFinished_iff.mp finished
  refine ⟨accepting, ?_⟩
  cases rest with
  | nil => exact arcs_eq
  | cons token later =>
      intro arc member
      rw [arcs_eq] at member
      cases member

theorem Matching.attach (compiled : Compiled rules vocabulary grammar)
    (matching : Matching grammar root whole frame (parent :: below) rest)
    (ends : grammar.Ends frame.automaton frame.state rest) :
    Matching grammar root whole (parent.attach frame.tree) below rest := by
  obtain ⟨input, waiting, derives⟩ := matching.derived
  obtain ⟨entry, position_eq, _⟩ := matching.placed
  cases waiting with
  | above parentWaiting parentDerives parentPlaced isArc state_eq isRule isSub =>
      have step := Derives.rule entry isArc isRule isSub derives ends
        (.refl parent.automaton _ rest)
      have tree_eq : frame.tree = .branch frame.automaton.symbol
          (Tree.placeOf entry frame.children) frame.children := by
        rw [Frame.tree, position_eq]
      rw [compiled.symbol_eq isSub] at tree_eq
      rw [← tree_eq, ← state_eq] at step
      exact ⟨⟨_, parentWaiting, parentDerives.trans step⟩, parentPlaced.attach frame.tree⟩

theorem Matching.complete (matching : Matching grammar root whole frame [] rest)
    (ends : grammar.Ends frame.automaton frame.state rest) :
    Complete grammar root whole rest frame.tree := by
  obtain ⟨input, waiting, derives⟩ := matching.derived
  obtain ⟨entry, position_eq, atRoot⟩ := matching.placed
  obtain rfl := atRoot rfl
  cases waiting with
  | bottom =>
      rw [Frame.tree, position_eq]
      exact .intro [] derives ends (by simp)

theorem sound_pop (compiled : Compiled rules vocabulary grammar)
    (stack_eq : session.stack = frame :: below)
    (matching : Matching grammar root whole frame below rest)
    (ends : grammar.Ends frame.automaton frame.state rest) :
    Sound grammar root whole session.pop rest := by
  cases below with
  | nil =>
      simp only [Sound, pop, stack_eq]
      exact ⟨frame.tree, rfl, matching.complete ends⟩
  | cons parent below =>
      simp only [Sound, pop, stack_eq]
      exact matching.attach compiled ends

theorem sound_settle (compiled : Compiled rules vocabulary grammar) (tree : Option Tree)
    (matching : Matching grammar root whole frame below rest) :
    Sound grammar root whole (settle tree frame below) rest := by
  induction below generalizing frame with
  | nil =>
      unfold settle
      split
      · rename_i finished
        exact ⟨frame.tree, rfl, matching.complete (ends_of_isFinished finished rest)⟩
      · exact matching
  | cons parent below inductionHypothesis =>
      unfold settle
      split
      · rename_i finished
        exact inductionHypothesis
          (matching.attach compiled (ends_of_isFinished finished rest))
      · exact matching

/-! ## Steps -/

variable {token : Token} {later : List Token}

theorem Matching.shift {target : Nat} {label : LabelId}
    (matching : Matching grammar root whole frame below (token :: later))
    (isCandidate : label ∈ grammar.classify token)
    (isArc : ⟨label, target⟩ ∈ frame.automaton.arcsAt frame.state) :
    Matching grammar root whole ((frame.moveTo target).attach (.ofToken token)) below later := by
  obtain ⟨input, waiting, derives⟩ := matching.derived
  have step := Derives.token isArc isCandidate (.refl frame.automaton target later)
  have placed : (frame.moveTo target).Placed below := matching.placed
  exact ⟨⟨input, waiting, derives.trans step⟩, placed.attach _⟩

theorem Matching.descend {arc : Arc} {sub : RuleAutomaton} {position : Position}
    (matching : Matching grammar root whole frame below rest)
    (isArc : arc ∈ frame.automaton.arcsAt frame.state)
    (isSub : grammar.subAutomaton? arc.label = some sub) :
    Matching grammar root whole (Frame.enter sub position)
      (frame.moveTo arc.target :: below) rest := by
  obtain ⟨input, waiting, derives⟩ := matching.derived
  obtain ⟨symbol, isRule, found⟩ := subAutomaton?_eq_some.mp isSub
  have lower : Waiting grammar root whole (frame.moveTo arc.target :: below) sub rest :=
    .above waiting derives matching.placed isArc rfl isRule found
  exact ⟨⟨rest, lower, .refl sub 0 rest⟩, position, rfl, by simp⟩

/-- The rest of the input behind a step on its next token. -/
def Step.SoundBefore (grammar : Grammar) (root : RuleAutomaton) (whole : List Token)
    (token : Token) (later : List Token) : Step → Prop
  | .popped next => Sound grammar root whole next (token :: later)
  | .pushed next => Sound grammar root whole next (token :: later)
  | .stopped (.ok isDone) final =>
      Sound grammar root whole final later ∧ (isDone = true → final.stack = [])
  | .stopped (.error _) _ => True

theorem sound_step (compiled : Compiled rules vocabulary grammar)
    (found : grammar.automaton? start = some root)
    (sound : Sound grammar root whole session (token :: later)) :
    (step grammar token (grammar.classify token) session).SoundBefore grammar root whole token
      later := by
  cases stack_eq : session.stack with
  | nil =>
      simp only [Sound, stack_eq] at sound
      simp only [step, stack_eq]
      split
      · rename_i isMarker
        obtain ⟨tree, root_eq, complete⟩ := sound
        refine ⟨?_, fun _ => stack_eq⟩
        simp only [Sound, stack_eq]
        refine ⟨tree, root_eq, ?_⟩
        cases complete with
        | intro skipped derives ends areMarkers =>
            rw [List.append_cons] at derives ends
            refine .intro (skipped ++ [token]) derives ends ?_
            intro tested member
            rcases List.mem_append.mp member with inSkipped | isToken
            · exact areMarkers tested inSkipped
            · rw [List.mem_singleton.mp isToken]
              exact isMarker
      · trivial
  | cons frame below =>
      simp only [Sound, stack_eq] at sound
      have faithful := sound.tableFaithful compiled found
      simp only [step, stack_eq]
      split
      · rename_i target shifts
        obtain ⟨label, isCandidate, arc, isArc, takes⟩ :=
          exists_takes_of_findMove? faithful shifts
        cases takes with
        | shift =>
            refine ⟨sound_settle compiled session.root (sound.shift isCandidate isArc), ?_⟩
            exact List.isEmpty_iff.mp
      · rename_i target sub descends
        obtain ⟨label, isCandidate, arc, isArc, takes⟩ :=
          exists_takes_of_findMove? faithful descends
        cases takes with
        | descend isSub _ => exact sound.descend isArc isSub
      · rename_i noMove
        split
        · rename_i accepting
          have ends : grammar.Ends frame.automaton frame.state (token :: later) :=
            ⟨(faithful.accepting frame.state).mp accepting,
              not_answers_of_findMove?_eq_none faithful noMove⟩
          exact sound_pop compiled stack_eq sound ends
        · trivial

theorem sound_run (compiled : Compiled rules vocabulary grammar)
    (found : grammar.automaton? start = some root) {count : Nat} {isDone : Bool}
    {final : Session} (sound : Sound grammar root whole session (token :: later))
    (ran : run grammar token (grammar.classify token) count session = (.ok isDone, final)) :
    Sound grammar root whole final later ∧ (isDone = true → final.stack = []) := by
  induction count generalizing session with
  | zero => cases ran
  | succ count inductionHypothesis =>
      have stepped := sound_step compiled found sound
      unfold run at ran
      split at ran
      · rename_i next popped
        rw [popped] at stepped
        exact inductionHypothesis stepped ran
      · rename_i next pushed
        rw [pushed] at stepped
        exact inductionHypothesis stepped ran
      · rename_i answer last stopped
        rw [stopped] at stepped
        obtain ⟨rfl, rfl⟩ := Prod.mk.inj ran
        exact stepped

/-! ## Whole inputs -/

theorem Complete.of_sound (sound : Sound grammar root whole session rest)
    (isDone : session.stack = []) :
    ∃ tree, session.root = some tree ∧ Complete grammar root whole rest tree := by
  simpa only [Sound, isDone] using sound

theorem sound_feedAll (compiled : Compiled rules vocabulary grammar)
    (found : grammar.automaton? start = some root) {tokens behind : List Token}
    {progress final : Progress}
    (sound : Sound grammar root whole progress.session (tokens ++ behind))
    (doneSpec : progress.isDone = true → progress.session.stack = [])
    (fed : feedAll grammar progress tokens = .ok final) :
    Sound grammar root whole final.session behind ∧
      (final.isDone = true → final.session.stack = []) := by
  induction tokens generalizing progress with
  | nil =>
      cases fed
      exact ⟨sound, doneSpec⟩
  | cons token later inductionHypothesis =>
      unfold feedAll at fed
      split at fed
      · cases fed
      · split at fed
        · cases fed
        · rename_i isDone session ran
          obtain ⟨nextSound, nextDone⟩ := sound_run compiled found sound ran
          exact inductionHypothesis nextSound nextDone fed

/-- The place behind the last token is kept while tokens are fed. -/
theorem finish_of_feedAll {tokens : List Token} {progress final : Progress}
    (fed : feedAll grammar progress tokens = .ok final) :
    final.finish = tokens.getLast?.elim progress.finish Token.finish := by
  induction tokens generalizing progress with
  | nil =>
      cases fed
      rfl
  | cons token later inductionHypothesis =>
      unfold feedAll at fed
      split at fed
      · cases fed
      · rename_i finish isFinish
        split at fed
        · cases fed
        · have tokenFinish := (Token.eq_finish_of_endPosition? isFinish).1
          rw [inductionHypothesis fed, List.getLast?_cons]
          cases later.getLast? with
          | none => exact tokenFinish
          | some last => rfl

theorem sound_finishInput (compiled : Compiled rules vocabulary grammar)
    (found : grammar.automaton? start = some root) {progress : Progress} {final : Session}
    (sound : Sound grammar root whole progress.session
      [.endMarkerAt grammar.endMarker progress.finish])
    (doneSpec : progress.isDone = true → progress.session.stack = [])
    (finished : finishInput grammar progress = .ok final) :
    ∃ tree rest, final.root = some tree ∧ Complete grammar root whole rest tree ∧
      ∀ token ∈ rest, token.kind = grammar.endMarker := by
  unfold finishInput at finished
  split at finished
  · rename_i isDone
    cases finished
    obtain ⟨tree, root_eq, complete⟩ := Complete.of_sound sound (doneSpec isDone)
    refine ⟨tree, _, root_eq, complete, ?_⟩
    intro token member
    rw [List.mem_singleton.mp member]
    rfl
  · simp only at finished
    split at finished
    · cases finished
    · rename_i ran
      cases finished
      obtain ⟨finalSound, finalDone⟩ := sound_run compiled found sound ran
      obtain ⟨tree, root_eq, complete⟩ := Complete.of_sound finalSound (finalDone rfl)
      exact ⟨tree, [], root_eq, complete, by simp⟩
    · cases finished

theorem sound_begin (grammar : Grammar) (root : RuleAutomaton) (whole : List Token) :
    Sound grammar root whole (begin root) whole :=
  ⟨⟨whole, .bottom, .refl root 0 whole⟩, ⟨0, 0⟩, rfl, fun _ => rfl⟩

end Steps

end Session

open Session

variable {rules : List Rule} {vocabulary : Vocabulary} {grammar : Grammar}
  {start : SymbolId} {tokens : List Token} {tree : Tree}

theorem isParse_of_parse (compiled : Compiled rules vocabulary grammar)
    (parsed : parse grammar start tokens = .ok tree) : IsParse grammar start tokens tree := by
  unfold parse at parsed
  split at parsed
  · cases parsed
  · rename_i automaton found
    unfold parseFrom at parsed
    simp only at parsed
    split at parsed
    · cases parsed
    · rename_i progress fed
      have soundBegin := sound_begin grammar automaton (grammar.closedInput tokens)
      obtain ⟨sound, doneSpec⟩ := sound_feedAll compiled found soundBegin (by simp) fed
      split at parsed
      · cases parsed
      · rename_i final finished
        rw [← finish_of_feedAll fed] at sound
        obtain ⟨root, rest, root_eq, complete, areMarkers⟩ :=
          sound_finishInput compiled found sound doneSpec finished
        rw [root_eq] at parsed
        obtain rfl := Except.ok.inj parsed
        cases complete with
        | intro skipped derives ends areSkipped =>
            rw [compiled.symbol_eq found]
            refine .intro found derives ends ?_
            intro token member
            rcases List.mem_append.mp member with inSkipped | inRest
            · exact areSkipped token inSkipped
            · exact areMarkers token inRest

/-- A tree that a parse gives belongs to the start symbol, every rule in it spells a run of
its automaton to an accepting state where the next token cannot go on, and its leaves are
the tokens of the input up to end markers. -/
theorem parse_sound {startName : Option String} {policy : AmbiguityPolicy}
    (built : build rules vocabulary startName policy = .ok grammar)
    (parsed : parse grammar start tokens = .ok tree) :
    tree.symbol = start ∧ IsParse grammar start tokens tree ∧
      ∃ consumed rest, grammar.closedInput tokens = consumed ++ rest ∧
        tree.leaves = consumed.map Tree.ofToken ∧
        ∀ token ∈ rest, token.kind = grammar.endMarker := by
  obtain ⟨compiled, _⟩ := compiled_of_build built
  have isParse := isParse_of_parse compiled parsed
  refine ⟨?_, isParse, isParse.leaves_eq⟩
  cases isParse
  rfl

/-- Items, the last one of which ends only where the input ends. -/
def itemsText : String := "list: item+\nitem: NAME [NUMBER]\n"

/-- Two items; the first one ends because the second one begins. -/
def itemsTokens : List Token :=
  [⟨1, "x", ⟨1, 0⟩, ""⟩, ⟨1, "y", ⟨1, 2⟩, ""⟩, ⟨2, "3", ⟨1, 4⟩, ""⟩]

theorem parse_sound_itemsTokens :
    ∃ rules grammar tree, build rules .mini none .firstWins = .ok grammar ∧
      parse grammar grammar.start itemsTokens = .ok tree ∧ tree.symbol = grammar.start ∧
      IsParse grammar grammar.start itemsTokens tree := by
  have succeeds : (compile itemsText .mini none .firstWins).isOk = true := by
    decide +kernel
  have parses : (compile itemsText .mini none .firstWins).map (fun grammar =>
      (parse grammar grammar.start itemsTokens).isOk) = .ok true := by
    decide +kernel
  obtain ⟨grammar, compiled⟩ := exists_ok_of_isOk succeeds
  obtain ⟨rules, _, built⟩ := compile_eq_ok compiled
  rw [compiled] at parses
  obtain ⟨tree, parsed⟩ := exists_ok_of_isOk (Except.ok.inj parses)
  obtain ⟨symbol_eq, isParse, _⟩ := parse_sound built parsed
  exact ⟨rules, grammar, tree, built, parsed, symbol_eq, isParse⟩

end RuleMachine
