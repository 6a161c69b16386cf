import RuleMachine.Proofs.ParseSoundness
import RuleMachine.Proofs.Prediction

/-!
# Derivations are found

Let a derivation of the whole input be given.  While the tokens are fed, every
rule on the stack has the beginning of its subtrees in the derivation, and the
derivation tells what is to come.  In a predictive grammar each step follows it:
a rule ends where it ends in the derivation, a token is shifted along the arc of
its leaf, and a rule is entered where its branch begins.

A token is dealt with in as many steps as the session allows: the rules that end
are on the stack before, and the rules that are entered have descending ranks.
-/

namespace RuleMachine

open Grammar

/-! ## Frames -/

namespace Frame

/-- Append subtrees one after the other. -/
def attachAll (frame : Frame) (children : List Tree) : Frame :=
  children.foldl attach frame

theorem attachAll_cons (frame : Frame) (child : Tree) (later : List Tree) :
    frame.attachAll (child :: later) = (frame.attach child).attachAll later :=
  rfl

theorem tree_attachAll (frame : Frame) (children : List Tree) :
    (frame.attachAll children).tree =
      .branch frame.automaton.symbol
        (if frame.children.isEmpty then Tree.placeOf frame.position children
          else frame.position)
        (frame.children ++ children) := by
  induction children generalizing frame with
  | nil => simp [attachAll, tree, Tree.placeOf]
  | cons child later inductionHypothesis =>
      rw [attachAll_cons, inductionHypothesis]
      simp [attach, Tree.placeOf]

theorem tree_attachAll_enter (automaton : RuleAutomaton) (position : Position)
    (children : List Tree) :
    ((enter automaton position).attachAll children).tree =
      .branch automaton.symbol (Tree.placeOf position children) children := by
  rw [tree_attachAll]
  rfl

theorem tree_attachAll_moveTo (frame : Frame) (state : Nat) (child : Tree)
    (later : List Tree) :
    (((frame.moveTo state).attach child).attachAll later).tree =
      (frame.attachAll (child :: later)).tree := by
  rw [attachAll_cons, tree_attachAll, tree_attachAll]
  rfl

end Frame

namespace Session

variable {grammar : Grammar} {tree : Tree} {rest : List Token}

/-! ## What the derivation says about the stack -/

/-- The rules below the innermost one will make the tree of the subtree that it becomes. -/
inductive Awaits (grammar : Grammar) (tree : Tree) (rest : List Token) :
    List Frame → Tree → List Token → Prop
  | root : Awaits grammar tree rest [] tree rest
  | parent {parent : Frame} {below : List Frame} {subtree : Tree} {children : List Tree}
      {symbol : SymbolId} {last : Nat} {input middle : List Token} :
      grammar.automaton? symbol = some parent.automaton →
      Derives grammar parent.automaton parent.state input children last middle →
      grammar.Ends parent.automaton last middle →
      Awaits grammar tree rest below ((parent.attach subtree).attachAll children).tree middle →
      Awaits grammar tree rest (parent :: below) subtree input

/-- The innermost rule will get the given subtrees and end, and then the rules below will
make the tree. -/
structure HeadsFor (grammar : Grammar) (tree : Tree) (rest : List Token) (frame : Frame)
    (below : List Frame) (input : List Token) (children : List Tree) : Prop where
  known : ∃ symbol, grammar.automaton? symbol = some frame.automaton
  derived : ∃ last middle,
    Derives grammar frame.automaton frame.state input children last middle ∧
      grammar.Ends frame.automaton last middle ∧
      Awaits grammar tree rest below (frame.attachAll children).tree middle

/-- A session will make the tree, or it has made it and skips what is left. -/
def Destined (grammar : Grammar) (tree : Tree) (rest : List Token) (session : Session)
    (input : List Token) : Prop :=
  match session.stack with
  | [] => session.root = some tree ∧ ∃ skipped, rest = skipped ++ input
  | frame :: below => ∃ children, HeadsFor grammar tree rest frame below input children

section Steps

variable {session : Session} {frame parent : Frame} {below : List Frame} {token : Token}
  {input later : List Token} {children : List Tree}

/-! ## Ending a rule -/

theorem HeadsFor.attach
    (headsFor : HeadsFor grammar tree rest frame (parent :: below) input []) :
    ∃ children, HeadsFor grammar tree rest (parent.attach frame.tree) below input children := by
  obtain ⟨last, middle, derives, _, awaits⟩ := headsFor.derived
  cases derives with
  | refl =>
      cases awaits with
      | parent found derives ends awaits =>
          exact ⟨_, ⟨_, found⟩, _, _, derives, ends, awaits⟩

theorem HeadsFor.complete (headsFor : HeadsFor grammar tree rest frame [] input []) :
    frame.tree = tree ∧ rest = input := by
  obtain ⟨last, middle, derives, _, awaits⟩ := headsFor.derived
  cases derives with
  | refl =>
      cases awaits with
      | root => exact ⟨rfl, rfl⟩

theorem HeadsFor.eq_nil_of_isFinished
    (headsFor : HeadsFor grammar tree rest frame below input children)
    (finished : frame.isFinished = true) : children = [] := by
  obtain ⟨_, arcs_eq⟩ := frame.isFinished_iff.mp finished
  obtain ⟨last, middle, derives, _⟩ := headsFor.derived
  cases derives with
  | refl => rfl
  | token isArc =>
      rw [arcs_eq] at isArc
      cases isArc
  | rule _ isArc =>
      rw [arcs_eq] at isArc
      cases isArc

theorem HeadsFor.isFinished_of_nil (predictive : Predictive grammar)
    (headsFor : HeadsFor grammar tree rest frame below [] children) :
    frame.isFinished = true := by
  obtain ⟨symbol, found⟩ := headsFor.known
  obtain ⟨last, middle, derives, ends, _⟩ := headsFor.derived
  have isEmpty : children = [] := by
    by_contra notEmpty
    obtain ⟨token, later, impossible, _⟩ := predictive.exists_answer found derives notEmpty
    cases impossible
  subst isEmpty
  cases derives with
  | refl => exact frame.isFinished_iff.mpr ⟨ends.accepting, ends.blocked⟩

theorem HeadsFor.settle (predictive : Predictive grammar) (root : Option Tree)
    (headsFor : HeadsFor grammar tree rest frame below input children) :
    Destined grammar tree rest (settle root frame below) input ∧
      (input = [] → (settle root frame below).stack = []) := by
  induction below generalizing frame children with
  | nil =>
      unfold Session.settle
      split
      · rename_i finished
        obtain rfl := headsFor.eq_nil_of_isFinished finished
        obtain ⟨tree_eq, rest_eq⟩ := headsFor.complete
        exact ⟨⟨congrArg some tree_eq, [], rest_eq⟩, fun _ => rfl⟩
      · rename_i notFinished
        refine ⟨⟨children, headsFor⟩, ?_⟩
        rintro rfl
        exact absurd (headsFor.isFinished_of_nil predictive) notFinished
  | cons parent below inductionHypothesis =>
      unfold Session.settle
      split
      · rename_i finished
        obtain rfl := headsFor.eq_nil_of_isFinished finished
        obtain ⟨parentChildren, parentHeads⟩ := headsFor.attach
        exact inductionHypothesis parentHeads
      · rename_i notFinished
        refine ⟨⟨children, headsFor⟩, ?_⟩
        rintro rfl
        exact absurd (headsFor.isFinished_of_nil predictive) notFinished

/-! ## The move of the derivation -/

variable {automaton sub : RuleAutomaton} {symbol : SymbolId} {state : Nat} {arc : Arc}
  {label : LabelId}

theorem exists_takes_of_answers (predictive : Predictive grammar)
    (found : grammar.automaton? symbol = some automaton)
    (isArc : arc ∈ automaton.arcsAt state) (isCandidate : label ∈ grammar.classify token)
    (answers : grammar.Answers arc label) :
    ∃ move, findMove? grammar automaton state (grammar.classify token) = some move ∧
      ∃ other ∈ grammar.classify token, Takes grammar other arc move := by
  have faithful := predictive.faithful symbol automaton found
  cases moves : findMove? grammar automaton state (grammar.classify token) with
  | none =>
      have noAnswer := not_answers_of_findMove?_eq_none faithful moves
      exact absurd answers (noAnswer arc isArc label isCandidate)
  | some move =>
      obtain ⟨other, isOther, otherArc, isOtherArc, takes⟩ :=
        exists_takes_of_findMove? faithful moves
      obtain rfl := predictive.unique symbol automaton found state arc isArc otherArc isOtherArc
        token label isCandidate other isOther answers takes.answers
      exact ⟨move, rfl, other, isOther, takes⟩

theorem findMove?_of_candidate (predictive : Predictive grammar)
    (found : grammar.automaton? symbol = some automaton)
    (isArc : arc ∈ automaton.arcsAt state)
    (isCandidate : arc.label ∈ grammar.classify token) :
    findMove? grammar automaton state (grammar.classify token) = some (.shift arc.target) := by
  obtain ⟨move, moves, other, isOther, takes⟩ :=
    exists_takes_of_answers predictive found isArc isCandidate (.inl rfl)
  cases takes with
  | shift target => exact moves
  | descend isSub _ =>
      rw [predictive.terminal token arc.label isCandidate] at isSub
      cases isSub

theorem findMove?_of_sub (predictive : Predictive grammar)
    (found : grammar.automaton? symbol = some automaton)
    (isArc : arc ∈ automaton.arcsAt state)
    (isSub : grammar.subAutomaton? arc.label = some sub)
    (isCandidate : label ∈ grammar.classify token) (answers : grammar.Answers arc label) :
    findMove? grammar automaton state (grammar.classify token) =
      some (.descend arc.target sub) := by
  obtain ⟨move, moves, other, isOther, takes⟩ :=
    exists_takes_of_answers predictive found isArc isCandidate answers
  cases takes with
  | shift target =>
      rw [predictive.terminal token other isOther] at isSub
      cases isSub
  | descend isSame _ =>
      rw [moves, Option.some.inj (isSub.symm.trans isSame)]

/-! ## Steps -/

/-- What a step does when the derivation has the given subtrees next. -/
inductive Follows (grammar : Grammar) (tree : Tree) (rest : List Token) (session : Session)
    (frame : Frame) (below : List Frame) (token : Token) (later : List Token) :
    List Tree → Step → Prop
  | pop : Follows grammar tree rest session frame below token later [] (.popped session.pop)
  | shift {child : Tree} {remaining : List Tree} {target : Nat} :
      HeadsFor grammar tree rest ((frame.moveTo target).attach (.ofToken token)) below later
        remaining →
      Follows grammar tree rest session frame below token later (child :: remaining)
        (.stopped
          (.ok (settle session.root ((frame.moveTo target).attach (.ofToken token))
            below).stack.isEmpty)
          (settle session.root ((frame.moveTo target).attach (.ofToken token)) below))
  | push {child : Tree} {remaining inner : List Tree} {arc : Arc} {symbol : SymbolId}
      {sub : RuleAutomaton} :
      arc ∈ frame.automaton.arcsAt frame.state →
      grammar.labelTable.get? arc.label = some (.rule symbol) →
      grammar.automaton? symbol = some sub → inner ≠ [] →
      HeadsFor grammar tree rest (.enter sub token.position) (frame.moveTo arc.target :: below)
        (token :: later) inner →
      Follows grammar tree rest session frame below token later (child :: remaining)
        (.pushed { session with
          stack := .enter sub token.position :: frame.moveTo arc.target :: below })

theorem follows_step (predictive : Predictive grammar)
    (stack_eq : session.stack = frame :: below)
    (headsFor : HeadsFor grammar tree rest frame below (token :: later) children) :
    Follows grammar tree rest session frame below token later children
      (step grammar token (grammar.classify token) session) := by
  obtain ⟨symbol, found⟩ := headsFor.known
  have faithful := predictive.faithful symbol _ found
  obtain ⟨last, middle, derives, ends, awaits⟩ := headsFor.derived
  cases derives with
  | refl =>
      have noMove := (findMove?_eq_none_iff faithful).mpr ends.blocked
      have accepting : frame.isAccepting = true := (faithful.accepting frame.state).mpr
        ends.accepting
      simp only [step, stack_eq, noMove, accepting, if_true]
      exact .pop
  | token isArc isCandidate derives =>
      have moves := findMove?_of_candidate predictive found isArc isCandidate
      simp only [step, stack_eq, moves]
      refine .shift ⟨⟨symbol, found⟩, last, middle, derives, ends, ?_⟩
      rw [Frame.tree_attachAll_moveTo]
      exact awaits
  | @rule _ sub _ _ innerLast _ innerMiddle _ inner remaining arc subSymbol entry isArc isRule
      subFound innerDerives innerEnds derives =>
      have isSub := subAutomaton?_eq_some.mpr ⟨subSymbol, isRule, subFound⟩
      have notEmpty := predictive.inner_ne_nil found isArc isSub innerDerives innerEnds
      obtain ⟨_, _, input_eq, label, isCandidate, answers⟩ :=
        predictive.announced found isArc isRule subFound innerDerives innerEnds
      cases input_eq
      have moves := findMove?_of_sub predictive found isArc isSub isCandidate answers
      simp only [step, stack_eq, moves]
      -- The branch stands at its first subtree, wherever the rule was entered.
      have subtree_eq : ((Frame.enter sub token.position).attachAll inner).tree =
          .branch subSymbol (Tree.placeOf entry inner) inner := by
        rw [Frame.tree_attachAll_enter, predictive.symbol subSymbol sub subFound]
        cases inner with
        | nil => exact absurd rfl notEmpty
        | cons child others => rfl
      have lower : Awaits grammar tree rest (frame.moveTo arc.target :: below)
          ((Frame.enter sub token.position).attachAll inner).tree innerMiddle := by
        refine .parent found derives ends ?_
        rw [Frame.tree_attachAll_moveTo, subtree_eq]
        exact awaits
      exact .push isArc isRule subFound notEmpty
        ⟨⟨subSymbol, subFound⟩, innerLast, innerMiddle, innerDerives, innerEnds, lower⟩

/-- The number of steps that is left suffices for the rules that can be entered next. -/
structure Budget (grammar : Grammar) (rank : SymbolId → Nat) (frame : Frame) (count : Nat) :
    Prop where
  positive : 0 < count
  ranks : ∀ arc ∈ frame.automaton.arcsAt frame.state, ∀ symbol sub,
    grammar.labelTable.get? arc.label = some (.rule symbol) →
    grammar.automaton? symbol = some sub → rank symbol + 1 < count

theorem budget_of_lt {rank : SymbolId → Nat}
    (bounded : ∀ symbol automaton, grammar.automaton? symbol = some automaton →
      rank symbol < grammar.automata.length)
    {count : Nat} (enough : grammar.automata.length < count) : Budget grammar rank frame count where
  positive := by omega
  ranks := by
    intro arc _ symbol sub _ found
    have below := bounded symbol sub found
    omega

/-- A session without rules skips an end marker. -/
theorem run_of_stack_eq_nil (stack_eq : session.stack = []) {count : Nat}
    (positive : 0 < count) (isMarker : token.kind = grammar.endMarker) :
    run grammar token (grammar.classify token) count session = (.ok true, session) := by
  cases count with
  | zero => exact absurd positive (Nat.lt_irrefl 0)
  | succ count => simp only [run, step, stack_eq, isMarker, if_true]

theorem run_of_headsFor (predictive : Predictive grammar) {rank : SymbolId → Nat}
    (bounded : ∀ symbol automaton, grammar.automaton? symbol = some automaton →
      rank symbol < grammar.automata.length)
    (descending : ∀ symbol automaton arc subSymbol sub,
      grammar.automaton? symbol = some automaton → arc ∈ automaton.arcsAt 0 →
      grammar.labelTable.get? arc.label = some (.rule subSymbol) →
      grammar.automaton? subSymbol = some sub → rank subSymbol < rank symbol)
    (areMarkers : ∀ token ∈ rest, token.kind = grammar.endMarker) {count : Nat}
    (stack_eq : session.stack = frame :: below)
    (headsFor : HeadsFor grammar tree rest frame below (token :: later) children)
    (budget : Budget grammar rank frame count)
    (enough : children = [] → (frame :: below).length + grammar.automata.length < count) :
    ∃ final, run grammar token (grammar.classify token) count session =
        (.ok final.stack.isEmpty, final) ∧
      Destined grammar tree rest final later ∧ (later = [] → final.stack = []) := by
  induction count generalizing session frame below children with
  | zero => exact absurd budget.positive (Nat.lt_irrefl 0)
  | succ count inductionHypothesis =>
      have follows := follows_step predictive stack_eq headsFor
      unfold run
      generalize step grammar token (grammar.classify token) session = stepped at follows
      cases follows with
      | pop =>
          have left := enough rfl
          cases below with
          | nil =>
              obtain ⟨tree_eq, rfl⟩ := headsFor.complete
              have pop_eq : session.pop = { stack := [], root := some frame.tree } := by
                simp only [pop, stack_eq]
              have isMarker := areMarkers token (.head later)
              simp only [List.length_cons, List.length_nil] at left
              refine ⟨session.pop, ?_, ?_, fun _ => by rw [pop_eq]⟩
              · simp only [pop_eq]
                exact run_of_stack_eq_nil rfl (by omega) isMarker
              · rw [pop_eq]
                exact ⟨congrArg some tree_eq, [token], rfl⟩
          | cons parent below =>
              obtain ⟨parentChildren, parentHeads⟩ := headsFor.attach
              have pop_eq : session.pop.stack = parent.attach frame.tree :: below := by
                simp only [pop, stack_eq]
              simp only [List.length_cons] at left
              have parentBudget :
                  Budget grammar rank (parent.attach frame.tree) count :=
                budget_of_lt bounded (by omega)
              refine inductionHypothesis pop_eq parentHeads parentBudget ?_
              intro _
              simp only [List.length_cons]
              omega
      | shift shifted =>
          exact ⟨_, rfl, shifted.settle predictive session.root⟩
      | @push _ _ inner arc symbol sub isArc isRule subFound notEmpty pushed =>
          have left := budget.ranks arc isArc symbol sub isRule subFound
          have subBudget : Budget grammar rank (.enter sub token.position) count := by
            refine ⟨by omega, ?_⟩
            intro subArc isSubArc lower lowerSub isLowerRule lowerFound
            have below := descending symbol sub subArc lower lowerSub subFound isSubArc
              isLowerRule lowerFound
            omega
          exact inductionHypothesis rfl pushed subBudget fun isEmpty => absurd isEmpty notEmpty

theorem destined_of_skip (stack_eq : session.stack = [])
    (destined : Destined grammar tree rest session (token :: later)) :
    Destined grammar tree rest session later := by
  simp only [Destined, stack_eq] at destined ⊢
  obtain ⟨root_eq, skipped, rest_eq⟩ := destined
  exact ⟨root_eq, skipped ++ [token], by rw [rest_eq, List.append_assoc, List.singleton_append]⟩

/-! ## Whole inputs -/

theorem feed_of_destined (predictive : Predictive grammar)
    (areMarkers : ∀ token ∈ rest, token.kind = grammar.endMarker)
    (destined : Destined grammar tree rest session (token :: later)) :
    ∃ final, feed grammar session token = (.ok final.stack.isEmpty, final) ∧
      Destined grammar tree rest final later ∧ (later = [] → final.stack = []) := by
  cases stack_eq : session.stack with
  | nil =>
      have skips := destined_of_skip stack_eq destined
      refine ⟨session, ?_, skips, fun _ => stack_eq⟩
      simp only [Destined, stack_eq] at destined
      obtain ⟨_, skipped, rfl⟩ := destined
      have isMarker := areMarkers token (List.mem_append_right _ (.head later))
      rw [stack_eq]
      exact run_of_stack_eq_nil stack_eq (Nat.succ_pos _) isMarker
  | cons frame below =>
      simp only [Destined, stack_eq] at destined
      obtain ⟨children, headsFor⟩ := destined
      obtain ⟨rank, bounded, descending⟩ := predictive.ranked
      have enough : (frame :: below).length + grammar.automata.length <
          stepBound grammar session := by
        rw [stepBound, stack_eq]
        exact Nat.lt_succ_self _
      have budget : Budget grammar rank frame (stepBound grammar session) :=
        budget_of_lt bounded (by omega)
      exact run_of_headsFor predictive bounded descending areMarkers stack_eq headsFor budget
        fun _ => enough

theorem feedAll_of_destined (predictive : Predictive grammar)
    (areMarkers : ∀ token ∈ rest, token.kind = grammar.endMarker)
    {tokens behind : List Token} (progress : Progress)
    (destined : Destined grammar tree rest progress.session (tokens ++ behind))
    (isDone_eq : progress.isDone = progress.session.stack.isEmpty) :
    match tokens.find? (fun token => token.endPosition?.isNone) with
    | some token => feedAll grammar progress tokens = .error (.outOfColumns token)
    | none => ∃ final, feedAll grammar progress tokens = .ok final ∧
        Destined grammar tree rest final.session behind ∧
        final.isDone = final.session.stack.isEmpty := by
  induction tokens generalizing progress with
  | nil => exact ⟨progress, rfl, destined, isDone_eq⟩
  | cons token later inductionHypothesis =>
      unfold feedAll
      cases isFinish : token.endPosition? with
      | none => simp [isFinish]
      | some finish =>
          obtain ⟨final, fed, finalDestined, _⟩ :=
            feed_of_destined predictive areMarkers destined
          simp only [List.find?_cons, isFinish, Option.isNone_some, fed]
          exact inductionHypothesis _ finalDestined rfl

theorem finishInput_of_destined (predictive : Predictive grammar)
    (areMarkers : ∀ token ∈ rest, token.kind = grammar.endMarker) {progress : Progress}
    (destined : Destined grammar tree rest progress.session
      [.endMarkerAt grammar.endMarker progress.finish])
    (isDone_eq : progress.isDone = progress.session.stack.isEmpty) :
    ∃ final, finishInput grammar progress = .ok final ∧ final.root = some tree := by
  have root_of_nil : ∀ {session : Session} {input : List Token}, session.stack = [] →
      Destined grammar tree rest session input → session.root = some tree := by
    intro session input stack_eq destined
    simp only [Destined, stack_eq] at destined
    exact destined.1
  unfold finishInput
  split
  · rename_i isDone
    rw [isDone_eq, List.isEmpty_iff] at isDone
    exact ⟨progress.session, rfl, root_of_nil isDone destined⟩
  · obtain ⟨final, fed, finalDestined, isLast⟩ :=
      feed_of_destined predictive areMarkers destined
    have stack_eq := isLast rfl
    rw [stack_eq] at fed
    simp only [fed, List.isEmpty_nil]
    exact ⟨final, rfl, root_of_nil stack_eq finalDestined⟩

end Steps

end Session

open Session

variable {rules : List Rule} {vocabulary : Vocabulary} {grammar : Grammar}
  {start : SymbolId} {tokens : List Token} {tree : Tree}

theorem parse_of_isParse (predictive : Predictive grammar)
    (isParse : IsParse grammar start tokens tree) :
    parse grammar start tokens =
      match tokens.find? (fun token => token.endPosition?.isNone) with
      | some token => .error (.outOfColumns token)
      | none => .ok tree := by
  cases isParse with
  | @intro automaton children last rest found derives ends areMarkers =>
      have tree_eq : ((Frame.enter automaton ⟨0, 0⟩).attachAll children).tree =
          .branch start (Tree.placeOf ⟨0, 0⟩ children) children := by
        rw [Frame.tree_attachAll_enter, predictive.symbol start automaton found]
      have destined : Destined grammar
          (.branch start (Tree.placeOf ⟨0, 0⟩ children) children) rest (begin automaton)
          (grammar.closedInput tokens) := by
        refine ⟨children, ⟨start, found⟩, last, rest, derives, ends, ?_⟩
        rw [tree_eq]
        exact .root
      have fed := feedAll_of_destined predictive areMarkers
        { session := begin automaton, isDone := false, finish := ⟨1, 0⟩ } destined rfl
      simp only [parse, found, parseFrom]
      cases firstWide : tokens.find? (fun token => token.endPosition?.isNone) with
      | some token =>
          simp only [firstWide] at fed
          rw [fed]
      | none =>
          simp only [firstWide] at fed
          obtain ⟨final, fedAll, finalDestined, isDone_eq⟩ := fed
          rw [← finish_of_feedAll fedAll] at finalDestined
          obtain ⟨session, finished, root_eq⟩ :=
            finishInput_of_destined predictive areMarkers finalDestined isDone_eq
          simp only [fedAll, finished, root_eq]

/-- If ambiguity is refused and no token reaches beyond the last column, a parse gives the
derivation of the input, whatever it is.  The first token that does reach beyond it is
reported instead.  There is never a second derivation. -/
theorem parse_complete {startName : Option String}
    (built : build rules vocabulary startName .reject = .ok grammar)
    (isParse : IsParse grammar start tokens tree) :
    (parse grammar start tokens =
      match tokens.find? (fun token => token.endPosition?.isNone) with
      | some token => .error (.outOfColumns token)
      | none => .ok tree) ∧
      ∀ other, IsParse grammar start tokens other → other = tree := by
  obtain ⟨compiled, checked⟩ := compiled_of_build built
  have predictive := predictive_of_check compiled (checked rfl)
  refine ⟨parse_of_isParse predictive isParse, ?_⟩
  intro other isOther
  exact predictive.isParse_unique isParse isOther

/-- A list of items whose commas announce the next one. -/
def commaText : String := "list: item (',' item)* ENDMARKER\nitem: NAME ['=' NUMBER]\n"

/-- Two items, the first one with a value. -/
def commaTokens : List Token :=
  [⟨1, "x", ⟨1, 0⟩, ""⟩, ⟨5, "=", ⟨1, 2⟩, ""⟩, ⟨2, "3", ⟨1, 4⟩, ""⟩, ⟨5, ",", ⟨1, 5⟩, ""⟩,
    ⟨1, "y", ⟨1, 7⟩, ""⟩]

theorem parse_complete_commaTokens :
    ∃ rules grammar tree, build rules .mini none .reject = .ok grammar ∧
      IsParse grammar grammar.start commaTokens tree ∧
      parse grammar grammar.start commaTokens = .ok tree ∧
      ∀ other, IsParse grammar grammar.start commaTokens other → other = tree := by
  have succeeds : (compile commaText .mini none .reject).isOk = true := by
    decide +kernel
  have parses : (compile commaText .mini none .reject).map (fun grammar =>
      (parse grammar grammar.start commaTokens).isOk) = .ok true := by
    decide +kernel
  obtain ⟨grammar, compiled⟩ := exists_ok_of_isOk succeeds
  obtain ⟨rules, _, built⟩ := compile_eq_ok compiled
  rw [compiled] at parses
  obtain ⟨tree, parsed⟩ := exists_ok_of_isOk (Except.ok.inj parses)
  have isParse := isParse_of_parse (compiled_of_build built).1 parsed
  obtain ⟨parse_eq, isUnique⟩ := parse_complete built isParse
  have fits : commaTokens.find? (fun token => token.endPosition?.isNone) = none := by
    decide
  rw [fits] at parse_eq
  exact ⟨rules, grammar, tree, built, isParse, parse_eq, isUnique⟩

/-- A name and a string. -/
def pairText : String := "a: NAME STRING\n"

/-- A name at the last column and a string on the next line. -/
def pairTokens : List Token :=
  [⟨1, "x", ⟨1, 18446744073709551615⟩, ""⟩, ⟨3, "s", ⟨2, 0⟩, ""⟩]

theorem isParse_pairTokens {automaton : RuleAutomaton}
    (found : grammar.automaton? start = some automaton)
    (states_eq : automaton.states =
      [⟨[⟨0, 1⟩], false⟩, ⟨[⟨1, 2⟩], false⟩, ⟨[], true⟩])
    (candidates_eq : pairTokens.map grammar.classify = [[0], [1]]) :
    IsParse grammar start pairTokens
      (.branch start ⟨1, 18446744073709551615⟩ (pairTokens.map .ofToken)) := by
  obtain ⟨nameLabels, stringLabels⟩ := List.cons.inj candidates_eq
  obtain ⟨stringLabels, _⟩ := List.cons.inj stringLabels
  have nameArc : ⟨0, 1⟩ ∈ automaton.arcsAt 0 := by
    simp [RuleAutomaton.arcsAt, states_eq]
  have stringArc : ⟨1, 2⟩ ∈ automaton.arcsAt 1 := by
    simp [RuleAutomaton.arcsAt, states_eq]
  have noArcs : automaton.arcsAt 2 = [] := by
    simp [RuleAutomaton.arcsAt, states_eq]
  have accepting : Dfa.IsAccepting automaton.states 2 := by
    simp [Dfa.IsAccepting, states_eq]
  have input_eq : grammar.closedInput pairTokens =
      pairTokens ++ [.endMarkerAt grammar.endMarker ⟨2, 1⟩] := by
    rfl
  have derives : Derives grammar automaton 0 (grammar.closedInput pairTokens)
      (pairTokens.map .ofToken) 2 [.endMarkerAt grammar.endMarker ⟨2, 1⟩] := by
    rw [input_eq]
    refine .token nameArc ?_ (.token stringArc ?_ (.refl automaton 2 _))
    · rw [nameLabels]
      exact .head _
    · rw [stringLabels]
      exact .head _
  refine .intro found derives ⟨accepting, ?_⟩ ?_
  · intro arc isArc
    rw [noArcs] at isArc
    cases isArc
  · intro token member
    rw [List.mem_singleton.mp member]
    rfl

/-- No parse gives the derivation of an input with a token that reaches beyond the last
column. -/
theorem parse_ne_of_wide_token :
    ∃ rules grammar tree, build rules .mini none .reject = .ok grammar ∧
      IsParse grammar grammar.start pairTokens tree ∧
      parse grammar grammar.start pairTokens ≠ .ok tree := by
  have succeeds : (compile pairText .mini none .reject).isOk = true := by
    decide +kernel
  have contents : (compile pairText .mini none .reject).map (fun grammar =>
      (grammar.start, grammar.automata.map RuleAutomaton.states,
        pairTokens.map grammar.classify)) =
        .ok (256, [[⟨[⟨0, 1⟩], false⟩, ⟨[⟨1, 2⟩], false⟩, ⟨[], true⟩]], [[0], [1]]) := by
    decide +kernel
  obtain ⟨grammar, compiled⟩ := exists_ok_of_isOk succeeds
  obtain ⟨rules, _, built⟩ := compile_eq_ok compiled
  rw [compiled] at contents
  obtain ⟨start_eq, contents⟩ := Prod.mk.inj (Except.ok.inj contents)
  obtain ⟨automata_eq, candidates_eq⟩ := Prod.mk.inj contents
  obtain ⟨automaton, automata_eq, states_eq⟩ := List.map_eq_singleton_iff.mp automata_eq
  have found : grammar.automaton? grammar.start = some automaton := by
    rw [start_eq, automaton?, automata_eq]
    rfl
  refine ⟨rules, grammar, _, built, isParse_pairTokens found states_eq candidates_eq, ?_⟩
  intro parsed
  simp only [parse, found, parseFrom] at parsed
  cases parsed

end RuleMachine
