import RuleMachine.Proofs.GrammarShape
import RuleMachine.Proofs.ParseCompleteness

/-!
# What feeding a token does

A token is dealt with in one way only, whichever grammar was compiled and whatever
was fed before.  Rules end as long as they may and cannot take the token.  Then the
stack is empty, or the innermost rule is stuck, or it has a move; and once it has a
move, rules are entered until one of them shifts the token.  A rule is entered only
if it begins with a label of the token, so it has a move again, and its rank is lower
than that of the rule before.
-/

namespace RuleMachine

open Grammar

namespace Frame

variable {rules : List Rule} {vocabulary : Vocabulary} {grammar : Grammar} {token : Token}
  {frame : Frame}

/-- A rule of the grammar is being matched, and it is in one of its states. -/
structure Supported (grammar : Grammar) (frame : Frame) : Prop where
  known : ∃ symbol, grammar.automaton? symbol = some frame.automaton
  inRange : frame.state < frame.automaton.states.length

/-- Whether a rule ends in front of a token: it cannot take the token, and it may end. -/
def isClosedBy (grammar : Grammar) (token : Token) (frame : Frame) : Bool :=
  (Session.findMove? grammar frame.automaton frame.state (grammar.classify token)).isNone &&
    frame.isAccepting

theorem isClosedBy_attach (grammar : Grammar) (token : Token) (frame : Frame) (child : Tree) :
    (frame.attach child).isClosedBy grammar token = frame.isClosedBy grammar token :=
  rfl

theorem Supported.attach (supported : frame.Supported grammar) (child : Tree) :
    (frame.attach child).Supported grammar :=
  ⟨supported.known, supported.inRange⟩

theorem Supported.moveTo (compiled : Compiled rules vocabulary grammar)
    (supported : frame.Supported grammar) {arc : Arc}
    (isArc : arc ∈ frame.automaton.arcsAt frame.state) :
    (frame.moveTo arc.target).Supported grammar := by
  obtain ⟨symbol, found⟩ := supported.known
  refine ⟨supported.known, ?_⟩
  obtain ⟨rule, isOf⟩ := compiled.exists_automatonOf (getElem?_of_automaton? found)
  obtain ⟨state, isState, inState⟩ := RuleAutomaton.exists_mem_states_of_mem_arcsAt isArc
  exact isOf.wellFormed.inRange state isState arc inState

theorem Supported.enter (compiled : Compiled rules vocabulary grammar)
    {symbol : SymbolId} {automaton : RuleAutomaton}
    (found : grammar.automaton? symbol = some automaton) (position : Position) :
    (Frame.enter automaton position).Supported grammar := by
  obtain ⟨rule, isOf⟩ := compiled.exists_automatonOf (getElem?_of_automaton? found)
  exact ⟨⟨symbol, found⟩, isOf.wellFormed.nonempty⟩

theorem Supported.exists_takes (compiled : Compiled rules vocabulary grammar)
    (supported : frame.Supported grammar)
    {move : Session.Move}
    (moves : Session.findMove? grammar frame.automaton frame.state (grammar.classify token) =
      some move) :
    ∃ label ∈ grammar.classify token, ∃ arc ∈ frame.automaton.arcsAt frame.state,
      Session.Takes grammar label arc move := by
  obtain ⟨symbol, found⟩ := supported.known
  exact Session.exists_takes_of_findMove? (compiled.tableFaithful found) moves

/-- A rule that shifts a token is in one of its states again. -/
theorem Supported.shift (compiled : Compiled rules vocabulary grammar)
    (supported : frame.Supported grammar) {target : Nat}
    (moves : Session.findMove? grammar frame.automaton frame.state (grammar.classify token) =
      some (.shift target)) :
    (frame.moveTo target).Supported grammar := by
  obtain ⟨label, _, arc, isArc, takes⟩ := supported.exists_takes compiled moves
  cases takes with
  | shift => exact supported.moveTo compiled isArc

/-- A rule that descends is in one of its states again, and so is the rule that is entered. -/
theorem Supported.descend (compiled : Compiled rules vocabulary grammar)
    (supported : frame.Supported grammar) {target : Nat} {sub : RuleAutomaton}
    (moves : Session.findMove? grammar frame.automaton frame.state (grammar.classify token) =
      some (.descend target sub)) :
    (Frame.enter sub token.position).Supported grammar ∧
      (frame.moveTo target).Supported grammar := by
  obtain ⟨label, _, arc, isArc, takes⟩ := supported.exists_takes compiled moves
  cases takes with
  | descend isSub _ =>
      obtain ⟨symbol, _, found⟩ := subAutomaton?_eq_some.mp isSub
      exact ⟨.enter compiled found token.position, supported.moveTo compiled isArc⟩

end Frame

namespace Session

variable {grammar : Grammar} {token : Token} {session middle final : Session} {frame : Frame}
  {below : List Frame} {move : Move}

/-- Every rule on the stack is one of the grammar, in one of its states. -/
def Supported (grammar : Grammar) (session : Session) : Prop :=
  ∀ frame ∈ session.stack, frame.Supported grammar

/-- Whether every rule on the stack ends in front of a token. -/
def isClosedBy (grammar : Grammar) (token : Token) (session : Session) : Bool :=
  session.stack.all (Frame.isClosedBy grammar token)

/-! ## Ending rules -/

/-- Rules end in front of a token, one after the other. -/
inductive Closes (grammar : Grammar) (token : Token) : Session → Session → Prop
  | refl (session : Session) : Closes grammar token session session
  | pop {session final : Session} {frame : Frame} {below : List Frame} :
      session.stack = frame :: below → frame.isClosedBy grammar token = true →
      Closes grammar token session.pop final → Closes grammar token session final

/-- The rules below one that has ended, where its tree is given. -/
def stackBelow (subtree : Tree) : List Frame → List Frame
  | [] => []
  | parent :: below => parent.attach subtree :: below

theorem stack_pop (stack_eq : session.stack = frame :: below) :
    session.pop.stack = stackBelow frame.tree below := by
  cases below with
  | nil => simp only [pop, stack_eq, stackBelow]
  | cons parent below => simp only [pop, stack_eq, stackBelow]

theorem length_stackBelow (subtree : Tree) (below : List Frame) :
    (stackBelow subtree below).length = below.length := by
  cases below <;> rfl

theorem Supported.pop (supported : Supported grammar session)
    (stack_eq : session.stack = frame :: below) : Supported grammar session.pop := by
  rw [Supported, stack_eq] at supported
  rw [Supported, stack_pop stack_eq]
  cases below with
  | nil => simp [stackBelow]
  | cons parent below =>
      obtain ⟨_, belowSupported⟩ := List.forall_mem_cons.mp supported
      obtain ⟨parentSupported, lowerSupported⟩ := List.forall_mem_cons.mp belowSupported
      exact List.forall_mem_cons.mpr ⟨parentSupported.attach frame.tree, lowerSupported⟩

theorem Closes.supported (closes : Closes grammar token session final)
    (supported : Supported grammar session) : Supported grammar final := by
  induction closes with
  | refl => exact supported
  | pop stack_eq _ _ inductionHypothesis =>
      exact inductionHypothesis (supported.pop stack_eq)

/-- Ending a rule leaves open whether the rules below it end, too. -/
theorem Closes.isClosedBy_eq (closes : Closes grammar token session final) :
    session.isClosedBy grammar token = final.isClosedBy grammar token := by
  induction closes with
  | refl => rfl
  | @pop session final frame below stack_eq closed _ inductionHypothesis =>
      rw [← inductionHypothesis, isClosedBy, isClosedBy, stack_pop stack_eq, stack_eq]
      cases below with
      | nil => simp [stackBelow, closed]
      | cons parent below =>
          simp only [stackBelow, List.all_cons, closed, Frame.isClosedBy_attach, Bool.true_and]

/-! ## Shifting -/

/-- Rules are entered one inside the other, the last one of them shifts a token, and then
rules that are finished end. -/
inductive Shifts (grammar : Grammar) (token : Token) : Session → Session → Prop
  | shift {session : Session} {frame : Frame} {below : List Frame} {target : Nat} :
      session.stack = frame :: below →
      findMove? grammar frame.automaton frame.state (grammar.classify token) =
        some (.shift target) →
      Shifts grammar token session
        (settle session.root ((frame.moveTo target).attach (.ofToken token)) below)
  | push {session final : Session} {frame : Frame} {below : List Frame} {target : Nat}
      {sub : RuleAutomaton} :
      session.stack = frame :: below →
      findMove? grammar frame.automaton frame.state (grammar.classify token) =
        some (.descend target sub) →
      Shifts grammar token
        { session with stack := .enter sub token.position :: frame.moveTo target :: below } final →
      Shifts grammar token session final

section Compiled

variable {rules : List Rule} {vocabulary : Vocabulary}

theorem supported_settle (root : Option Tree) (supported : frame.Supported grammar)
    (belowSupported : ∀ lower ∈ below, lower.Supported grammar) :
    Supported grammar (settle root frame below) := by
  induction below generalizing frame with
  | nil =>
      unfold settle
      split
      · intro tested isTested
        cases isTested
      · intro tested isTested
        rw [List.mem_singleton.mp isTested]
        exact supported
  | cons parent below inductionHypothesis =>
      have parentSupported := belowSupported parent (.head below)
      unfold settle
      split
      · exact inductionHypothesis (parentSupported.attach frame.tree)
          fun lower isLower => belowSupported lower (.tail parent isLower)
      · exact List.forall_mem_cons.mpr ⟨supported, belowSupported⟩

theorem Shifts.supported (compiled : Compiled rules vocabulary grammar)
    (shifts : Shifts grammar token session final) (supported : Supported grammar session) :
    Supported grammar final := by
  induction shifts with
  | shift stack_eq moves =>
      rw [Supported, stack_eq] at supported
      obtain ⟨topSupported, belowSupported⟩ := List.forall_mem_cons.mp supported
      have moved := topSupported.shift compiled moves
      exact supported_settle _ (moved.attach (.ofToken token)) belowSupported
  | push stack_eq moves _ inductionHypothesis =>
      rw [Supported, stack_eq] at supported
      obtain ⟨topSupported, belowSupported⟩ := List.forall_mem_cons.mp supported
      obtain ⟨entered, moved⟩ := topSupported.descend compiled moves
      apply inductionHypothesis
      exact List.forall_mem_cons.mpr ⟨entered, List.forall_mem_cons.mpr ⟨moved, belowSupported⟩⟩

/-- A rule that begins with a label of a token has a move on the token. -/
theorem exists_findMove?_of_mem_first (compiled : Compiled rules vocabulary grammar)
    {symbol : SymbolId} {automaton : RuleAutomaton} {label : LabelId}
    (found : grammar.automaton? symbol = some automaton) (isFirst : label ∈ automaton.first)
    (isCandidate : label ∈ grammar.classify token) :
    ∃ move, findMove? grammar automaton 0 (grammar.classify token) = some move := by
  obtain ⟨arc, isArc, isReachable⟩ := (compiled.mem_first_iff found).mp isFirst
  have answers : grammar.Answers arc label := answers_of_mem_reachable isReachable
  cases moves : findMove? grammar automaton 0 (grammar.classify token) with
  | some move => exact ⟨move, rfl⟩
  | none =>
      have noAnswer := not_answers_of_findMove?_eq_none (compiled.tableFaithful found) moves
      exact absurd answers (noAnswer arc isArc label isCandidate)

/-! ## Runs -/

/-- Once the innermost rule has a move, the token is shifted. -/
theorem run_of_findMove? (compiled : Compiled rules vocabulary grammar)
    {rank : SymbolId → Nat}
    (descending : ∀ symbol automaton arc subSymbol sub,
      grammar.automaton? symbol = some automaton → arc ∈ automaton.arcsAt 0 →
      grammar.labelTable.get? arc.label = some (.rule subSymbol) →
      grammar.automaton? subSymbol = some sub → rank subSymbol < rank symbol)
    {count : Nat} (supported : frame.Supported grammar)
    (stack_eq : session.stack = frame :: below)
    (moves : findMove? grammar frame.automaton frame.state (grammar.classify token) =
      some move)
    (budget : Budget grammar rank frame count) :
    ∃ final, Shifts grammar token session final ∧
      run grammar token (grammar.classify token) count session =
        (.ok final.stack.isEmpty, final) := by
  induction count generalizing session frame below move with
  | zero => exact absurd budget.positive (Nat.lt_irrefl 0)
  | succ count inductionHypothesis =>
      obtain ⟨label, isCandidate, arc, isArc, takes⟩ := supported.exists_takes compiled moves
      cases takes with
      | shift target =>
          refine ⟨_, .shift stack_eq moves, ?_⟩
          simp only [run, step, stack_eq, moves]
      | @descend _ sub isSub isFirst =>
          obtain ⟨symbol, isRule, found⟩ := subAutomaton?_eq_some.mp isSub
          have left := budget.ranks arc isArc symbol sub isRule found
          have entered := Frame.Supported.enter compiled found token.position
          have subBudget : Budget grammar rank (.enter sub token.position) count := by
            refine ⟨by omega, ?_⟩
            intro subArc isSubArc lower lowerSub isLowerRule lowerFound
            have below := descending symbol sub subArc lower lowerSub found isSubArc
              isLowerRule lowerFound
            omega
          obtain ⟨subMove, subMoves⟩ :=
            exists_findMove?_of_mem_first compiled found isFirst isCandidate
          let pushed : Session := { session with
            stack := .enter sub token.position :: frame.moveTo arc.target :: below }
          obtain ⟨final, shifts, ran⟩ :=
            inductionHypothesis entered (rfl : pushed.stack = _) subMoves subBudget
          refine ⟨final, .push stack_eq moves shifts, ?_⟩
          simp only [run, step, stack_eq, moves]
          exact ran

/-- How a token is dealt with once no more rules end. -/
inductive Outcome (grammar : Grammar) (token : Token) (session : Session) :
    Except ParseError Bool → Session → Prop
  | complete : session.stack = [] → token.kind = grammar.endMarker →
      Outcome grammar token session (.ok true) session
  | beyond : session.stack = [] → token.kind ≠ grammar.endMarker →
      Outcome grammar token session (.error (failure grammar session .tooMuchInput token)) session
  | stuck {frame : Frame} {below : List Frame} : session.stack = frame :: below →
      findMove? grammar frame.automaton frame.state (grammar.classify token) = none →
      frame.isAccepting = false →
      Outcome grammar token session
        (.error (failure grammar session (faultOf grammar token (grammar.classify token)) token))
        session
  | shifted {final : Session} : Shifts grammar token session final →
      Outcome grammar token session (.ok final.stack.isEmpty) final

theorem run_cases (compiled : Compiled rules vocabulary grammar) {count : Nat}
    (supported : Supported grammar session)
    (enough : session.stack.length + grammar.automata.length < count) :
    ∃ middle, Closes grammar token session middle ∧
      Outcome grammar token middle
        (run grammar token (grammar.classify token) count session).1
        (run grammar token (grammar.classify token) count session).2 := by
  obtain ⟨rank, bounded, descending⟩ := compiled.exists_rank
  induction count generalizing session with
  | zero => exact absurd enough (Nat.not_lt_zero _)
  | succ count inductionHypothesis =>
      cases stack_eq : session.stack with
      | nil =>
          refine ⟨session, .refl session, ?_⟩
          by_cases isMarker : token.kind = grammar.endMarker
          · simp only [run, step, stack_eq, isMarker, if_true]
            exact .complete stack_eq isMarker
          · simp only [run, step, stack_eq, isMarker, if_false]
            exact .beyond stack_eq isMarker
      | cons frame below =>
          have topSupported : frame.Supported grammar :=
            supported frame (stack_eq ▸ .head below)
          rw [stack_eq, List.length_cons] at enough
          cases moves : findMove? grammar frame.automaton frame.state
              (grammar.classify token) with
          | some move =>
              have budget : Budget grammar rank frame (count + 1) :=
                budget_of_lt bounded (by omega)
              obtain ⟨final, shifts, ran⟩ :=
                run_of_findMove? compiled descending topSupported stack_eq moves budget
              rw [ran]
              exact ⟨session, .refl session, .shifted shifts⟩
          | none =>
              by_cases accepting : frame.isAccepting = true
              · have fewer : session.pop.stack.length + grammar.automata.length < count := by
                  rw [stack_pop stack_eq, length_stackBelow]
                  omega
                obtain ⟨middle, closes, outcome⟩ :=
                  inductionHypothesis (supported.pop stack_eq) fewer
                have closed : frame.isClosedBy grammar token = true := by
                  simp [Frame.isClosedBy, moves, accepting]
                refine ⟨middle, .pop stack_eq closed closes, ?_⟩
                simp only [run, step, stack_eq, moves, accepting, if_true]
                exact outcome
              · have refuses := Bool.eq_false_of_not_eq_true accepting
                refine ⟨session, .refl session, ?_⟩
                simp only [run, step, stack_eq, moves, refuses, Bool.false_eq_true, if_false]
                exact .stuck stack_eq moves refuses

/-- Feeding a token ends rules, and then there is nothing left, or the innermost rule is
stuck, or the token is shifted. -/
theorem feed_cases (compiled : Compiled rules vocabulary grammar)
    (supported : Supported grammar session) (token : Token) :
    ∃ middle, Closes grammar token session middle ∧
      Outcome grammar token middle (session.feed grammar token).1
        (session.feed grammar token).2 :=
  run_cases compiled supported (Nat.lt_succ_self _)

theorem Outcome.supported (compiled : Compiled rules vocabulary grammar)
    {answer : Except ParseError Bool} (outcome : Outcome grammar token session answer final)
    (supported : Supported grammar session) : Supported grammar final := by
  cases outcome with
  | complete | beyond | stuck => exact supported
  | shifted shifts => exact shifts.supported compiled supported

theorem Supported.feed (compiled : Compiled rules vocabulary grammar)
    (supported : Supported grammar session) (token : Token) :
    Supported grammar (session.feed grammar token).2 := by
  obtain ⟨middle, closes, outcome⟩ := feed_cases compiled supported token
  exact outcome.supported compiled (closes.supported supported)

theorem supported_begin (compiled : Compiled rules vocabulary grammar) {symbol : SymbolId}
    {automaton : RuleAutomaton} (found : grammar.automaton? symbol = some automaton) :
    Supported grammar (begin automaton) := by
  intro frame isFrame
  rw [List.mem_singleton.mp isFrame]
  exact Frame.Supported.enter compiled found ⟨0, 0⟩

end Compiled

end Session

end RuleMachine
