import RuleMachine.Proofs.CheckedCompilation
import RuleMachine.Proofs.TokenCalls

/-!
# Parsing without gaps

A parse follows the numbers of a grammar: candidates of a token to labels, arcs to rules,
states to rows of a table.  A rule on the stack is one of the grammar and it is in one of
its states, whatever was fed before, so each of these numbers leads somewhere.  And what
a rule has matched is a branch, to which subtrees can be added.
-/

namespace RuleMachine

open Grammar

namespace Checked

/-- A rule being matched, with the tree of what it has matched. -/
structure Frame where
  automaton : RuleAutomaton
  state : Nat
  tree : Tree

structure Session where
  stack : List Frame
  root : Option Tree

end Checked

/-- The same rule, with its tree. -/
def Frame.checked (frame : Frame) : Checked.Frame where
  automaton := frame.automaton
  state := frame.state
  tree := frame.tree

/-- The same parse, with the trees of its rules. -/
def Session.checked (session : Session) : Checked.Session where
  stack := session.stack.map Frame.checked
  root := session.root

namespace Checked

open RuleMachine.Session (Move)

/-! ## Moves -/

section Moves

variable (grammar : Grammar)

def operatorLabel? (token : Token) : Except Gap (Option LabelId) :=
  match grammar.labelTable.operatorIds.get? token.value with
  | none => .ok none
  | some number =>
      (get grammar.labels number).bind fun
        | .operator _ kind => .ok (if kind == token.kind then some number else none)
        | _ => .ok none

def classify (token : Token) : Except Gap (List LabelId) :=
  match grammar.keywordLabel? token with
  | some label => .ok [label]
  | none =>
      (operatorLabel? grammar token).bind fun operator =>
        .ok (operator.toList ++ (grammar.labelTable.tokenIds.get? token.kind).toList)

def descent? (label : LabelId) : List Arc → Except Gap (Option Move)
  | [] => .ok none
  | arc :: later =>
      (subAutomaton? grammar arc.label).bind fun
        | some sub =>
            if sub.couldMatch label then .ok (some (.descend arc.target sub))
            else descent? label later
        | none => descent? label later

def moveOn? (automaton : RuleAutomaton) (state : Nat) (label : LabelId) :
    Except Gap (Option Move) :=
  (lookup automaton.table state label).bind fun
    | some target => .ok (some (.shift target))
    | none =>
        (get automaton.states state).bind fun found => descent? grammar label found.arcs

def findMove? (automaton : RuleAutomaton) (state : Nat) :
    List LabelId → Except Gap (Option Move)
  | [] => .ok none
  | label :: later =>
      (moveOn? grammar automaton state label).bind fun
        | some move => .ok (some move)
        | none => findMove? automaton state later

/-- The terminal labels that arcs can begin with. -/
def reachableFrom : List Arc → Except Gap (List LabelId)
  | [] => .ok []
  | arc :: later =>
      (reachable grammar arc.label).bind fun terminals =>
        (reachableFrom later).bind fun others => .ok (terminals ++ others)

/-- The terminal labels that a state can go on with. -/
def expected (automaton : RuleAutomaton) (state : Nat) : Except Gap NatSet :=
  (get automaton.states state).bind fun found =>
    (reachableFrom grammar found.arcs).bind fun terminals => .ok (.ofList terminals)

variable {grammar} {rules : List Rule} {vocabulary : Vocabulary} {automaton : RuleAutomaton}
  {state : Nat} {label : LabelId}

theorem operatorLabel?_eq (indexed : grammar.labelTable.Indexed) (token : Token) :
    operatorLabel? grammar token = .ok (grammar.operatorLabel? token) := by
  unfold operatorLabel? Grammar.operatorLabel?
  cases found : grammar.labelTable.operatorIds.get? token.value with
  | none => rfl
  | some number =>
      obtain ⟨kind, isOperator⟩ := indexed.operator token.value number found
      have isLabel : grammar.labels[number]? = some (.operator token.value kind) := isOperator
      simp only [get_eq isLabel, bind_ok, Option.filter_some, isOperator]

theorem classify_eq (indexed : grammar.labelTable.Indexed) (token : Token) :
    classify grammar token = .ok (grammar.classify token) := by
  unfold classify Grammar.classify
  cases grammar.keywordLabel? token with
  | some label => rfl
  | none => simp only [operatorLabel?_eq indexed, bind_ok]

theorem descent?_eq {arcs : List Arc}
    (labelled : ∀ arc ∈ arcs, arc.label < grammar.labels.length) :
    descent? grammar label arcs = .ok (RuleMachine.Session.descent? grammar label arcs) := by
  induction arcs with
  | nil => rfl
  | cons arc later inductionHypothesis =>
      obtain ⟨arcLabelled, laterLabelled⟩ := List.forall_mem_cons.mp labelled
      have later_eq := inductionHypothesis laterLabelled
      rw [descent?, subAutomaton?_eq arcLabelled, bind_ok, RuleMachine.Session.descent?,
        List.findSome?_cons]
      cases grammar.subAutomaton? arc.label with
      | none => exact later_eq
      | some sub =>
          by_cases begins : sub.couldMatch label = true
          · simp only [begins, if_true]
          · simp only [begins]
            exact later_eq

theorem reachableFrom_eq {arcs : List Arc}
    (labelled : ∀ arc ∈ arcs, arc.label < grammar.labels.length) :
    reachableFrom grammar arcs = .ok (arcs.flatMap fun arc => grammar.reachable arc.label) := by
  induction arcs with
  | nil => rfl
  | cons arc later inductionHypothesis =>
      obtain ⟨arcLabelled, laterLabelled⟩ := List.forall_mem_cons.mp labelled
      rw [reachableFrom, reachable_eq arcLabelled, bind_ok, inductionHypothesis laterLabelled,
        bind_ok, List.flatMap_cons]

/-- A state of a compiled rule is found, and its arcs have labels. -/
theorem exists_state (compiled : Compiled rules vocabulary grammar)
    (isAutomaton : automaton ∈ grammar.automata) (inRange : state < automaton.states.length) :
    ∃ found, automaton.states[state]? = some found ∧ automaton.arcsAt state = found.arcs ∧
      ∀ arc ∈ found.arcs, arc.label < grammar.labels.length := by
  have isState := List.getElem?_eq_getElem inRange
  refine ⟨automaton.states[state], isState, ?_, ?_⟩
  · rw [RuleAutomaton.arcsAt, isState]
  · intro arc isArc
    exact (compiled.arcInRange isAutomaton (List.getElem_mem inRange) isArc).label

theorem lookup_table_eq (compiled : Compiled rules vocabulary grammar)
    (isAutomaton : automaton ∈ grammar.automata) (inRange : state < automaton.states.length) :
    lookup automaton.table state label = .ok (automaton.transition state label) := by
  obtain ⟨index, isIndexed⟩ := List.mem_iff_getElem?.mp isAutomaton
  obtain ⟨rule, isOf⟩ := compiled.exists_automatonOf isIndexed
  have hasRow : state < (automaton.states.map State.transitions).length := by
    rw [List.length_map]
    exact inRange
  rw [RuleAutomaton.transition, isOf.table_eq]
  exact lookup_eq hasRow label

theorem moveOn?_eq (compiled : Compiled rules vocabulary grammar)
    (isAutomaton : automaton ∈ grammar.automata) (inRange : state < automaton.states.length) :
    moveOn? grammar automaton state label =
      .ok (RuleMachine.Session.moveOn? grammar automaton state label) := by
  obtain ⟨found, isState, arcs_eq, labelled⟩ := exists_state compiled isAutomaton inRange
  rw [moveOn?, RuleMachine.Session.moveOn?, lookup_table_eq compiled isAutomaton inRange,
    bind_ok]
  cases automaton.transition state label with
  | some target => rfl
  | none =>
      simp only [get_eq isState, bind_ok, arcs_eq]
      exact descent?_eq labelled

theorem findMove?_eq (compiled : Compiled rules vocabulary grammar)
    (isAutomaton : automaton ∈ grammar.automata) (inRange : state < automaton.states.length)
    (candidates : List LabelId) :
    findMove? grammar automaton state candidates =
      .ok (RuleMachine.Session.findMove? grammar automaton state candidates) := by
  induction candidates with
  | nil => rfl
  | cons label later inductionHypothesis =>
      rw [findMove?, moveOn?_eq compiled isAutomaton inRange, bind_ok,
        RuleMachine.Session.findMove?, List.findSome?_cons]
      cases RuleMachine.Session.moveOn? grammar automaton state label with
      | some move => rfl
      | none => exact inductionHypothesis

theorem expected_eq (compiled : Compiled rules vocabulary grammar)
    (isAutomaton : automaton ∈ grammar.automata) (inRange : state < automaton.states.length) :
    expected grammar automaton state =
      .ok (.ofList ((automaton.arcsAt state).flatMap fun arc =>
        grammar.reachable arc.label)) := by
  obtain ⟨found, isState, arcs_eq, labelled⟩ := exists_state compiled isAutomaton inRange
  rw [expected, get_eq isState, bind_ok, reachableFrom_eq labelled, bind_ok, arcs_eq]

end Moves

/-! ## Steps -/

section Steps

variable (grammar : Grammar)

/-- Append a subtree to what a rule has matched, which must not be a token. -/
def attach (frame : Frame) (child : Tree) : Except Gap Frame :=
  match frame.tree with
  | .branch symbol position children =>
      .ok { frame with
        tree := .branch symbol (if children.isEmpty then child.position else position)
          (children ++ [child]) }
  | .leaf _ _ _ => .error .leafChild

def isAccepting (frame : Frame) : Except Gap Bool :=
  get frame.automaton.table.accepts frame.state

def isFinished (frame : Frame) : Except Gap Bool :=
  (get frame.automaton.states frame.state).bind fun found =>
    .ok (found.accepting && found.arcs.isEmpty)

def pop (session : Session) : Except Gap Session :=
  match session.stack with
  | [] => .ok session
  | [frame] => .ok { stack := [], root := some frame.tree }
  | frame :: parent :: below =>
      (attach parent frame.tree).bind fun grown =>
        .ok { session with stack := grown :: below }

def settle (root : Option Tree) (frame : Frame) : List Frame → Except Gap Session
  | [] =>
      (isFinished frame).bind fun finished =>
        .ok (if finished then { stack := [], root := some frame.tree }
          else { stack := [frame], root })
  | parent :: below =>
      (isFinished frame).bind fun finished =>
        if finished then
          (attach parent frame.tree).bind fun grown => settle root grown below
        else
          .ok { stack := frame :: parent :: below, root }

def failure (session : Session) (fault : ParseFault) (token : Token) : Except Gap ParseError :=
  match session.stack with
  | [] => .ok { fault, token, expected := .empty, accepting := true }
  | frame :: _ =>
      (expected grammar frame.automaton frame.state).bind fun expected =>
        (isAccepting frame).bind fun accepting => .ok { fault, token, expected, accepting }

/-- One step on a token with the given candidate labels: there is more to do in a session,
or there is an answer. -/
def step (token : Token) (candidates : List LabelId) (session : Session) :
    Except Gap (Session ⊕ (Except ParseError Bool × Session)) :=
  match session.stack with
  | [] =>
      if token.kind = grammar.endMarker then
        .ok (.inr (.ok true, session))
      else
        (failure grammar session .tooMuchInput token).bind fun error =>
          .ok (.inr (.error error, session))
  | frame :: below =>
      (findMove? grammar frame.automaton frame.state candidates).bind fun
        | some (.shift target) =>
            (attach { frame with state := target } (.ofToken token)).bind fun grown =>
              (settle session.root grown below).bind fun settled =>
                .ok (.inr (.ok settled.stack.isEmpty, settled))
        | some (.descend target sub) =>
            let entered : Frame :=
              { automaton := sub, state := 0, tree := .branch sub.symbol token.position [] }
            .ok (.inl
              { session with stack := entered :: { frame with state := target } :: below })
        | none =>
            (isAccepting frame).bind fun accepting =>
              if accepting then
                (pop session).bind fun popped => .ok (.inl popped)
              else
                (failure grammar session
                  (RuleMachine.Session.faultOf grammar token candidates) token).bind fun error =>
                  .ok (.inr (.error error, session))

def run (token : Token) (candidates : List LabelId) :
    Nat → Session → Except Gap (Except ParseError Bool × Session)
  | 0, session =>
      (failure grammar session (RuleMachine.Session.faultOf grammar token candidates) token).bind
        fun error => .ok (.error error, session)
  | count + 1, session =>
      (step grammar token candidates session).bind fun
        | .inl next => run token candidates count next
        | .inr answered => .ok answered

/-- Feed a token, in at most `count` steps. -/
def feedWithin (count : Nat) (session : Session) (token : Token) :
    Except Gap (Except ParseError Bool × Session) :=
  (classify grammar token).bind fun candidates => run grammar token candidates count session

def feed (session : Session) (token : Token) : Except Gap (Except ParseError Bool × Session) :=
  feedWithin grammar (session.stack.length + grammar.automata.length + 1) session token

end Steps

section Supported

variable {grammar : Grammar} {rules : List Rule} {vocabulary : Vocabulary}
  {frame : RuleMachine.Frame} {below : List RuleMachine.Frame} {session : RuleMachine.Session}

/-- What one step leads to, with the trees of the rules. -/
def ofStep : RuleMachine.Session.Step → Session ⊕ (Except ParseError Bool × Session)
  | .popped next => .inl next.checked
  | .pushed next => .inl next.checked
  | .stopped answer final => .inr (answer, final.checked)

/-- An answer and the session behind it, with the trees of the rules. -/
def ofAnswer (answered : Except ParseError Bool × RuleMachine.Session) :
    Except ParseError Bool × Session :=
  (answered.1, answered.2.checked)

theorem attach_eq (frame : RuleMachine.Frame) (child : Tree) :
    attach frame.checked child = .ok (frame.attach child).checked :=
  rfl

example (automaton : RuleAutomaton) (child : Tree) :
    attach ⟨automaton, 0, .leaf 1 "x" ⟨1, 0⟩⟩ child = .error .leafChild :=
  rfl

theorem isAutomaton_of_supported (supported : frame.Supported grammar) :
    frame.automaton ∈ grammar.automata := by
  obtain ⟨symbol, found⟩ := supported.known
  exact mem_automata_of_automaton? found

theorem isAccepting_eq (compiled : Compiled rules vocabulary grammar)
    (supported : frame.Supported grammar) : isAccepting frame.checked = .ok frame.isAccepting :=
  get_eq (compiled.flag_eq (isAutomaton_of_supported supported) supported.inRange)

theorem isFinished_eq (supported : frame.Supported grammar) :
    isFinished frame.checked = .ok frame.isFinished := by
  have isState : frame.automaton.states[frame.state]? =
      some (frame.automaton.states.get ⟨frame.state, supported.inRange⟩) :=
    List.getElem?_eq_getElem supported.inRange
  have found_eq : get frame.checked.automaton.states frame.checked.state = .ok _ :=
    get_eq isState
  rw [isFinished, found_eq, bind_ok, Frame.isFinished, RuleAutomaton.isFinal, isState]

theorem pop_eq (session : RuleMachine.Session) :
    pop session.checked = .ok session.pop.checked := by
  obtain ⟨stack, root⟩ := session
  match stack with
  | [] => rfl
  | [frame] => rfl
  | frame :: parent :: below => rfl

theorem settle_eq (root : Option Tree) (supported : frame.Supported grammar)
    (belowSupported : ∀ lower ∈ below, lower.Supported grammar) :
    settle root frame.checked (below.map Frame.checked) =
      .ok (RuleMachine.Session.settle root frame below).checked := by
  induction below generalizing frame with
  | nil =>
      rw [List.map_nil, settle, isFinished_eq supported, bind_ok, RuleMachine.Session.settle]
      cases frame.isFinished <;> rfl
  | cons parent below inductionHypothesis =>
      obtain ⟨parentSupported, lowerSupported⟩ := List.forall_mem_cons.mp belowSupported
      have grown_eq : attach parent.checked frame.checked.tree =
          .ok (parent.attach frame.tree).checked := attach_eq parent frame.tree
      rw [List.map_cons, settle, isFinished_eq supported, bind_ok, RuleMachine.Session.settle]
      by_cases finished : frame.isFinished = true
      · rw [if_pos finished, if_pos finished, grown_eq, bind_ok]
        exact inductionHypothesis (parentSupported.attach frame.tree) lowerSupported
      · rw [if_neg finished, if_neg finished]
        rfl

theorem failure_eq (compiled : Compiled rules vocabulary grammar)
    (supported : session.Supported grammar) (fault : ParseFault) (token : Token) :
    failure grammar session.checked fault token =
      .ok (session.failure grammar fault token) := by
  obtain ⟨stack, root⟩ := session
  cases stack with
  | nil => rfl
  | cons frame below =>
      have topSupported : frame.Supported grammar := supported frame (.head below)
      have expected_frame : expected grammar frame.checked.automaton frame.checked.state =
          .ok (frame.expected grammar) :=
        expected_eq compiled (isAutomaton_of_supported topSupported) topSupported.inRange
      simp only [failure, RuleMachine.Session.checked, List.map_cons, expected_frame, bind_ok,
        isAccepting_eq compiled topSupported, RuleMachine.Session.failure]

theorem step_eq (compiled : Compiled rules vocabulary grammar)
    (supported : session.Supported grammar) (token : Token) :
    step grammar token (grammar.classify token) session.checked =
      .ok (ofStep (session.step grammar token (grammar.classify token))) := by
  have failure_eq := failure_eq compiled supported
  have pop_eq := pop_eq session
  obtain ⟨stack, root⟩ := session
  cases stack with
  | nil =>
      simp only [RuleMachine.Session.checked, List.map_nil] at failure_eq ⊢
      by_cases isMarker : token.kind = grammar.endMarker
      · simp only [step, RuleMachine.Session.step, isMarker, if_true]
        rfl
      · simp only [step, RuleMachine.Session.step, isMarker, if_false, failure_eq, bind_ok]
        rfl
  | cons frame below =>
      obtain ⟨topSupported, belowSupported⟩ := List.forall_mem_cons.mp supported
      have findMove?_frame : findMove? grammar frame.checked.automaton frame.checked.state
          (grammar.classify token) = .ok _ :=
        findMove?_eq compiled (isAutomaton_of_supported topSupported) topSupported.inRange _
      simp only [RuleMachine.Session.checked, List.map_cons] at failure_eq pop_eq ⊢
      simp only [step, RuleMachine.Session.step, findMove?_frame, bind_ok]
      cases moves : RuleMachine.Session.findMove? grammar frame.automaton frame.state
          (grammar.classify token) with
      | none =>
          simp only [isAccepting_eq compiled topSupported, bind_ok]
          by_cases accepting : frame.isAccepting = true
          · simp only [accepting, if_true, pop_eq, bind_ok]
            rfl
          · simp only [accepting, failure_eq, bind_ok]
            rfl
      | some move =>
          cases move with
          | descend target sub => rfl
          | shift target =>
              have moved := topSupported.shift compiled moves
              have grown_eq : attach { frame.checked with state := target } (.ofToken token) =
                  .ok ((frame.moveTo target).attach (.ofToken token)).checked :=
                attach_eq (frame.moveTo target) (.ofToken token)
              have settled_eq := settle_eq root (moved.attach (.ofToken token)) belowSupported
              simp only [grown_eq, settled_eq, bind_ok, ofStep, RuleMachine.Session.checked,
                List.isEmpty_map]

/-- A step that leaves more to do leaves a supported session. -/
theorem supported_of_step (compiled : Compiled rules vocabulary grammar)
    (supported : session.Supported grammar) {token : Token} {next : RuleMachine.Session}
    (stepped : session.step grammar token (grammar.classify token) = .popped next ∨
      session.step grammar token (grammar.classify token) = .pushed next) :
    next.Supported grammar := by
  cases stack_eq : session.stack with
  | nil =>
      simp only [RuleMachine.Session.step, stack_eq] at stepped
      split at stepped <;> simp at stepped
  | cons frame below =>
      have allSupported := supported
      rw [RuleMachine.Session.Supported, stack_eq] at allSupported
      obtain ⟨topSupported, belowSupported⟩ := List.forall_mem_cons.mp allSupported
      simp only [RuleMachine.Session.step, stack_eq] at stepped
      cases moves : RuleMachine.Session.findMove? grammar frame.automaton frame.state
          (grammar.classify token) with
      | none =>
          rw [moves] at stepped
          by_cases accepting : frame.isAccepting = true
          · simp only [accepting, if_true, reduceCtorEq, or_false,
              RuleMachine.Session.Step.popped.injEq] at stepped
            exact stepped ▸ supported.pop stack_eq
          · simp [accepting] at stepped
      | some move =>
          rw [moves] at stepped
          cases move with
          | shift target => simp at stepped
          | descend target sub =>
              obtain ⟨entered, moved⟩ := topSupported.descend compiled moves
              simp only [reduceCtorEq, false_or,
                RuleMachine.Session.Step.pushed.injEq] at stepped
              rw [← stepped]
              exact List.forall_mem_cons.mpr
                ⟨entered, List.forall_mem_cons.mpr ⟨moved, belowSupported⟩⟩

/-- However many steps are taken, none of them meets a gap. -/
theorem run_eq (compiled : Compiled rules vocabulary grammar)
    (supported : session.Supported grammar) (token : Token) (count : Nat) :
    run grammar token (grammar.classify token) count session.checked =
      .ok (ofAnswer (session.run grammar token (grammar.classify token) count)) := by
  induction count generalizing session with
  | zero =>
      rw [run, failure_eq compiled supported, bind_ok]
      rfl
  | succ count inductionHypothesis =>
      rw [run, step_eq compiled supported, bind_ok, RuleMachine.Session.run]
      cases stepped : session.step grammar token (grammar.classify token) with
      | popped next =>
          exact inductionHypothesis (supported_of_step compiled supported (.inl stepped))
      | pushed next =>
          exact inductionHypothesis (supported_of_step compiled supported (.inr stepped))
      | stopped answer final => rfl

theorem feedWithin_eq (compiled : Compiled rules vocabulary grammar)
    (supported : session.Supported grammar) (token : Token) (count : Nat) :
    feedWithin grammar count session.checked token =
      .ok (ofAnswer (session.run grammar token (grammar.classify token) count)) := by
  rw [feedWithin, classify_eq compiled.indexed, bind_ok]
  exact run_eq compiled supported token count

theorem feed_eq (compiled : Compiled rules vocabulary grammar)
    (supported : session.Supported grammar) (token : Token) :
    feed grammar session.checked token = .ok (ofAnswer (session.feed grammar token)) := by
  have count_eq : session.checked.stack.length = session.stack.length := List.length_map _
  rw [feed, count_eq]
  exact feedWithin_eq compiled supported token _

end Supported

/-! ## Whole inputs -/

section Inputs

variable (grammar : Grammar)

def prepare (start : SymbolId) :
    Except Gap (Except RuleMachine.Session.UnknownRule Session) :=
  (automaton? grammar start).bind fun
    | some automaton =>
        let entered : Frame := { automaton, state := 0, tree := .branch start ⟨0, 0⟩ [] }
        .ok (.ok { stack := [entered], root := none })
    | none => .ok (.error ⟨start⟩)

structure Progress where
  session : Session
  isDone : Bool
  finish : Position

def feedAll (progress : Progress) : List Token → Except Gap (Except ParseFailure Progress)
  | [] => .ok (.ok progress)
  | token :: later =>
      match token.endPosition? with
      | none => .ok (.error (.outOfColumns token))
      | some finish =>
          (feed grammar progress.session token).bind fun
            | (.error error, _) => .ok (.error (.refused error))
            | (.ok isDone, session) => feedAll { session, isDone, finish } later

def finishInput (progress : Progress) : Except Gap (Except ParseError Session) :=
  if progress.isDone then
    .ok (.ok progress.session)
  else
    let marker := Token.endMarkerAt grammar.endMarker progress.finish
    (feed grammar progress.session marker).bind fun
      | (.error error, _) => .ok (.error error)
      | (.ok true, session) => .ok (.ok session)
      | (.ok false, session) =>
          (failure grammar session .incompleteInput marker).bind fun error => .ok (.error error)

def parse (start : SymbolId) (tokens : List Token) : Except Gap (Except ParseFailure Tree) :=
  (prepare grammar start).bind fun
    | .error refusal => .ok (.error (.unknownRule refusal))
    | .ok session =>
        andThen (feedAll grammar { session, isDone := false, finish := ⟨1, 0⟩ } tokens)
          fun progress =>
            (finishInput grammar progress).bind fun
              | .error error => .ok (.error (.refused error))
              | .ok final =>
                  match final.root with
                  | some root => .ok (.ok root)
                  | none =>
                      .ok (.error (.refused
                        { fault := .incompleteInput
                          token := .endMarkerAt grammar.endMarker progress.finish
                          expected := .empty
                          accepting := false }))

variable {grammar} {rules : List Rule} {vocabulary : Vocabulary}

/-- The same progress, with the trees of the rules. -/
def ofProgress (progress : RuleMachine.Session.Progress) : Progress where
  session := progress.session.checked
  isDone := progress.isDone
  finish := progress.finish

theorem prepare_eq (compiled : Compiled rules vocabulary grammar) (start : SymbolId) :
    prepare grammar start =
      .ok ((RuleMachine.Session.prepare grammar start).map Session.checked) := by
  rw [prepare, automaton?_eq, bind_ok, RuleMachine.Session.prepare]
  cases found : grammar.automaton? start with
  | none => rfl
  | some automaton =>
      have symbol_eq := compiled.symbol_eq found
      subst symbol_eq
      rfl

theorem feedAll_eq (compiled : Compiled rules vocabulary grammar)
    (progress : RuleMachine.Session.Progress)
    (supported : progress.session.Supported grammar) (tokens : List Token) :
    feedAll grammar (ofProgress progress) tokens =
      .ok ((RuleMachine.Session.feedAll grammar progress tokens).map ofProgress) := by
  induction tokens generalizing progress with
  | nil => rfl
  | cons token later inductionHypothesis =>
      have fed_eq := feed_eq compiled supported token
      have stillSupported := supported.feed compiled token
      have session_eq : (ofProgress progress).session = progress.session.checked := rfl
      rw [feedAll, RuleMachine.Session.feedAll, session_eq, fed_eq]
      cases token.endPosition? with
      | none => rfl
      | some finish =>
          simp only [bind_ok]
          generalize progress.session.feed grammar token = fed at stillSupported
          obtain ⟨answer, session⟩ := fed
          cases answer with
          | error error => rfl
          | ok isDone =>
              exact inductionHypothesis ⟨session, isDone, finish⟩ stillSupported

theorem supported_of_feedAll (compiled : Compiled rules vocabulary grammar)
    {progress : RuleMachine.Session.Progress}
    (supported : progress.session.Supported grammar) {tokens : List Token}
    {final : RuleMachine.Session.Progress}
    (fed : RuleMachine.Session.feedAll grammar progress tokens = .ok final) :
    final.session.Supported grammar := by
  induction tokens generalizing progress with
  | nil =>
      cases fed
      exact supported
  | cons token later inductionHypothesis =>
      have stillSupported := supported.feed compiled token
      unfold RuleMachine.Session.feedAll at fed
      split at fed
      · cases fed
      · split at fed
        · cases fed
        · rename_i answered
          rw [answered] at stillSupported
          exact inductionHypothesis stillSupported fed

theorem finishInput_eq (compiled : Compiled rules vocabulary grammar)
    {progress : RuleMachine.Session.Progress}
    (supported : progress.session.Supported grammar) :
    finishInput grammar (ofProgress progress) =
      .ok ((RuleMachine.Session.finishInput grammar progress).map Session.checked) := by
  have done_eq : (ofProgress progress).isDone = progress.isDone := rfl
  unfold finishInput RuleMachine.Session.finishInput
  rw [done_eq]
  by_cases isDone : progress.isDone = true
  · rw [if_pos isDone, if_pos isDone]
    rfl
  · rw [if_neg isDone, if_neg isDone]
    have fed_eq := feed_eq compiled supported (.endMarkerAt grammar.endMarker progress.finish)
    have stillSupported :=
      supported.feed compiled (.endMarkerAt grammar.endMarker progress.finish)
    simp only [ofProgress, fed_eq, bind_ok]
    generalize progress.session.feed grammar
      (.endMarkerAt grammar.endMarker progress.finish) = fed at stillSupported
    obtain ⟨answer, session⟩ := fed
    cases answer with
    | error error => rfl
    | ok complete =>
        cases complete with
        | true => rfl
        | false =>
            simp only [ofAnswer, failure_eq compiled stillSupported, bind_ok]
            rfl

theorem parse_eq (compiled : Compiled rules vocabulary grammar) (start : SymbolId)
    (tokens : List Token) :
    parse grammar start tokens = .ok (RuleMachine.parse grammar start tokens) := by
  rw [parse, prepare_eq compiled, bind_ok, RuleMachine.Session.prepare, RuleMachine.parse]
  cases found : grammar.automaton? start with
  | none => rfl
  | some automaton =>
      let beginning : RuleMachine.Session.Progress :=
        { session := .begin automaton, isDone := false, finish := ⟨1, 0⟩ }
      have supported := RuleMachine.Session.supported_begin compiled found
      have fed_eq := feedAll_eq compiled beginning supported tokens
      simp only [Except.map, parseFrom]
      change andThen (feedAll grammar (ofProgress beginning) tokens) _ = _
      rw [fed_eq]
      cases fed : RuleMachine.Session.feedAll grammar beginning tokens with
      | error cause => rfl
      | ok progress =>
          have stillSupported := supported_of_feedAll compiled supported fed
          simp only [Except.map, andThen_ok, finishInput_eq compiled stillSupported, bind_ok]
          cases RuleMachine.Session.finishInput grammar progress with
          | error error => rfl
          | ok final =>
              simp only [RuleMachine.Session.checked]
              cases final.root <;> rfl

end Inputs

/-! ## Trees as text -/

section Dump

variable (grammar : Grammar)

def symbolName? (symbol : SymbolId) : Except Gap (Option String) :=
  (automaton? grammar symbol).bind fun
    | some automaton => .ok (some automaton.name)
    | none => .ok (grammar.tokenNames.get? symbol)

def dumpLine (depth : Nat) (tree : Tree) : Except Gap String :=
  (symbolName? grammar tree.symbol).bind fun name? =>
    let indent := Text.spaces (2 * depth)
    let name := name?.getD "?"
    match tree.value? with
    | some value => .ok (indent ++ name ++ " " ++ Text.quoted value ++ "\n")
    | none => .ok (indent ++ name ++ "\n")

/-- The lines of nodes with their depths. -/
def dumpLines : List (Nat × Tree) → Except Gap (List String)
  | [] => .ok []
  | (depth, tree) :: later =>
      (dumpLine grammar depth tree).bind fun line =>
        (dumpLines later).bind fun lines => .ok (line :: lines)

def dump (tree : Tree) : Except Gap String :=
  (dumpLines grammar tree.outline).bind fun lines => .ok (String.join lines)

variable {grammar}

theorem symbolName?_eq (symbol : SymbolId) :
    symbolName? grammar symbol = .ok (grammar.symbolName? symbol) := by
  rw [symbolName?, automaton?_eq, bind_ok, Grammar.symbolName?]
  cases grammar.automaton? symbol <;> rfl

theorem dumpLine_eq (depth : Nat) (tree : Tree) :
    dumpLine grammar depth tree = .ok (tree.dumpLine grammar depth) := by
  rw [dumpLine, symbolName?_eq, bind_ok, Tree.dumpLine]
  cases tree.value? <;> rfl

theorem dumpLines_eq (nodes : List (Nat × Tree)) :
    dumpLines grammar nodes = .ok (nodes.map fun node => node.2.dumpLine grammar node.1) := by
  induction nodes with
  | nil => rfl
  | cons node later inductionHypothesis =>
      rw [dumpLines, dumpLine_eq, bind_ok, inductionHypothesis, bind_ok, List.map_cons]

theorem dump_eq (tree : Tree) : dump grammar tree = .ok (tree.dump grammar) := by
  rw [dump, dumpLines_eq, bind_ok, Tree.dump]

end Dump

end Checked

end RuleMachine
