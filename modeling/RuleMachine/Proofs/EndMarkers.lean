import RuleMachine.Proofs.ParseSoundness
import RuleMachine.Proofs.TokenConservation

/-!
# Explicit end markers

An input may end with an end marker of its own, and otherwise one is fed behind it.  The two
ways differ only if the marker is taken and the start rule is still not complete.  Then an
input without a marker fails, but behind an explicit marker a second one is fed.  Both
inputs give the same result exactly if the second marker is refused at once, or leaves the
innermost rule with the same labels to go on with.
-/

namespace RuleMachine

open Grammar

/-- The end marker right behind the last token of an input. -/
def Grammar.markerBehind (grammar : Grammar) (tokens : List Token) : Token :=
  .endMarkerAt grammar.endMarker (tokens.getLast?.elim ⟨1, 0⟩ Token.finish)

namespace Session

variable {grammar : Grammar} {session final : Session} {token : Token} {tokens : List Token}
  {progress next : Progress} {frame : Frame} {below : List Frame}

/-! ## Feeding -/

theorem feedAll_append (grammar : Grammar) (progress : Progress) (tokens later : List Token) :
    feedAll grammar progress (tokens ++ later) =
      (feedAll grammar progress tokens).bind fun next => feedAll grammar next later := by
  induction tokens generalizing progress with
  | nil => rfl
  | cons token rest inductionHypothesis =>
      rw [List.cons_append, feedAll, feedAll]
      cases token.endPosition? with
      | none => rfl
      | some finish =>
          simp only
          split
          · rfl
          · exact inductionHypothesis _

theorem feed_of_stuck (stack_eq : session.stack = frame :: below)
    (noMove : findMove? grammar frame.automaton frame.state (grammar.classify token) = none)
    (refuses : frame.isAccepting = false) :
    session.feed grammar token =
      (.error (failure grammar session (faultOf grammar token (grammar.classify token)) token),
        session) := by
  simp only [feed, stepBound, run, step, stack_eq, noMove, refuses, Bool.false_eq_true, if_false]

/-! ## Progress -/

/-- Nothing has been fed yet. -/
def Progress.beginning (automaton : RuleAutomaton) : Progress :=
  { session := begin automaton, isDone := false, finish := ⟨1, 0⟩ }

/-- What holds of the progress of an input whatever was fed. -/
structure Progress.Regular (grammar : Grammar) (progress : Progress) : Prop where
  supported : progress.session.Supported grammar
  coherent : progress.session.IsCoherent
  isDone_eq : progress.isDone = progress.session.stack.isEmpty
  withinColumns : progress.finish.column < UInt64.size

section Compiled

variable {rules : List Rule} {vocabulary : Vocabulary}

theorem regular_beginning (compiled : Compiled rules vocabulary grammar) {start : SymbolId}
    {automaton : RuleAutomaton} (found : grammar.automaton? start = some automaton) :
    (Progress.beginning automaton).Regular grammar :=
  ⟨supported_begin compiled found, isCoherent_begin automaton, rfl, Nat.succ_pos _⟩

theorem Progress.Regular.feed (compiled : Compiled rules vocabulary grammar)
    (regular : progress.Regular grammar) {isDone : Bool} {finish : Position}
    (fed : progress.session.feed grammar token = (.ok isDone, session))
    (withinColumns : finish.column < UInt64.size) :
    Progress.Regular grammar { session, isDone, finish } := by
  have conserves := conserves_feed compiled regular.supported regular.coherent token
  have supported := regular.supported.feed compiled token
  simp only [fed] at conserves supported
  refine ⟨supported, conserves.coherent, ?_, withinColumns⟩
  rw [← isCoherent_iff.mp conserves.coherent]
  exact Bool.eq_iff_iff.mpr (conserves.answered isDone rfl)

theorem regular_of_feedAll (compiled : Compiled rules vocabulary grammar)
    (regular : progress.Regular grammar) (fed : feedAll grammar progress tokens = .ok next) :
    next.Regular grammar := by
  induction tokens generalizing progress with
  | nil =>
      cases fed
      exact regular
  | cons token later inductionHypothesis =>
      unfold feedAll at fed
      split at fed
      · cases fed
      · rename_i finish isFinish
        split at fed
        · cases fed
        · rename_i answered
          have withinColumns := (Token.eq_finish_of_endPosition? isFinish).2
          exact inductionHypothesis (regular.feed compiled answered withinColumns) fed

end Compiled

/-- The end marker right behind what was fed. -/
def Progress.marker (grammar : Grammar) (progress : Progress) : Token :=
  .endMarkerAt grammar.endMarker progress.finish

theorem Progress.Regular.endPosition?_marker (regular : progress.Regular grammar) :
    (progress.marker grammar).endPosition? = some progress.finish :=
  if_pos regular.withinColumns

theorem feedAll_marker_of_error (regular : progress.Regular grammar) {error : ParseError}
    (fed : progress.session.feed grammar (progress.marker grammar) = (.error error, final)) :
    feedAll grammar progress [progress.marker grammar] = .error (.refused error) := by
  simp only [feedAll, regular.endPosition?_marker, fed]

theorem feedAll_marker_of_ok (regular : progress.Regular grammar) {isDone : Bool}
    (fed : progress.session.feed grammar (progress.marker grammar) = (.ok isDone, final)) :
    feedAll grammar progress [progress.marker grammar] =
      .ok { session := final, isDone, finish := progress.finish } := by
  simp only [feedAll, regular.endPosition?_marker, fed]

/-! ## Ending an input -/

/-- What a parse gives, where the tokens of the input have been fed. -/
def Progress.outcome (grammar : Grammar) (progress : Progress) : Except ParseFailure Tree :=
  match finishInput grammar progress with
  | .error error => .error (.refused error)
  | .ok session =>
      match session.root with
      | some root => .ok root
      | none =>
          .error (.refused
            { fault := .incompleteInput
              token := progress.marker grammar
              expected := .empty
              accepting := false })

theorem parseFrom_eq (grammar : Grammar) (automaton : RuleAutomaton) (tokens : List Token) :
    parseFrom grammar automaton tokens =
      (feedAll grammar (.beginning automaton) tokens).bind (Progress.outcome grammar) := by
  rw [parseFrom, ← Progress.beginning]
  cases feedAll grammar (.beginning automaton) tokens with
  | error cause => rfl
  | ok progress => rfl

section Open

variable (isOpen : progress.isDone = false)

include isOpen in
theorem outcome_of_error {error : ParseError}
    (fed : progress.session.feed grammar (progress.marker grammar) = (.error error, final)) :
    progress.outcome grammar = .error (.refused error) := by
  rw [Progress.marker] at fed
  simp only [Progress.outcome, finishInput, isOpen, Bool.false_eq_true, if_false, fed]

include isOpen in
theorem outcome_of_complete
    (fed : progress.session.feed grammar (progress.marker grammar) = (.ok true, final)) :
    progress.outcome grammar =
      Progress.outcome grammar
        { session := final, isDone := true, finish := progress.finish } := by
  rw [Progress.marker] at fed
  simp only [Progress.outcome, finishInput, isOpen, Bool.false_eq_true, if_false, if_true, fed]
  rfl

include isOpen in
theorem outcome_of_open
    (fed : progress.session.feed grammar (progress.marker grammar) = (.ok false, final)) :
    progress.outcome grammar =
      .error (.refused (final.failure grammar .incompleteInput (progress.marker grammar))) := by
  rw [Progress.marker] at fed
  simp only [Progress.outcome, finishInput, isOpen, Bool.false_eq_true, if_false, fed]
  rfl

end Open

/-- One more marker changes nothing about a session whose start rule is not complete: the
innermost rule refuses it and cannot end, or it is taken, and what is the innermost rule
then may end as the old one may and goes on with the same labels. -/
inductive Indifferent (grammar : Grammar) (marker : Token) (session : Session) : Prop
  | refused {frame : Frame} {below : List Frame} : session.stack = frame :: below →
      findMove? grammar frame.automaton frame.state (grammar.classify marker) = none →
      frame.isAccepting = false → Indifferent grammar marker session
  | renewed {final : Session} {frame next : Frame} {below lower : List Frame} :
      session.stack = frame :: below → session.feed grammar marker = (.ok false, final) →
      final.stack = next :: lower → next.expected grammar = frame.expected grammar →
      next.isAccepting = frame.isAccepting → Indifferent grammar marker session

theorem failure_of_stack (stack_eq : session.stack = frame :: below) (fault : ParseFault)
    (token : Token) :
    session.failure grammar fault token =
      { fault, token, expected := frame.expected grammar, accepting := frame.isAccepting } := by
  simp only [failure, stack_eq]

theorem faultOf_of_marker (isMarker : token.kind = grammar.endMarker)
    (candidates : List LabelId) : faultOf grammar token candidates = .incompleteInput :=
  if_pos isMarker

section Compiled

variable {rules : List Rule} {vocabulary : Vocabulary}

theorem Progress.Regular.exists_top (regular : progress.Regular grammar)
    (isOpen : progress.isDone = false) :
    ∃ frame below, progress.session.stack = frame :: below := by
  have notEmpty := regular.isDone_eq.symm.trans isOpen
  exact List.exists_cons_of_ne_nil (List.isEmpty_eq_false_iff.mp notEmpty)

/-- An end marker fails only where rules have ended in front of it and the next one neither
takes it nor ends. -/
theorem exists_stuck_of_feed_error (compiled : Compiled rules vocabulary grammar)
    (supported : Supported grammar session) (isMarker : token.kind = grammar.endMarker)
    {error : ParseError} (fed : session.feed grammar token = (.error error, final)) :
    ∃ frame below, Closes grammar token session final ∧ final.stack = frame :: below ∧
      findMove? grammar frame.automaton frame.state (grammar.classify token) = none ∧
      frame.isAccepting = false ∧ error = final.failure grammar .incompleteInput token := by
  obtain ⟨middle, closes, outcome⟩ := feed_cases compiled supported token
  simp only [fed] at outcome
  cases outcome with
  | beyond _ notMarker => exact absurd isMarker notMarker
  | stuck stack_eq noMove refuses =>
      refine ⟨_, _, closes, stack_eq, noMove, refuses, ?_⟩
      rw [faultOf_of_marker isMarker]

theorem exists_tree_of_isDone (regular : progress.Regular grammar)
    (isDone : progress.isDone = true) : ∃ tree, progress.outcome grammar = .ok tree := by
  have isEmpty := regular.isDone_eq.symm.trans isDone
  have hasRoot := (isCoherent_iff.mp regular.coherent).trans isEmpty
  obtain ⟨tree, root_eq⟩ := Option.isSome_iff_exists.mp hasRoot
  exact ⟨tree, by simp only [Progress.outcome, finishInput, isDone, if_true, root_eq]⟩

theorem outcome_of_indifferent (isOpen : progress.isDone = false)
    (indifferent : progress.session.Indifferent grammar (progress.marker grammar)) :
    progress.outcome grammar =
      .error (.refused
        (progress.session.failure grammar .incompleteInput (progress.marker grammar))) := by
  cases indifferent with
  | refused stack_eq noMove refuses =>
      rw [outcome_of_error isOpen (feed_of_stuck stack_eq noMove refuses), faultOf_of_marker rfl]
  | renewed stack_eq fed next_eq sameExpected sameAccepting =>
      rw [outcome_of_open isOpen fed, failure_of_stack next_eq, failure_of_stack stack_eq,
        sameExpected, sameAccepting]

theorem indifferent_of_outcome (compiled : Compiled rules vocabulary grammar)
    (regular : progress.Regular grammar) (isOpen : progress.isDone = false)
    (same : progress.outcome grammar =
      .error (.refused
        (progress.session.failure grammar .incompleteInput (progress.marker grammar)))) :
    progress.session.Indifferent grammar (progress.marker grammar) := by
  obtain ⟨frame, below, stack_eq⟩ := regular.exists_top isOpen
  rw [failure_of_stack stack_eq] at same
  rcases fed : progress.session.feed grammar (progress.marker grammar) with ⟨answer, final⟩
  cases answer with
  | error error =>
      obtain ⟨top, lower, closes, top_eq, noMove, refuses, rfl⟩ :=
        exists_stuck_of_feed_error compiled regular.supported rfl fed
      rw [outcome_of_error isOpen fed, failure_of_stack top_eq] at same
      have sameError := ParseFailure.refused.inj (Except.error.inj same)
      cases closes with
      | refl => exact .refused top_eq noMove refuses
      | pop first_eq closed _ =>
          -- The first rule has ended, so it could have; the last one could not.
          obtain ⟨rfl, _⟩ := List.cons.inj (first_eq.symm.trans stack_eq)
          have accepting := (Bool.and_eq_true_iff.mp closed).2
          have sameAccepting : top.isAccepting = _ := congrArg ParseError.accepting sameError
          rw [refuses, accepting] at sameAccepting
          cases sameAccepting
  | ok isDone =>
      have finalRegular := regular.feed compiled fed regular.withinColumns
      cases isDone with
      | true =>
          obtain ⟨tree, isTree⟩ := exists_tree_of_isDone finalRegular rfl
          rw [outcome_of_complete isOpen fed, isTree] at same
          cases same
      | false =>
          obtain ⟨next, lower, next_eq⟩ := finalRegular.exists_top rfl
          rw [outcome_of_open isOpen fed, failure_of_stack next_eq] at same
          have sameError := ParseFailure.refused.inj (Except.error.inj same)
          exact .renewed stack_eq fed next_eq (congrArg ParseError.expected sameError)
            (congrArg ParseError.accepting sameError)

/-- Feeding a marker does not change what a parse gives, unless the marker is taken, the
start rule is not complete, and one more marker does change something. -/
theorem outcome_marker_eq_iff (compiled : Compiled rules vocabulary grammar)
    (regular : progress.Regular grammar) :
    (feedAll grammar progress [progress.marker grammar]).bind (Progress.outcome grammar) =
        progress.outcome grammar ↔
      ∀ behind finish,
        feedAll grammar progress [progress.marker grammar] = .ok ⟨behind, false, finish⟩ →
        behind.Indifferent grammar (progress.marker grammar) := by
  rcases fed : progress.session.feed grammar (progress.marker grammar) with ⟨answer, final⟩
  -- Where the start rule is complete, the marker is skipped.
  have isDone_or : progress.isDone = true ∧ answer = .ok true ∧ final = progress.session ∨
      progress.isDone = false := by
    cases isDone : progress.isDone with
    | false => exact .inr rfl
    | true =>
        have stack_eq := List.isEmpty_iff.mp (regular.isDone_eq.symm.trans isDone)
        have skipped : progress.session.feed grammar (progress.marker grammar) =
            (.ok true, progress.session) := run_of_stack_eq_nil stack_eq (Nat.succ_pos _) rfl
        obtain ⟨rfl, rfl⟩ := Prod.mk.inj (fed.symm.trans skipped)
        exact .inl ⟨rfl, rfl, rfl⟩
  cases answer with
  | error error =>
      have isOpen := isDone_or.resolve_left (by simp)
      rw [feedAll_marker_of_error regular fed, outcome_of_error isOpen fed]
      exact iff_of_true rfl (by simp)
  | ok complete =>
      rw [feedAll_marker_of_ok regular fed]
      cases complete with
      | true =>
          refine iff_of_true ?_ (by simp)
          rcases isDone_or with ⟨isDone, _, rfl⟩ | isOpen
          · obtain ⟨session, _, finish⟩ := progress
            cases isDone
            rfl
          · exact (outcome_of_complete isOpen fed).symm
      | false =>
          have isOpen := isDone_or.resolve_left (by simp)
          have finalRegular := regular.feed compiled fed regular.withinColumns
          -- Here the two ways part: one has failed already, the other feeds a second marker.
          rw [outcome_of_open isOpen fed]
          constructor
          · rintro same behind finish ⟨rfl, rfl⟩
            exact indifferent_of_outcome compiled finalRegular rfl same
          · intro indifferent
            exact outcome_of_indifferent (by rfl) (indifferent final progress.finish rfl)

theorem parseFrom_closedInput_eq_iff (compiled : Compiled rules vocabulary grammar)
    {start : SymbolId} {automaton : RuleAutomaton}
    (found : grammar.automaton? start = some automaton) (tokens : List Token) :
    parseFrom grammar automaton (grammar.closedInput tokens) =
        parseFrom grammar automaton tokens ↔
      ∀ behind finish,
        feedAll grammar (.beginning automaton) (grammar.closedInput tokens) =
          .ok ⟨behind, false, finish⟩ →
        behind.Indifferent grammar (grammar.markerBehind tokens) := by
  have closed_eq : grammar.closedInput tokens = tokens ++ [grammar.markerBehind tokens] := rfl
  rw [closed_eq, parseFrom_eq, parseFrom_eq, feedAll_append]
  cases fed : feedAll grammar (.beginning automaton) tokens with
  | error cause =>
      refine iff_of_true rfl ?_
      intro behind finish succeeds
      cases succeeds
  | ok progress =>
      have marker_eq : grammar.markerBehind tokens = progress.marker grammar := by
        rw [markerBehind, Progress.marker, finish_of_feedAll fed]
        rfl
      rw [marker_eq]
      exact outcome_marker_eq_iff compiled
        (regular_of_feedAll compiled (regular_beginning compiled found) fed)

end Compiled

/-- All tokens of an input and the marker behind them are taken, and in the session behind
them the start rule is still not complete. -/
inductive LeavesOpen (grammar : Grammar) (start : SymbolId) (tokens : List Token)
    (behind : Session) : Prop
  | intro {automaton : RuleAutomaton} {finish : Position} :
      grammar.automaton? start = some automaton →
      feedAll grammar (.beginning automaton) (grammar.closedInput tokens) =
        .ok ⟨behind, false, finish⟩ →
      LeavesOpen grammar start tokens behind

end Session

open Session

/-- An explicit end marker leaves the result of a parse as it is exactly if one more marker
changes nothing wherever the explicit one is taken before the start rule is complete. -/
theorem parse_closedInput_eq_iff {rules : List Rule} {vocabulary : Vocabulary}
    {grammar : Grammar} {startName : Option String} {policy : AmbiguityPolicy}
    (built : build rules vocabulary startName policy = .ok grammar) (start : SymbolId)
    (tokens : List Token) :
    parse grammar start (grammar.closedInput tokens) = parse grammar start tokens ↔
      ∀ behind, LeavesOpen grammar start tokens behind →
        behind.Indifferent grammar (grammar.markerBehind tokens) := by
  obtain ⟨compiled, _⟩ := compiled_of_build built
  unfold parse
  cases found : grammar.automaton? start with
  | none =>
      refine iff_of_true rfl ?_
      rintro behind ⟨isOther, _⟩
      cases found.symm.trans isOther
  | some automaton =>
      refine (parseFrom_closedInput_eq_iff compiled found tokens).trans ⟨?_, ?_⟩
      · rintro indifferent behind ⟨isOther, fed⟩
        cases found.symm.trans isOther
        exact indifferent behind _ fed
      · intro indifferent behind finish fed
        exact indifferent behind (.intro found fed)

/-- A name and a number with an optional end marker between them. -/
def gapText : String := "a: NAME [ENDMARKER] NUMBER\n"

def gapTokens : List Token := [⟨1, "x", ⟨1, 0⟩, ""⟩]

/-- The optional marker is taken, and the missing number is missed in the same way. -/
theorem parse_closedInput_eq_iff_gapTokens :
    ∃ rules grammar behind, build rules .mini none .reject = .ok grammar ∧
      LeavesOpen grammar grammar.start gapTokens behind ∧
      parse grammar grammar.start (grammar.closedInput gapTokens) =
        parse grammar grammar.start gapTokens := by
  have succeeds : (compile gapText .mini none .reject).isOk = true := by
    decide +kernel
  have contents : (compile gapText .mini none .reject).map (fun grammar =>
      (grammar.automaton? grammar.start).map fun automaton =>
        (feedAll grammar (.beginning automaton)
          (grammar.closedInput gapTokens)).toOption.map fun progress =>
            (progress.isDone, progress.session.stack.map fun frame =>
              ((findMove? grammar frame.automaton frame.state
                (grammar.classify (grammar.markerBehind gapTokens))).isNone,
                frame.isAccepting))) =
      .ok (some (some (false, [(true, false)]))) := by
    decide +kernel
  obtain ⟨grammar, compiled⟩ := exists_ok_of_isOk succeeds
  obtain ⟨rules, _, built⟩ := compile_eq_ok compiled
  rw [compiled] at contents
  obtain ⟨automaton, found, contents⟩ := Option.map_eq_some_iff.mp (Except.ok.inj contents)
  obtain ⟨⟨session, isDone, finish⟩, isProgress, contents⟩ := Option.map_eq_some_iff.mp contents
  obtain ⟨rfl, stack_eq⟩ := Prod.mk.inj contents
  obtain ⟨frame, stack_eq, frame_eq⟩ := List.map_eq_singleton_iff.mp stack_eq
  obtain ⟨isNone, refuses⟩ := Prod.mk.inj frame_eq
  have fed := eq_ok_of_toOption isProgress
  refine ⟨rules, grammar, session, built, .intro found fed, ?_⟩
  apply (parse_closedInput_eq_iff built grammar.start gapTokens).mpr
  rintro behind ⟨isOther, fedOther⟩
  cases found.symm.trans isOther
  cases fed.symm.trans fedOther
  exact .refused stack_eq (Option.isNone_iff_eq_none.mp isNone) refuses

def markersText : String := "a: ENDMARKER ENDMARKER\n"

/-- An empty input fails, but behind an explicit end marker a second one completes it. -/
theorem parse_closedInput_ne :
    ∃ rules grammar tree cause, build rules .mini none .reject = .ok grammar ∧
      parse grammar grammar.start (grammar.closedInput []) = .ok tree ∧
      tree.leaves.map Tree.symbol = [0, 0] ∧
      parse grammar grammar.start [] = .error cause ∧
      parse grammar grammar.start (grammar.closedInput []) ≠ parse grammar grammar.start [] := by
  have succeeds : (compile markersText .mini none .reject).isOk = true := by
    decide +kernel
  have contents : (compile markersText .mini none .reject).map (fun grammar =>
      ((parse grammar grammar.start []).isOk,
        (parse grammar grammar.start (grammar.closedInput [])).toOption.map fun tree =>
          tree.leaves.map Tree.symbol)) = .ok (false, some [0, 0]) := by
    decide +kernel
  obtain ⟨grammar, compiled⟩ := exists_ok_of_isOk succeeds
  obtain ⟨rules, _, built⟩ := compile_eq_ok compiled
  rw [compiled] at contents
  obtain ⟨fails, contents⟩ := Prod.mk.inj (Except.ok.inj contents)
  obtain ⟨tree, isTree, leaves_eq⟩ := Option.map_eq_some_iff.mp contents
  have parsed := eq_ok_of_toOption isTree
  cases failed : parse grammar grammar.start [] with
  | ok other =>
      rw [failed] at fails
      cases fails
  | error cause =>
      refine ⟨rules, grammar, tree, cause, built, parsed, leaves_eq, failed, ?_⟩
      rw [parsed]
      intro same
      cases same.trans failed

end RuleMachine
