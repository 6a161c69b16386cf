import RuleMachine.Proofs.CallShape
import RuleMachine.Proofs.EndMarkers
import RuleMachine.Proofs.LiveAutomata

/-!
# Error reports are exact

A call that fails ends the rules that end in front of its token and stops at one that
neither takes the token nor ends.  The error names the terminal labels that this rule can go
on with.  There is always one of them, since no rule has a dead end, and the next token is
accepted exactly if it has one of them as a candidate.  It would have been accepted before
the failed call as well: the rules that have ended since could end in front of it, unless one
of them takes it itself.

A token is too much exactly if every rule on the stack ends in front of it.
-/

namespace RuleMachine

open Grammar

namespace Frame

variable {rules : List Rule} {vocabulary : Vocabulary} {grammar : Grammar} {token : Token}
  {frame : Frame} {label : LabelId}

/-! ## Expected labels -/

theorem mem_expected :
    label ∈ frame.expected grammar ↔
      ∃ arc ∈ frame.automaton.arcsAt frame.state, label ∈ grammar.reachable arc.label := by
  rw [expected, NatSet.mem_ofList, List.mem_flatMap]

/-- A rule has a move on a token exactly if it can go on with a candidate of the token. -/
theorem Supported.exists_move_iff (compiled : Compiled rules vocabulary grammar)
    (supported : frame.Supported grammar) :
    (∃ move, Session.findMove? grammar frame.automaton frame.state (grammar.classify token) =
      some move) ↔
      ∃ candidate ∈ grammar.classify token, candidate ∈ frame.expected grammar := by
  constructor
  · rintro ⟨move, moves⟩
    obtain ⟨candidate, isCandidate, arc, isArc, takes⟩ := supported.exists_takes compiled moves
    have isReachable := takes.answers.mem_reachable compiled.indexed isCandidate
    exact ⟨candidate, isCandidate, mem_expected.mpr ⟨arc, isArc, isReachable⟩⟩
  · rintro ⟨candidate, isCandidate, isExpected⟩
    obtain ⟨arc, isArc, isReachable⟩ := mem_expected.mp isExpected
    obtain ⟨symbol, found⟩ := supported.known
    apply Option.ne_none_iff_exists'.mp
    intro noMove
    exact Session.not_answers_of_findMove?_eq_none (compiled.tableFaithful found) noMove arc
      isArc candidate isCandidate (answers_of_mem_reachable isReachable)

theorem Supported.isTerminal_of_mem_expected (compiled : Compiled rules vocabulary grammar)
    (supported : frame.Supported grammar) (isExpected : label ∈ frame.expected grammar) :
    grammar.IsTerminal label := by
  obtain ⟨symbol, found⟩ := supported.known
  obtain ⟨arc, isArc, isReachable⟩ := mem_expected.mp isExpected
  exact compiled.isTerminal_of_mem_reachable (mem_automata_of_automaton? found) isArc isReachable

/-- A rule that may not end can go on. -/
theorem Supported.exists_mem_expected (compiled : Compiled rules vocabulary grammar)
    (exact : grammar.labelTable.Exact grammar.symbolIds vocabulary)
    (supported : frame.Supported grammar) (refuses : frame.isAccepting = false) :
    ∃ label, label ∈ frame.expected grammar := by
  obtain ⟨symbol, found⟩ := supported.known
  have isAutomaton := mem_automata_of_automaton? found
  have notAccepting : ¬Dfa.IsAccepting frame.automaton.states frame.state := by
    intro accepting
    have accepts := ((compiled.tableFaithful found).accepting frame.state).mpr accepting
    cases refuses.symm.trans accepts
  obtain ⟨arc, isArc⟩ :=
    compiled.exists_arc_of_not_accepting isAutomaton supported.inRange notAccepting
  obtain ⟨label, isReachable⟩ := compiled.exists_mem_reachable exact isAutomaton isArc
  exact ⟨label, mem_expected.mpr ⟨arc, isArc, isReachable⟩⟩

end Frame

namespace Session

variable {rules : List Rule} {vocabulary : Vocabulary} {grammar : Grammar}
  {session final : Session} {token failing : Token} {frame : Frame} {below : List Frame}
  {move : Move} {error : ParseError}

/-! ## Tokens that are accepted -/

/-- Feeding a token succeeds. -/
def Admits (grammar : Grammar) (session : Session) (token : Token) : Prop :=
  (session.feed grammar token).1.isOk = true

theorem admits_of_move (compiled : Compiled rules vocabulary grammar)
    (supported : Supported grammar session) (stack_eq : session.stack = frame :: below)
    (moves : findMove? grammar frame.automaton frame.state (grammar.classify token) =
      some move) : session.Admits grammar token := by
  obtain ⟨rank, bounded, descending⟩ := compiled.exists_rank
  have topSupported := supported frame (stack_eq ▸ .head below)
  have budget : Budget grammar rank frame (stepBound grammar session) :=
    budget_of_lt bounded (by unfold stepBound; omega)
  obtain ⟨final, _, ran⟩ :=
    run_of_findMove? compiled descending topSupported stack_eq moves budget
  unfold Admits feed
  rw [ran]
  rfl

/-- Where the innermost rule may not end, those tokens are accepted that it can go on with. -/
theorem admits_iff_of_refuses (compiled : Compiled rules vocabulary grammar)
    (supported : Supported grammar session) (stack_eq : session.stack = frame :: below)
    (refuses : frame.isAccepting = false) :
    session.Admits grammar token ↔
      ∃ candidate ∈ grammar.classify token, candidate ∈ frame.expected grammar := by
  have topSupported := supported frame (stack_eq ▸ .head below)
  rw [← topSupported.exists_move_iff compiled]
  constructor
  · intro admits
    apply Option.ne_none_iff_exists'.mp
    intro noMove
    rw [Admits, feed_of_stuck stack_eq noMove refuses] at admits
    cases admits
  · rintro ⟨move, moves⟩
    exact admits_of_move compiled supported stack_eq moves

theorem feed_of_isClosedBy (stack_eq : session.stack = frame :: below)
    (closed : frame.isClosedBy grammar token = true) :
    session.feed grammar token = session.pop.feed grammar token := by
  have bound_eq : stepBound grammar session = stepBound grammar session.pop + 1 := by
    rw [stepBound, stepBound, stack_pop stack_eq, length_stackBelow, stack_eq,
      List.length_cons]
    omega
  unfold feed
  rw [bound_eq, run, step_of_isClosedBy stack_eq closed]

/-- What is accepted once rules have ended in front of a token was accepted before. -/
theorem Closes.admits (compiled : Compiled rules vocabulary grammar)
    (closes : Closes grammar failing session final) (supported : Supported grammar session)
    (admits : final.Admits grammar token) : session.Admits grammar token := by
  induction closes with
  | refl session => exact admits
  | @pop session final frame below stack_eq closed _ inductionHypothesis =>
      have popAdmits := inductionHypothesis (supported.pop stack_eq) admits
      cases moves : findMove? grammar frame.automaton frame.state (grammar.classify token) with
      | some move => exact admits_of_move compiled supported stack_eq moves
      | none =>
          -- Whether a rule may end depends on its state only, not on the token.
          have accepting := (Bool.and_eq_true_iff.mp closed).2
          have closedToo : frame.isClosedBy grammar token = true := by
            simp [Frame.isClosedBy, moves, accepting]
          rw [Admits, feed_of_isClosedBy stack_eq closedToo]
          exact popAdmits

/-! ## Reports -/

/-- What is reported of a call that failed, where the sessions before and after the call are
given: the innermost rule may not end, the expected labels are terminal and ascend, and they
are exactly those that the parse can go on with, also if the call had not been made. -/
structure IsExact (grammar : Grammar) (before after : Session) (error : ParseError) :
    Prop where
  refuses : error.accepting = false
  nonempty : ∃ label, label ∈ error.expected
  ascending : error.expected.elements.Pairwise (· < ·)
  terminal : ∀ label ∈ error.expected, grammar.IsTerminal label
  continues : ∀ token, after.Admits grammar token ↔
    ∃ candidate ∈ grammar.classify token, candidate ∈ error.expected
  sooner : ∀ token, after.Admits grammar token → before.Admits grammar token

theorem fault_failure (grammar : Grammar) (session : Session) (fault : ParseFault)
    (token : Token) : (failure grammar session fault token).fault = fault := by
  unfold failure
  split <;> rfl

theorem faultOf_ne_tooMuchInput (grammar : Grammar) (token : Token)
    (candidates : List LabelId) : faultOf grammar token candidates ≠ .tooMuchInput := by
  unfold faultOf
  split
  · simp
  · split <;> simp

theorem isExact_of_feed (compiled : Compiled rules vocabulary grammar)
    (exact : grammar.labelTable.Exact grammar.symbolIds vocabulary)
    (supported : Supported grammar session)
    (failed : (session.feed grammar token).1 = .error error)
    (notTooMuch : error.fault ≠ .tooMuchInput) :
    IsExact grammar session (session.feed grammar token).2 error := by
  obtain ⟨middle, closes, outcome⟩ := feed_cases compiled supported token
  rw [failed] at outcome
  generalize (session.feed grammar token).2 = final at outcome ⊢
  cases outcome with
  | beyond => exact absurd (fault_failure grammar middle .tooMuchInput token) notTooMuch
  | @stuck frame below stack_eq noMove refuses =>
      have middleSupported := closes.supported supported
      have topSupported := middleSupported frame (stack_eq ▸ .head below)
      rw [failure_of_stack stack_eq]
      exact
        { refuses
          nonempty := topSupported.exists_mem_expected compiled exact refuses
          ascending := (frame.expected grammar).ascending
          terminal := fun label => topSupported.isTerminal_of_mem_expected compiled
          continues := fun token =>
            admits_iff_of_refuses compiled middleSupported stack_eq refuses
          sooner := fun token => closes.admits compiled supported }

theorem isClosedBy_iff :
    session.isClosedBy grammar token = true ↔
      ∀ frame ∈ session.stack, frame.isAccepting = true ∧
        findMove? grammar frame.automaton frame.state (grammar.classify token) = none := by
  simp only [isClosedBy, List.all_eq_true, Frame.isClosedBy, Bool.and_eq_true,
    Option.isNone_iff_eq_none, and_comm]

/-- A token is too much exactly if all rules end in front of it and it is no end marker. -/
theorem tooMuchInput_iff (compiled : Compiled rules vocabulary grammar)
    (supported : Supported grammar session) (token : Token) :
    (∃ error, (session.feed grammar token).1 = .error error ∧ error.fault = .tooMuchInput) ↔
      session.isClosedBy grammar token = true ∧ token.kind ≠ grammar.endMarker := by
  obtain ⟨middle, closes, outcome⟩ := feed_cases compiled supported token
  rw [closes.isClosedBy_eq]
  generalize (session.feed grammar token).1 = answer at outcome ⊢
  generalize (session.feed grammar token).2 = final at outcome
  cases outcome with
  | complete _ isMarker =>
      apply iff_of_false
      · rintro ⟨error, failed, _⟩
        cases failed
      · exact fun both => both.2 isMarker
  | beyond stack_eq notMarker =>
      apply iff_of_true
      · exact ⟨_, rfl, fault_failure grammar middle .tooMuchInput token⟩
      · exact ⟨by simp [isClosedBy, stack_eq], notMarker⟩
  | stuck stack_eq noMove refuses =>
      apply iff_of_false
      · rintro ⟨error, failed, isTooMuch⟩
        rw [← Except.error.inj failed, fault_failure] at isTooMuch
        exact faultOf_ne_tooMuchInput grammar token (grammar.classify token) isTooMuch
      · rintro ⟨closed, _⟩
        simp [isClosedBy, stack_eq, Frame.isClosedBy, refuses] at closed
  | shifted shifts =>
      apply iff_of_false
      · rintro ⟨error, failed, _⟩
        cases failed
      · rintro ⟨closed, _⟩
        cases shifts.not_isClosedBy.symm.trans closed

/-- Whatever was fed before, the report of a call that fails is exact, unless the token is
too much; and it is too much exactly if every rule on the stack may end and cannot take it,
and it is no end marker. -/
theorem feed_reports_exactly {startName : Option String} {policy : AmbiguityPolicy}
    {start : SymbolId} {first : Session}
    (built : build rules vocabulary startName policy = .ok grammar)
    (prepared : prepare grammar start = .ok first) (tokens : List Token) (token : Token) :
    (∀ error, ((feedEach grammar first tokens).feed grammar token).1 = .error error →
      error.fault ≠ .tooMuchInput →
      IsExact grammar (feedEach grammar first tokens)
        ((feedEach grammar first tokens).feed grammar token).2 error) ∧
    ((∃ error, ((feedEach grammar first tokens).feed grammar token).1 = .error error ∧
        error.fault = .tooMuchInput) ↔
      (∀ frame ∈ (feedEach grammar first tokens).stack, frame.isAccepting = true ∧
        findMove? grammar frame.automaton frame.state (grammar.classify token) = none) ∧
      token.kind ≠ grammar.endMarker) := by
  obtain ⟨capacity, assembled, _⟩ := build_eq_ok_iff.mp built
  have compiled := compiled_of_assemble capacity assembled
  have firstSupported := Checked.supported_of_prepare compiled prepared
  have supported := Checked.supported_feedEach compiled firstSupported tokens
  constructor
  · intro error
    exact isExact_of_feed compiled (exact_of_assemble assembled) supported
  · rw [← isClosedBy_iff]
    exact tooMuchInput_iff compiled supported token

/-- A name, which an operator may follow, in front of a number. -/
def markedText : String := "a: b NUMBER\nb: NAME [OP]\n"

def wordToken (value : String) (column : Nat) : Token :=
  ⟨1, value, ⟨1, column⟩, ""⟩

/-- A second name ends the first rule and is refused by the other one, which expects a
number. -/
theorem feed_reports_exactly_markedText :
    ∃ rules grammar first, build rules .mini none .reject = .ok grammar ∧
      prepare grammar grammar.start = .ok first ∧
      ∃ error after, (feedEach grammar first [wordToken "x" 0]).feed grammar
          (wordToken "y" 2) = (.error error, after) ∧
        error.fault = .badInput ∧ error.expected = .ofList [1] ∧
        grammar.labels[1]? = some (.token 2) ∧
        IsExact grammar (feedEach grammar first [wordToken "x" 0]) after error := by
  have succeeds : (compile markedText .mini none .reject).isOk = true := by
    decide +kernel
  have contents : (compile markedText .mini none .reject).map (fun grammar =>
      (grammar.labels[1]?, (grammar.automaton? grammar.start).map fun automaton =>
        ((feedEach grammar (begin automaton) [wordToken "x" 0]).feed grammar
          (wordToken "y" 2)).1)) =
      .ok (some (.token 2), some (.error
        { fault := .badInput
          token := wordToken "y" 2
          expected := .ofList [1]
          accepting := false })) := by
    decide +kernel
  obtain ⟨grammar, compiled⟩ := exists_ok_of_isOk succeeds
  obtain ⟨rules, _, built⟩ := compile_eq_ok compiled
  rw [compiled] at contents
  obtain ⟨label_eq, contents⟩ := Prod.mk.inj (Except.ok.inj contents)
  obtain ⟨automaton, found, failed⟩ := Option.map_eq_some_iff.mp contents
  have prepared : prepare grammar grammar.start = .ok (begin automaton) := by
    simp only [prepare, found]
  have isExact := (feed_reports_exactly built prepared [wordToken "x" 0] (wordToken "y" 2)).1 _
    failed (by simp)
  exact ⟨rules, grammar, _, built, prepared, _, _, Prod.ext failed rfl, rfl, rfl, label_eq,
    isExact⟩

end Session

end RuleMachine
