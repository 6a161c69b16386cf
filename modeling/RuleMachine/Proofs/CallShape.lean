import RuleMachine.Proofs.GaplessGrammars

/-!
# The shape of a call

A token is dealt with in a loop of steps, and entering a rule does not take the token.
Still the loop always ends, and always in the same order: some rules end, then rules are
entered one inside the other, each of them once, and the last one shifts the token.  The
ranks of the entered rules descend, so none of them occurs twice; and each of them begins
with a label of the token, so none of them ends or fails before the token is shifted.
-/

namespace RuleMachine

open Grammar

namespace Session

variable {grammar : Grammar} {token : Token} {session next middle last final : Session}
  {frame : Frame} {below : List Frame} {answer : Except ParseError Bool}

/-! ## Turns of the loop -/

/-- A turn of the loop that does not stop it. -/
inductive Turn where
  /-- The innermost rule ends. -/
  | pop
  /-- The rule with the given symbol is entered. -/
  | push (symbol : SymbolId)

/-- Turns of the loop on a token, one after the other. -/
inductive Turns (grammar : Grammar) (token : Token) : Session → List Turn → Session → Prop
  | refl (session : Session) : Turns grammar token session [] session
  | pop {session next last : Session} {turns : List Turn} :
      step grammar token (grammar.classify token) session = .popped next →
      Turns grammar token next turns last → Turns grammar token session (.pop :: turns) last
  | push {session next last : Session} {frame : Frame} {below : List Frame}
      {turns : List Turn} :
      step grammar token (grammar.classify token) session = .pushed next →
      next.stack = frame :: below → Turns grammar token next turns last →
      Turns grammar token session (.push frame.automaton.symbol :: turns) last

theorem Turns.append {turns later : List Turn} (first : Turns grammar token session turns middle)
    (second : Turns grammar token middle later last) :
    Turns grammar token session (turns ++ later) last := by
  induction first with
  | refl => exact second
  | pop popped _ inductionHypothesis => exact .pop popped (inductionHypothesis second)
  | push pushed stack_eq _ inductionHypothesis =>
      exact .push pushed stack_eq (inductionHypothesis second)

/-- Rules that are finished end, one after the other, until the innermost one is not
finished or none is left. -/
inductive Settles : Session → Session → Prop
  | refl {session : Session} :
      (∀ frame below, session.stack = frame :: below → frame.isFinished = false) →
      Settles session session
  | pop {session final : Session} {frame : Frame} {below : List Frame} :
      session.stack = frame :: below → frame.isFinished = true → Settles session.pop final →
      Settles session final

theorem settles_settle (root : Option Tree) (frame : Frame) (below : List Frame) :
    Settles { stack := frame :: below, root } (settle root frame below) := by
  induction below generalizing frame with
  | nil =>
      by_cases finished : frame.isFinished = true
      · rw [settle, if_pos finished]
        refine .pop rfl finished (.refl ?_)
        intro top lower stack_eq
        cases stack_eq
      · rw [settle, if_neg finished]
        refine .refl ?_
        intro top lower stack_eq
        cases stack_eq
        exact Bool.eq_false_of_not_eq_true finished
  | cons parent below inductionHypothesis =>
      by_cases finished : frame.isFinished = true
      · rw [settle, if_pos finished]
        exact .pop rfl finished (inductionHypothesis (parent.attach frame.tree))
      · rw [settle, if_neg finished]
        refine .refl ?_
        intro top lower stack_eq
        cases stack_eq
        exact Bool.eq_false_of_not_eq_true finished

/-- The innermost rule shifts a token, and then finished rules end. -/
inductive ShiftsOnTop (grammar : Grammar) (token : Token) (last final : Session) : Prop
  | intro {frame : Frame} {below : List Frame} {target : Nat} :
      last.stack = frame :: below →
      findMove? grammar frame.automaton frame.state (grammar.classify token) =
        some (.shift target) →
      Settles { last with stack := (frame.moveTo target).attach (.ofToken token) :: below } final →
      ShiftsOnTop grammar token last final

/-- How the loop stops in a session, where the rules are given that were entered.  It is
complete or fails only if no rule was entered. -/
inductive Stops (grammar : Grammar) (token : Token) (last : Session) :
    List SymbolId → Except ParseError Bool → Session → Prop
  | complete : last.stack = [] → token.kind = grammar.endMarker →
      Stops grammar token last [] (.ok true) last
  | failed (error : ParseError) : Stops grammar token last [] (.error error) last
  | shifted (entered : List SymbolId) {final : Session} : ShiftsOnTop grammar token last final →
      Stops grammar token last entered (.ok final.stack.isEmpty) final

/-- The loop on a token: rules end, the given ones are entered, and it stops in the session
`last` with an answer and a final session. -/
structure CallShape (grammar : Grammar) (session : Session) (token : Token) (pops : Nat)
    (entered : List SymbolId) (last : Session) (answer : Except ParseError Bool)
    (final : Session) : Prop where
  turns : Turns grammar token session (List.replicate pops .pop ++ entered.map .push) last
  stopped : step grammar token (grammar.classify token) last = .stopped answer final
  stops : Stops grammar token last entered answer final
  fewPops : pops ≤ session.stack.length
  distinct : entered.Nodup
  fewEntered : entered.length ≤ grammar.automata.length

/-! ## Ending rules -/

theorem step_of_isClosedBy (stack_eq : session.stack = frame :: below)
    (closed : frame.isClosedBy grammar token = true) :
    step grammar token (grammar.classify token) session = .popped session.pop := by
  obtain ⟨noMove, accepting⟩ := Bool.and_eq_true_iff.mp closed
  simp only [step, stack_eq, Option.isNone_iff_eq_none.mp noMove, accepting, if_true]

/-- Rules that end in front of a token are turns of the loop, at most one for each rule on
the stack. -/
theorem Closes.exists_turns (closes : Closes grammar token session middle) :
    ∃ pops ≤ session.stack.length,
      Turns grammar token session (List.replicate pops .pop) middle := by
  induction closes with
  | refl session => exact ⟨0, Nat.zero_le _, .refl session⟩
  | @pop session final frame below stack_eq closed _ inductionHypothesis =>
      obtain ⟨pops, bounded, turns⟩ := inductionHypothesis
      rw [stack_pop stack_eq, length_stackBelow] at bounded
      refine ⟨pops + 1, ?_, .pop (step_of_isClosedBy stack_eq closed) turns⟩
      rw [stack_eq, List.length_cons]
      exact Nat.succ_le_succ bounded

/-! ## Entering rules -/

/-- Numbers that descend from a bound are at most as many as the bound. -/
theorem length_le_of_descending {Item : Type} {rank : Item → Nat} {items : List Item}
    {bound : Nat} (descending : items.Pairwise fun earlier later => rank later < rank earlier)
    (bounded : ∀ item ∈ items, rank item < bound) : items.length ≤ bound := by
  have distinct : (items.map rank).Nodup :=
    List.pairwise_map.mpr (descending.imp Nat.ne_of_gt)
  have inRange : items.map rank ⊆ List.range bound := by
    intro number isRank
    obtain ⟨item, isItem, rfl⟩ := List.mem_map.mp isRank
    exact List.mem_range.mpr (bounded item isItem)
  have counted := (List.subperm_of_subset distinct inRange).length_le
  rw [List.length_map, List.length_range] at counted
  exact counted

theorem Shifts.exists_top (shifts : Shifts grammar token session final) :
    ∃ frame below, session.stack = frame :: below := by
  cases shifts with
  | shift stack_eq _ => exact ⟨_, _, stack_eq⟩
  | push stack_eq _ _ => exact ⟨_, _, stack_eq⟩

section Compiled

variable {rules : List Rule} {vocabulary : Vocabulary}

/-- Where a token is shifted, the rules that are entered on the way have descending ranks. -/
theorem Shifts.exists_turns (compiled : Compiled rules vocabulary grammar)
    {rank : SymbolId → Nat}
    (descending : ∀ symbol automaton arc subSymbol sub,
      grammar.automaton? symbol = some automaton → arc ∈ automaton.arcsAt 0 →
      grammar.labelTable.get? arc.label = some (.rule subSymbol) →
      grammar.automaton? subSymbol = some sub → rank subSymbol < rank symbol)
    (shifts : Shifts grammar token session final) (supported : frame.Supported grammar)
    (isTop : session.stack = frame :: below) {count : Nat}
    (budget : Budget grammar rank frame count) :
    ∃ (entered : List SymbolId) (last : Session),
      Turns grammar token session (entered.map .push) last ∧
      step grammar token (grammar.classify token) last =
        .stopped (.ok final.stack.isEmpty) final ∧
      ShiftsOnTop grammar token last final ∧
      (entered.Pairwise fun earlier later => rank later < rank earlier) ∧
      ∀ symbol ∈ entered, rank symbol + 1 < count := by
  induction shifts generalizing frame below count with
  | @shift session top lower target stack_eq moves =>
      refine ⟨[], session, .refl session, ?_, ?_, .nil, by simp⟩
      · simp only [step, stack_eq, moves]
      · exact .intro stack_eq moves (settles_settle session.root _ lower)
  | @push session final top lower target sub stack_eq moves _ inductionHypothesis =>
      obtain ⟨rfl, rfl⟩ := List.cons.inj (stack_eq.symm.trans isTop)
      obtain ⟨label, _, arc, isArc, takes⟩ := supported.exists_takes compiled moves
      cases takes with
      | descend isSub _ =>
          obtain ⟨symbol, isRule, found⟩ := subAutomaton?_eq_some.mp isSub
          have symbolBelow := budget.ranks arc isArc symbol sub isRule found
          have entering := Frame.Supported.enter compiled found token.position
          have subBudget : Budget grammar rank (.enter sub token.position) (rank symbol + 1) := by
            refine ⟨Nat.succ_pos _, ?_⟩
            intro subArc isSubArc lowerSymbol lowerSub isLowerRule lowerFound
            exact Nat.succ_lt_succ (descending symbol sub subArc lowerSymbol lowerSub found
              isSubArc isLowerRule lowerFound)
          obtain ⟨entered, last, turns, stopped, onTop, pairwise, ranksBelow⟩ :=
            inductionHypothesis entering rfl subBudget
          have pushed : step grammar token (grammar.classify token) session = .pushed
              { session with
                stack := .enter sub token.position :: top.moveTo arc.target :: lower } := by
            simp only [step, stack_eq, moves]
          have pushes : Turns grammar token session
              (.push sub.symbol :: entered.map .push) last := .push pushed rfl turns
          rw [compiled.symbol_eq found] at pushes
          refine ⟨symbol :: entered, last, pushes, stopped, onTop, ?_, ?_⟩
          · refine List.pairwise_cons.mpr ⟨?_, pairwise⟩
            intro later isLater
            exact Nat.lt_of_succ_lt_succ (ranksBelow later isLater)
          · refine List.forall_mem_cons.mpr ⟨symbolBelow, ?_⟩
            intro later isLater
            exact Nat.lt_trans (ranksBelow later isLater) symbolBelow

/-- A loop that stops where rules have ended. -/
theorem Closes.exists_callShape (closes : Closes grammar token session middle)
    (stopped : step grammar token (grammar.classify token) middle = .stopped answer final)
    (stops : Stops grammar token middle [] answer final) :
    ∃ pops entered last,
      CallShape grammar session token pops entered last answer final := by
  obtain ⟨pops, fewPops, turns⟩ := closes.exists_turns
  exact ⟨pops, [], middle, turns.append (.refl middle), stopped, stops, fewPops, .nil,
    Nat.zero_le _⟩

theorem exists_callShape (compiled : Compiled rules vocabulary grammar)
    (supported : Supported grammar session) (token : Token) :
    ∃ pops entered last, CallShape grammar session token pops entered last
      (session.feed grammar token).1 (session.feed grammar token).2 := by
  obtain ⟨middle, closes, outcome⟩ := feed_cases compiled supported token
  generalize (session.feed grammar token).1 = answer at outcome ⊢
  generalize (session.feed grammar token).2 = final at outcome ⊢
  cases outcome with
  | complete stack_eq isMarker =>
      refine closes.exists_callShape ?_ (.complete stack_eq isMarker)
      simp only [step, stack_eq, isMarker, if_true]
  | beyond stack_eq notMarker =>
      refine closes.exists_callShape ?_ (.failed _)
      simp only [step, stack_eq, notMarker, if_false]
  | stuck stack_eq noMove refuses =>
      refine closes.exists_callShape ?_ (.failed _)
      simp only [step, stack_eq, noMove, refuses, Bool.false_eq_true, if_false]
  | shifted shifts =>
      obtain ⟨rank, bounded, descending⟩ := compiled.exists_rank
      obtain ⟨frame, below, stack_eq⟩ := shifts.exists_top
      have topSupported := closes.supported supported frame (stack_eq ▸ .head below)
      obtain ⟨pops, fewPops, popTurns⟩ := closes.exists_turns
      obtain ⟨entered, last, pushTurns, stopped, onTop, pairwise, ranksBelow⟩ :=
        shifts.exists_turns compiled descending topSupported stack_eq
          (budget_of_lt bounded (Nat.lt_succ_self _))
      refine ⟨pops, entered, last, popTurns.append pushTurns, stopped, .shifted entered onTop,
        fewPops, ?_, ?_⟩
      · refine pairwise.imp ?_
        rintro earlier later isBelow rfl
        exact Nat.lt_irrefl _ isBelow
      · refine length_le_of_descending pairwise ?_
        intro symbol isEntered
        exact Nat.lt_of_succ_lt_succ (ranksBelow symbol isEntered)

/-- Whatever was fed before, a token is dealt with in a loop that ends.  Its turns are rules
that end, then rules that are entered, none of them twice, and then the loop stops.  If a
rule was entered, it stops by shifting the token in the innermost rule; behind this,
finished rules end. -/
theorem feed_shape {startName : Option String} {policy : AmbiguityPolicy} {start : SymbolId}
    {first : Session} (built : build rules vocabulary startName policy = .ok grammar)
    (prepared : prepare grammar start = .ok first) (tokens : List Token) (token : Token) :
    ∃ pops entered last, CallShape grammar (feedEach grammar first tokens) token pops entered
      last ((feedEach grammar first tokens).feed grammar token).1
      ((feedEach grammar first tokens).feed grammar token).2 := by
  obtain ⟨compiled, _⟩ := compiled_of_build built
  have supported := Checked.supported_of_prepare compiled prepared
  exact exists_callShape compiled (Checked.supported_feedEach compiled supported tokens) token

end Compiled

/-- A second item ends the first one and is entered itself, in one call that succeeds. -/
theorem feed_shape_itemsTokens :
    ∃ rules grammar first, build rules .mini none .firstWins = .ok grammar ∧
      prepare grammar grammar.start = .ok first ∧
      ∃ pops entered last final, CallShape grammar
        (feedEach grammar first [⟨1, "x", ⟨1, 0⟩, ""⟩]) ⟨1, "y", ⟨1, 2⟩, ""⟩ pops entered last
        (.ok false) final := by
  have succeeds : (compile itemsText .mini none .firstWins).isOk = true := by
    decide +kernel
  have contents : (compile itemsText .mini none .firstWins).map (fun grammar =>
      (grammar.automaton? grammar.start).map fun automaton =>
        ((feedEach grammar (begin automaton) [⟨1, "x", ⟨1, 0⟩, ""⟩]).feed grammar
          ⟨1, "y", ⟨1, 2⟩, ""⟩).1) = .ok (some (.ok false)) := by
    decide +kernel
  obtain ⟨grammar, compiled⟩ := exists_ok_of_isOk succeeds
  obtain ⟨rules, _, built⟩ := compile_eq_ok compiled
  rw [compiled] at contents
  obtain ⟨automaton, found, answer_eq⟩ := Option.map_eq_some_iff.mp (Except.ok.inj contents)
  have prepared : prepare grammar grammar.start = .ok (begin automaton) := by
    simp only [prepare, found]
  obtain ⟨pops, entered, last, shape⟩ :=
    feed_shape built prepared [⟨1, "x", ⟨1, 0⟩, ""⟩] ⟨1, "y", ⟨1, 2⟩, ""⟩
  rw [answer_eq] at shape
  exact ⟨rules, grammar, _, built, prepared, pops, entered, last, _, shape⟩

end Session

end RuleMachine
