import RuleMachine.Parsing.Parse
import RuleMachine.Proofs.DfaRuns

/-!
# Derivations

A derivation says how the subtrees of a rule come about without any stack: the
automaton of the rule follows one arc for each subtree, a token is matched by one
of its candidate labels, and a branch is what the rule of the arc's label matched
in the same way.  A rule ends only where its automaton accepts and where the next
token of the input cannot go on.
-/

namespace RuleMachine

namespace Tree

/-! ## Leaves and places -/

theorem leavesFrom_append (left right : List Tree) :
    leavesFrom (left ++ right) = leavesFrom left ++ leavesFrom right := by
  fun_induction leavesFrom left with
  | case1 => rfl
  | case2 kind value position later inductionHypothesis =>
      rw [List.cons_append, leavesFrom, inductionHypothesis, List.cons_append]
  | case3 symbol position children later inductionHypothesis =>
      rw [List.cons_append, leavesFrom, ← List.append_assoc, inductionHypothesis]

theorem leavesFrom_cons (tree : Tree) (later : List Tree) :
    leavesFrom (tree :: later) = tree.leaves ++ leavesFrom later :=
  leavesFrom_append [tree] later

theorem leaves_ofToken (token : Token) : (ofToken token).leaves = [ofToken token] := by
  rw [leaves, ofToken, leavesFrom, leavesFrom]

theorem leaves_branch (symbol : SymbolId) (position : Position) (children : List Tree) :
    (branch symbol position children).leaves = leavesFrom children := by
  rw [leaves, leavesFrom, List.append_nil]

/-- The place of a branch with the given children: that of the first one, or else the
place where the rule was entered. -/
def placeOf (entry : Position) : List Tree → Position
  | [] => entry
  | child :: _ => child.position

end Tree

namespace Grammar

/-! ## Derivations -/

/-- An arc can be taken on a terminal label: it has that label, or it descends into a rule
that can begin with it. -/
def Answers (grammar : Grammar) (arc : Arc) (label : LabelId) : Prop :=
  arc.label = label ∨ ∃ sub, grammar.subAutomaton? arc.label = some sub ∧ label ∈ sub.first

/-- No arc of a state can be taken on the next token; behind the last token there must not
be an arc at all. -/
def Blocked (grammar : Grammar) (automaton : RuleAutomaton) (state : Nat) :
    List Token → Prop
  | [] => automaton.arcsAt state = []
  | token :: _ =>
      ∀ arc ∈ automaton.arcsAt state, ∀ label ∈ grammar.classify token,
        ¬grammar.Answers arc label

/-- A rule ends in a state, where the rest of the input is given. -/
structure Ends (grammar : Grammar) (automaton : RuleAutomaton) (state : Nat)
    (rest : List Token) : Prop where
  accepting : Dfa.IsAccepting automaton.states state
  blocked : grammar.Blocked automaton state rest

/-- Subtrees lead an automaton from one state to another one while they take tokens from
the input: `Derives grammar automaton state input children target rest`. -/
inductive Derives (grammar : Grammar) :
    RuleAutomaton → Nat → List Token → List Tree → Nat → List Token → Prop
  | refl (automaton : RuleAutomaton) (state : Nat) (input : List Token) :
      Derives grammar automaton state input [] state input
  | token {automaton : RuleAutomaton} {state target : Nat} {token : Token}
      {input rest : List Token} {children : List Tree} {arc : Arc} :
      arc ∈ automaton.arcsAt state → arc.label ∈ grammar.classify token →
      Derives grammar automaton arc.target input children target rest →
      Derives grammar automaton state (token :: input) (.ofToken token :: children) target rest
  | rule {automaton sub : RuleAutomaton} {state target last : Nat}
      {input middle rest : List Token} {inner children : List Tree} {arc : Arc}
      {symbol : SymbolId} (entry : Position) :
      arc ∈ automaton.arcsAt state → grammar.labelTable.get? arc.label = some (.rule symbol) →
      grammar.automaton? symbol = some sub →
      Derives grammar sub 0 input inner last middle → grammar.Ends sub last middle →
      Derives grammar automaton arc.target middle children target rest →
      Derives grammar automaton state input
        (.branch symbol (Tree.placeOf entry inner) inner :: children) target rest

namespace Derives

variable {grammar : Grammar} {automaton : RuleAutomaton} {state middleState target : Nat}
  {input middle rest : List Token} {children later : List Tree}

theorem trans (first : Derives grammar automaton state input children middleState middle)
    (second : Derives grammar automaton middleState middle later target rest) :
    Derives grammar automaton state input (children ++ later) target rest := by
  induction first with
  | refl => exact second
  | token isArc isCandidate _ inductionHypothesis =>
      exact .token isArc isCandidate (inductionHypothesis second)
  | rule entry isArc isRule found inner ends _ _ inductionHypothesis =>
      exact .rule entry isArc isRule found inner ends (inductionHypothesis second)

/-- The leaves of a derivation are the tokens that it takes from the input. -/
theorem leaves_eq (derives : Derives grammar automaton state input children target rest) :
    ∃ consumed, input = consumed ++ rest ∧
      Tree.leavesFrom children = consumed.map Tree.ofToken := by
  induction derives with
  | refl => exact ⟨[], rfl, by rw [Tree.leavesFrom, List.map_nil]⟩
  | @token _ _ _ token _ _ _ _ _ _ _ inductionHypothesis =>
      obtain ⟨consumed, rfl, leaves_eq⟩ := inductionHypothesis
      refine ⟨token :: consumed, rfl, ?_⟩
      rw [Tree.leavesFrom_cons, Tree.leaves_ofToken, leaves_eq, List.map_cons,
        List.singleton_append]
  | rule _ _ _ _ _ _ _ innerHypothesis inductionHypothesis =>
      obtain ⟨innerConsumed, rfl, innerLeaves⟩ := innerHypothesis
      obtain ⟨consumed, rfl, leaves_eq⟩ := inductionHypothesis
      refine ⟨innerConsumed ++ consumed, (List.append_assoc _ _ _).symm, ?_⟩
      rw [Tree.leavesFrom_cons, Tree.leaves_branch, innerLeaves, leaves_eq, List.map_append]

end Derives

end Grammar

/-! ## Parses -/

/-- The place right behind a token. -/
def Token.finish (token : Token) : Position :=
  ⟨token.position.line, token.position.column + token.value.length⟩

theorem Token.eq_finish_of_endPosition? {token : Token} {finish : Position}
    (isFinish : token.endPosition? = some finish) :
    finish = token.finish ∧ finish.column < UInt64.size := by
  unfold endPosition? at isFinish
  simp only at isFinish
  split at isFinish
  · rename_i withinColumns
    cases isFinish
    exact ⟨rfl, withinColumns⟩
  · cases isFinish

namespace Grammar

/-- The tokens of an input and the end marker right behind the last one. -/
def closedInput (grammar : Grammar) (tokens : List Token) : List Token :=
  tokens ++ [.endMarkerAt grammar.endMarker (tokens.getLast?.elim ⟨1, 0⟩ Token.finish)]

/-- A tree is derived from the start rule, and nothing but end markers is left behind it. -/
inductive IsParse (grammar : Grammar) (start : SymbolId) (tokens : List Token) : Tree → Prop
  | intro {automaton : RuleAutomaton} {children : List Tree} {last : Nat}
      {rest : List Token} :
      grammar.automaton? start = some automaton →
      Derives grammar automaton 0 (grammar.closedInput tokens) children last rest →
      grammar.Ends automaton last rest → (∀ token ∈ rest, token.kind = grammar.endMarker) →
      IsParse grammar start tokens (.branch start (Tree.placeOf ⟨0, 0⟩ children) children)

theorem IsParse.leaves_eq {grammar : Grammar} {start : SymbolId} {tokens : List Token}
    {tree : Tree} (isParse : IsParse grammar start tokens tree) :
    ∃ consumed rest, grammar.closedInput tokens = consumed ++ rest ∧
      tree.leaves = consumed.map Tree.ofToken ∧
      ∀ token ∈ rest, token.kind = grammar.endMarker := by
  cases isParse with
  | @intro automaton children last rest found derives ends areMarkers =>
      obtain ⟨consumed, input_eq, leaves_eq⟩ := derives.leaves_eq
      refine ⟨consumed, rest, input_eq, ?_, areMarkers⟩
      rw [Tree.leaves_branch, leaves_eq]

end Grammar

end RuleMachine
