import RuleMachine.Parsing.Error
import RuleMachine.Parsing.Tree

/-!
# Parsing sessions

A session is a push-down automaton that is fed one token at a time.  Its stack
holds the rules being matched, innermost first; each knows the state of its
automaton and the subtrees found so far.

A token is handled step by step: the innermost rule shifts it, descends into
another rule that can begin with it, or, if it can do neither, ends.  A rule that
can neither go on nor end makes the parse fail, and the session stays as it is
at that moment.
-/

namespace RuleMachine

/-- A rule being matched. -/
structure Frame where
  automaton : RuleAutomaton
  state : Nat
  /-- The place of the first subtree, or where the rule was entered. -/
  position : Position
  children : List Tree

namespace Frame

/-- A rule of which nothing is matched yet. -/
def enter (automaton : RuleAutomaton) (position : Position) : Frame where
  automaton
  state := 0
  position
  children := []

/-- The tree of what the rule has matched. -/
def tree (frame : Frame) : Tree :=
  .branch frame.automaton.symbol frame.position frame.children

/-- Move on to another state. -/
def moveTo (frame : Frame) (state : Nat) : Frame :=
  { frame with state }

/-- Append a subtree; the first one also fixes the place of the rule. -/
def attach (frame : Frame) (child : Tree) : Frame :=
  { frame with
    position := if frame.children.isEmpty then child.position else frame.position
    children := frame.children ++ [child] }

/-- Whether the rule may end. -/
def isAccepting (frame : Frame) : Bool :=
  frame.automaton.isAccepting frame.state

/-- Whether the rule may end and cannot go on. -/
def isFinished (frame : Frame) : Bool :=
  frame.automaton.isFinal frame.state

/-- The terminal labels that the rule can go on with. -/
def expected (frame : Frame) (grammar : Grammar) : NatSet :=
  .ofList ((frame.automaton.arcsAt frame.state).flatMap fun arc => grammar.reachable arc.label)

end Frame

/-- A parse in progress. -/
structure Session where
  /-- The rules being matched, innermost first. -/
  stack : List Frame
  /-- The tree of the start rule, once it has ended. -/
  root : Option Tree

namespace Session

/-- The session in which no rule is being matched. -/
def idle : Session where
  stack := []
  root := none

/-- The session that begins to match a rule. -/
def begin (automaton : RuleAutomaton) : Session where
  stack := [Frame.enter automaton ⟨0, 0⟩]
  root := none

/-- A symbol was to be parsed that is no rule of the grammar. -/
structure UnknownRule where
  symbol : SymbolId

/-- The text of the refusal. -/
def UnknownRule.message (refusal : UnknownRule) : String :=
  s!"symbol {refusal.symbol} is not a rule of this grammar"

/-- The session that begins to match the rule with the given symbol. -/
def prepare (grammar : Grammar) (start : SymbolId) : Except UnknownRule Session :=
  match grammar.automaton? start with
  | some automaton => .ok (begin automaton)
  | none => .error ⟨start⟩

/-! ## Moves -/

/-- What the innermost rule does about a token. -/
inductive Move where
  /-- Take the token and move to a state. -/
  | shift (target : Nat)
  /-- Move to a state, and match another rule first. -/
  | descend (target : Nat) (sub : RuleAutomaton)

/-- The first arc into a rule that can begin with a label. -/
def descent? (grammar : Grammar) (label : LabelId) (arcs : List Arc) : Option Move :=
  arcs.findSome? fun arc =>
    match grammar.subAutomaton? arc.label with
    | some sub => if sub.couldMatch label then some (.descend arc.target sub) else none
    | none => none

/-- The move of a state on a label: an arc with that label comes before every rule that
can begin with it. -/
def moveOn? (grammar : Grammar) (automaton : RuleAutomaton) (state : Nat) (label : LabelId) :
    Option Move :=
  match automaton.transition state label with
  | some target => some (.shift target)
  | none => descent? grammar label (automaton.arcsAt state)

/-- The move of a state on the first of the labels that has one. -/
def findMove? (grammar : Grammar) (automaton : RuleAutomaton) (state : Nat)
    (candidates : List LabelId) : Option Move :=
  candidates.findSome? (moveOn? grammar automaton state)

/-! ## Steps -/

/-- End the innermost rule: its tree goes to the rule below or becomes the root. -/
def pop (session : Session) : Session :=
  match session.stack with
  | [] => session
  | [frame] => { stack := [], root := some frame.tree }
  | frame :: parent :: below =>
      { session with stack := parent.attach frame.tree :: below }

/-- End the innermost rule as long as it is finished. -/
def settle (root : Option Tree) (frame : Frame) : List Frame → Session
  | [] =>
      if frame.isFinished then { stack := [], root := some frame.tree }
      else { stack := [frame], root }
  | parent :: below =>
      if frame.isFinished then settle root (parent.attach frame.tree) below
      else { stack := frame :: parent :: below, root }

/-- The error at a token, as the innermost rule sees it. -/
def failure (grammar : Grammar) (session : Session) (fault : ParseFault) (token : Token) :
    ParseError :=
  match session.stack with
  | [] => { fault, token, expected := .empty, accepting := true }
  | frame :: _ =>
      { fault, token, expected := frame.expected grammar, accepting := frame.isAccepting }

/-- Why a token with the given candidate labels cannot be parsed. -/
def faultOf (grammar : Grammar) (token : Token) (candidates : List LabelId) : ParseFault :=
  if token.kind = grammar.endMarker then .incompleteInput
  else if candidates.isEmpty then .badToken
  else .badInput

/-- What one step on a token leads to. -/
inductive Step where
  /-- The innermost rule has ended. -/
  | popped (session : Session)
  /-- Another rule was entered. -/
  | pushed (session : Session)
  /-- The token is dealt with: the parse is complete or not, or it failed. -/
  | stopped (answer : Except ParseError Bool) (session : Session)

/-- One step on a token with the given candidate labels. -/
def step (grammar : Grammar) (token : Token) (candidates : List LabelId) (session : Session) :
    Step :=
  match session.stack with
  | [] =>
      if token.kind = grammar.endMarker then
        .stopped (.ok true) session
      else
        .stopped (.error (failure grammar session .tooMuchInput token)) session
  | frame :: below =>
      match findMove? grammar frame.automaton frame.state candidates with
      | some (.shift target) =>
          let settled :=
            settle session.root ((frame.moveTo target).attach (.ofToken token)) below
          .stopped (.ok settled.stack.isEmpty) settled
      | some (.descend target sub) =>
          .pushed
            { session with
              stack := Frame.enter sub token.position :: frame.moveTo target :: below }
      | none =>
          if frame.isAccepting then
            .popped session.pop
          else
            .stopped
              (.error (failure grammar session (faultOf grammar token candidates) token)) session

/-- Step until the token is dealt with, at most `count` times. -/
def run (grammar : Grammar) (token : Token) (candidates : List LabelId) :
    Nat → Session → Except ParseError Bool × Session
  | 0, session =>
      (.error (failure grammar session (faultOf grammar token candidates) token), session)
  | count + 1, session =>
      match step grammar token candidates session with
      | .popped next => run grammar token candidates count next
      | .pushed next => run grammar token candidates count next
      | .stopped answer final => (answer, final)

/-- A number of steps that suffices for one token: every rule on the stack may end, every
rule of the grammar may be entered once, and then the token is dealt with. -/
def stepBound (grammar : Grammar) (session : Session) : Nat :=
  session.stack.length + grammar.automata.length + 1

/-- Feed a token.  The answer tells whether the start rule is complete; the session is
changed even when the parse fails. -/
def feed (grammar : Grammar) (session : Session) (token : Token) :
    Except ParseError Bool × Session :=
  run grammar token (grammar.classify token) (stepBound grammar session) session

end Session

end RuleMachine
