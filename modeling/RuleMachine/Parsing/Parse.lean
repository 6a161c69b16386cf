import RuleMachine.Parsing.Session

/-!
# Parsing whole inputs

The tokens of an input are fed to a session one after the other.  If the start
rule is not complete behind the last one, an end marker is fed right behind it.
A token needs a place behind it, where the marker could stand, before it is fed.
-/

namespace RuleMachine

/-- Why a parse gives no tree. -/
inductive ParseFailure where
  /-- The rule to be parsed is not in the grammar. -/
  | unknownRule (refusal : Session.UnknownRule)
  /-- A token reaches beyond the last column. -/
  | outOfColumns (token : Token)
  /-- A token cannot be parsed. -/
  | refused (error : ParseError)

namespace Session

/-- How far an input has been fed. -/
structure Progress where
  session : Session
  /-- Whether the start rule was complete behind the last token. -/
  isDone : Bool
  /-- The place right behind the last token. -/
  finish : Position

/-- Feed tokens up to the first failure. -/
def feedAll (grammar : Grammar) (progress : Progress) :
    List Token → Except ParseFailure Progress
  | [] => .ok progress
  | token :: later =>
      match token.endPosition? with
      | none => .error (.outOfColumns token)
      | some finish =>
          match progress.session.feed grammar token with
          | (.error error, _) => .error (.refused error)
          | (.ok isDone, session) => feedAll grammar { session, isDone, finish } later

/-- Feed an end marker if the start rule is not complete. -/
def finishInput (grammar : Grammar) (progress : Progress) : Except ParseError Session :=
  if progress.isDone then
    .ok progress.session
  else
    let marker := Token.endMarkerAt grammar.endMarker progress.finish
    match progress.session.feed grammar marker with
    | (.error error, _) => .error error
    | (.ok true, session) => .ok session
    | (.ok false, session) => .error (session.failure grammar .incompleteInput marker)

end Session

open Session

/-- Parse tokens with the given automaton as the start rule. -/
def parseFrom (grammar : Grammar) (automaton : RuleAutomaton) (tokens : List Token) :
    Except ParseFailure Tree :=
  let beginning : Progress :=
    { session := .begin automaton, isDone := false, finish := ⟨1, 0⟩ }
  match feedAll grammar beginning tokens with
  | .error cause => .error cause
  | .ok progress =>
      match finishInput grammar progress with
      | .error error => .error (.refused error)
      | .ok session =>
          match session.root with
          | some root => .ok root
          | none =>
              .error (.refused
                { fault := .incompleteInput
                  token := .endMarkerAt grammar.endMarker progress.finish
                  expected := .empty
                  accepting := false })

/-- Parse tokens as what the rule with the given symbol matches. -/
def parse (grammar : Grammar) (start : SymbolId) (tokens : List Token) :
    Except ParseFailure Tree :=
  match grammar.automaton? start with
  | none => .error (.unknownRule ⟨start⟩)
  | some automaton => parseFrom grammar automaton tokens

end RuleMachine
