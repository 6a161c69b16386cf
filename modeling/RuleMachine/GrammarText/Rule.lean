import RuleMachine.GrammarText.Expr
import RuleMachine.GrammarText.Scan
import RuleMachine.NameTree

/-!
# Reading rules

The lexemes of a grammar text are read by recursive descent after this grammar:

```text
file:  (rule | NEWLINE)* ENDMARKER
rule:  NAME ':' alts NEWLINE
alts:  items ('|' items)*
items: item+
item:  '[' alts ']' | atom ['+' | '*']
atom:  '(' alts ')' | NAME | STRING
```

Each function reads one of these from the front of a list of lexemes and gives
back what stands behind it.  A bound on the number of nested calls makes the
descent structural; the bound given by `readRules` is never reached, because
every fourth call takes a lexeme.
-/

namespace RuleMachine

/-- An item of a rule as written: a bare name or a quoted literal. -/
structure Term where
  text : String
  isQuoted : Bool
  location : Location
  deriving DecidableEq, Repr

/-- A rule of a grammar as written. -/
structure Rule where
  name : String
  body : Expr Term
  deriving DecidableEq, Repr

namespace GrammarText

/-- Reading gives a value and the lexemes behind it. -/
abbrev Reading (Value : Type) := Except GrammarError (Value × List Lexeme)

/-- The lexeme in front; behind the last one there are only end markers. -/
def peek (lexemes : List Lexeme) : Lexeme :=
  lexemes.headD (Lexeme.finish 0)

/-- Refuse the lexeme in front. -/
def refuse {Value : Type} (lexemes : List Lexeme) (reason : Malformation) : Reading Value :=
  .error (.placed (.malformed reason) (peek lexemes).location)

/-- Take a lexeme of the given kind. -/
def expectKind (wanted : LexemeKind) (lexemes : List Lexeme) : Reading Lexeme :=
  if (peek lexemes).kind = wanted then
    .ok (peek lexemes, lexemes.tail)
  else
    refuse lexemes (.unexpectedKind wanted (peek lexemes).kind)

/-- Take the given operator. -/
def expectOperator (wanted : String) (lexemes : List Lexeme) : Reading Lexeme :=
  if (peek lexemes).kind ≠ .operator then
    refuse lexemes (.unexpectedKind .operator (peek lexemes).kind)
  else if (peek lexemes).text ≠ wanted then
    refuse lexemes (.unexpectedOperator wanted (peek lexemes).text)
  else
    .ok (peek lexemes, lexemes.tail)

/-- Whether an item begins with a lexeme. -/
def startsItem (lexeme : Lexeme) : Bool :=
  match lexeme.kind with
  | .name | .quoted => true
  | .operator => lexeme.text == "(" || lexeme.text == "["
  | .newline | .endMarker => false

/-- Read the repetition mark behind an atom, if there is one. -/
def readRepetition (atom : Expr Term) (lexemes : List Lexeme) : Expr Term × List Lexeme :=
  if (peek lexemes).isOperator "+" then
    (.plus atom, lexemes.tail)
  else if (peek lexemes).isOperator "*" then
    (.star atom, lexemes.tail)
  else
    (atom, lexemes)

mutual

/-- Read alternatives. -/
def readAlternatives (calls : Nat) (lexemes : List Lexeme) : Reading (Expr Term) :=
  match calls with
  | 0 => refuse lexemes (.missingAtom (peek lexemes).text)
  | calls + 1 =>
      match readItems calls lexemes with
      | .error error => .error error
      | .ok (first, rest) =>
          if (peek rest).isOperator "|" then
            match readAlternatives calls rest.tail with
            | .error error => .error error
            | .ok (others, behind) => .ok (.alt first others, behind)
          else
            .ok (first, rest)

/-- Read one or several items. -/
def readItems (calls : Nat) (lexemes : List Lexeme) : Reading (Expr Term) :=
  match calls with
  | 0 => refuse lexemes (.missingAtom (peek lexemes).text)
  | calls + 1 =>
      match readItem calls lexemes with
      | .error error => .error error
      | .ok (first, rest) =>
          if startsItem (peek rest) then
            match readItems calls rest with
            | .error error => .error error
            | .ok (others, behind) => .ok (.seq first others, behind)
          else
            .ok (first, rest)

/-- Read an optional part, or an atom with its repetition mark. -/
def readItem (calls : Nat) (lexemes : List Lexeme) : Reading (Expr Term) :=
  match calls with
  | 0 => refuse lexemes (.missingAtom (peek lexemes).text)
  | calls + 1 =>
      if (peek lexemes).isOperator "[" then
        match readAlternatives calls lexemes.tail with
        | .error error => .error error
        | .ok (body, rest) =>
            match expectOperator "]" rest with
            | .error error => .error error
            | .ok (_, behind) => .ok (.opt body, behind)
      else
        match readAtom calls lexemes with
        | .error error => .error error
        | .ok (atom, rest) => .ok (readRepetition atom rest)

/-- Read a term or alternatives in parentheses. -/
def readAtom (calls : Nat) (lexemes : List Lexeme) : Reading (Expr Term) :=
  match calls with
  | 0 => refuse lexemes (.missingAtom (peek lexemes).text)
  | calls + 1 =>
      if (peek lexemes).isOperator "(" then
        match readAlternatives calls lexemes.tail with
        | .error error => .error error
        | .ok (body, rest) =>
            match expectOperator ")" rest with
            | .error error => .error error
            | .ok (_, behind) => .ok (body, behind)
      else
        let front := peek lexemes
        match front.kind with
        | .name => .ok (.term ⟨front.text, false, front.location⟩, lexemes.tail)
        | .quoted => .ok (.term ⟨front.text, true, front.location⟩, lexemes.tail)
        | .operator | .newline | .endMarker => refuse lexemes (.missingAtom front.text)

end

/-- More nested calls than reading the lexemes can need. -/
def callBound (lexemes : List Lexeme) : Nat :=
  4 * lexemes.length + 4

/-- Read a rule with its line end, where the bound holds for its right-hand side. -/
def readRuleWithin (calls : Nat) (lexemes : List Lexeme) : Reading Rule :=
  match expectKind .name lexemes with
  | .error error => .error error
  | .ok (name, behindName) =>
      match expectOperator ":" behindName with
      | .error error => .error error
      | .ok (_, behindColon) =>
          match readAlternatives calls behindColon with
          | .error error => .error error
          | .ok (body, behindBody) =>
              match expectKind .newline behindBody with
              | .error error => .error error
              | .ok (_, behind) => .ok (⟨name.text, body⟩, behind)

/-- Read rules and empty lines up to the end marker, where `names` are the names of the
rules before and `bound` holds for every right-hand side.  A second rule of one name is
refused at the place where it begins. -/
def readLater (bound calls : Nat) (names : NameTree) (lexemes : List Lexeme) :
    Except GrammarError (List Rule) :=
  match calls with
  | 0 => .ok []
  | calls + 1 =>
      match (peek lexemes).kind with
      | .endMarker => .ok []
      | .newline => readLater bound calls names lexemes.tail
      | .name | .quoted | .operator =>
          match readRuleWithin bound lexemes with
          | .error error => .error error
          | .ok (rule, behind) =>
              if names.contains rule.name then
                .error (.placed (.duplicateRule rule.name) (peek lexemes).location)
              else
                match readLater bound calls (names.insert rule.name) behind with
                | .error error => .error error
                | .ok later => .ok (rule :: later)

/-- Read rules and empty lines up to the end marker, where `earlier` are the rules read
before. -/
def readFile (calls : Nat) (earlier : List Rule) (lexemes : List Lexeme) :
    Except GrammarError (List Rule) :=
  match readLater (callBound lexemes) calls (.ofList (earlier.map Rule.name)) lexemes with
  | .error error => .error error
  | .ok later => .ok (earlier ++ later)

/-- The rules that a list of lexemes spells; there has to be at least one. -/
def rulesOf (lexemes : List Lexeme) : Except GrammarError (List Rule) :=
  match readFile lexemes.length [] lexemes with
  | .error error => .error error
  | .ok [] => .error (.unplaced (.malformed .noRules))
  | .ok rules => .ok rules

/-- The rules of a grammar text, in the order in which they are written. -/
def readRules (source : String) : Except GrammarError (List Rule) :=
  match scan source with
  | .error error => .error error
  | .ok lexemes => rulesOf lexemes

end GrammarText

end RuleMachine
