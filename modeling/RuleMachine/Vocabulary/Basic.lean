import RuleMachine.Dictionary
import RuleMachine.Symbol

/-!
# Vocabularies

A vocabulary says which kinds of tokens there are: it gives names to token
kinds and token kinds to operator literals.  Two kinds play a special role: the
kind of identifiers, which keywords are carved out of, and the kind of the
marker that ends the input.
-/

namespace RuleMachine

/-- The token kinds and operators that grammars and sources are written in. -/
structure Vocabulary where
  /-- Token names to kinds. -/
  kinds : Dictionary String TokenKind
  /-- Token kinds to names. -/
  names : Dictionary TokenKind String
  /-- Operator literals to the kind of their tokens. -/
  operators : Dictionary String TokenKind
  /-- The kind of identifiers, and so of keywords. -/
  keywordToken : TokenKind
  /-- The kind of the marker that ends the input. -/
  endMarker : TokenKind

namespace Vocabulary

/-- A token was declared with a kind that lies in the range of the rules. -/
structure KindCollision where
  kind : TokenKind
  name : String

/-- The text of a collision. -/
def KindCollision.message (collision : KindCollision) : String :=
  s!"token kind {collision.kind} of {collision.name} collides with the nonterminal range"

/-- The vocabulary in which nothing has a name yet. -/
def unnamed (keywordToken endMarker : TokenKind) : Vocabulary where
  kinds := .empty
  names := .empty
  operators := .empty
  keywordToken
  endMarker

/-- Name a token kind, whatever its number. -/
def nameToken (vocabulary : Vocabulary) (name : String) (kind : TokenKind) : Vocabulary :=
  { vocabulary with
    kinds := vocabulary.kinds.insert name kind
    names := vocabulary.names.insert kind name }

/-- Name a token kind, which has to lie below the range of the rules. -/
def token (vocabulary : Vocabulary) (name : String) (kind : TokenKind) :
    Except KindCollision Vocabulary :=
  if SymbolId.isRule kind then
    .error ⟨kind, name⟩
  else
    .ok (vocabulary.nameToken name kind)

/-- Declare the kind of the tokens that spell an operator. -/
def operator (vocabulary : Vocabulary) (literal : String) (kind : TokenKind) : Vocabulary :=
  { vocabulary with operators := vocabulary.operators.insert literal kind }

/-- Name the tokens of a list one after the other, up to the first collision. -/
def tokens (vocabulary : Vocabulary) : List (String × TokenKind) →
    Except KindCollision Vocabulary
  | [] => .ok vocabulary
  | (name, kind) :: later =>
      match vocabulary.token name kind with
      | .error collision => .error collision
      | .ok extended => extended.tokens later

/-- Declare the operators of a list one after the other. -/
def addOperators (vocabulary : Vocabulary) (literals : List (String × TokenKind)) : Vocabulary :=
  literals.foldl (fun extended entry => extended.operator entry.1 entry.2) vocabulary

/-- The vocabulary with the given identifier token, end marker, further tokens
and operators. -/
def declare
    (keyword finish : String × TokenKind) (further literals : List (String × TokenKind)) :
    Except KindCollision Vocabulary :=
  match (unnamed keyword.2 finish.2).tokens (keyword :: finish :: further) with
  | .error collision => .error collision
  | .ok vocabulary => .ok (vocabulary.addOperators literals)

/-- The kind of the token with the given name. -/
def tokenKind? (vocabulary : Vocabulary) (name : String) : Option TokenKind :=
  vocabulary.kinds.get? name

/-- The name of a token kind. -/
def tokenName? (vocabulary : Vocabulary) (kind : TokenKind) : Option String :=
  vocabulary.names.get? kind

/-- The kind of the tokens that spell an operator. -/
def operatorKind? (vocabulary : Vocabulary) (literal : String) : Option TokenKind :=
  vocabulary.operators.get? literal

end Vocabulary

end RuleMachine
