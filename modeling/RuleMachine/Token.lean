import RuleMachine.Symbol

/-!
# Tokens

A token is a piece of source text with its kind and its place.
-/

namespace RuleMachine

/-- A place in a source: a line counted from one, a column counted from zero. -/
structure Position where
  line : Nat
  column : Nat
  deriving DecidableEq, Repr

/-- A token of a source. -/
structure Token where
  kind : TokenKind
  value : String
  position : Position
  /-- The line of the source that the token stands on, for reports. -/
  sourceLine : String
  deriving DecidableEq, Repr

namespace Token

/-- The place right behind a token.  Columns are counted in 64 bits; a token that reaches
beyond the last column has no such place. -/
def endPosition? (token : Token) : Option Position :=
  let column := token.position.column + token.value.length
  if column < UInt64.size then some { line := token.position.line, column } else none

/-- A token without text, of the kind that ends the input. -/
def endMarkerAt (kind : TokenKind) (position : Position) : Token where
  kind
  value := ""
  position
  sourceLine := ""

end Token

end RuleMachine
