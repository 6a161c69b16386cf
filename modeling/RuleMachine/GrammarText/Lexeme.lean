/-!
# Lexemes of grammar text

Grammar text is read as a list of lexemes: names, quoted literals, operators,
line ends and one final end marker.  Each lexeme lies on one line and knows
where.
-/

namespace RuleMachine

/-- A stretch of one line of grammar text. -/
structure Location where
  /-- The number of the line, counted from one. -/
  line : Nat
  /-- The column of the first character, counted from zero. -/
  startColumn : Nat
  /-- The column behind the last character. -/
  endColumn : Nat
  /-- The whole line with its line break. -/
  text : String
  deriving DecidableEq, Repr

/-- What a lexeme is. -/
inductive LexemeKind where
  | name
  | quoted
  | operator
  | newline
  | endMarker
  deriving DecidableEq, Repr

/-- The name of a kind of lexeme in messages. -/
def LexemeKind.display : LexemeKind → String
  | .name => "NAME"
  | .quoted => "STRING"
  | .operator => "OP"
  | .newline => "NEWLINE"
  | .endMarker => "ENDMARKER"

/-- A lexeme of grammar text. -/
structure Lexeme where
  kind : LexemeKind
  /-- The characters of the lexeme as written, quotes included. -/
  text : String
  location : Location
  deriving DecidableEq, Repr

namespace Lexeme

/-- The lexeme that ends every grammar text, on the line behind the last one. -/
def finish (line : Nat) : Lexeme where
  kind := .endMarker
  text := ""
  location := { line, startColumn := 0, endColumn := 0, text := "" }

/-- Whether a lexeme is the given operator. -/
def isOperator (lexeme : Lexeme) (spelling : String) : Bool :=
  lexeme.kind == .operator && lexeme.text == spelling

end Lexeme

end RuleMachine
