import RuleMachine.Token
import RuleMachine.Vocabulary.Standard

/-!
# Token streams

A token stream lays out tokens by hand: the tokens of a line are separated by one
space, and every token gets the place and the source line that fit.  The text of a
line is known when the line ends, and only then the tokens with its number get it.
-/

namespace RuleMachine

/-- One step in laying out tokens. -/
inductive StreamStep where
  /-- Put a token on the current line. -/
  | token (kind : TokenKind) (value : String)
  /-- End the current line. -/
  | newline
  deriving DecidableEq, Repr

namespace StreamStep

/-- An identifier of the small vocabulary. -/
def name (value : String) : StreamStep := .token Vocabulary.Mini.name value

/-- A number of the small vocabulary. -/
def number (value : String) : StreamStep := .token Vocabulary.Mini.number value

/-- A string of the small vocabulary. -/
def string (value : String) : StreamStep := .token Vocabulary.Mini.string value

/-- An operator of the small vocabulary. -/
def op (value : String) : StreamStep := .token Vocabulary.Mini.op value

end StreamStep

/-- Tokens laid out so far. -/
structure TokenStream where
  /-- The tokens, those of the current line without their source line. -/
  tokens : List Token
  /-- The place behind the last token. -/
  position : Position
  /-- The text of the current line. -/
  lineText : String

namespace TokenStream

/-- The stream without tokens. -/
def empty : TokenStream where
  tokens := []
  position := ⟨1, 0⟩
  lineText := ""

/-- Put a token at the given place. -/
private def place (stream : TokenStream) (kind : TokenKind) (value : String)
    (position : Position) : List Token :=
  stream.tokens ++ [{ kind, value, position, sourceLine := "" }]

/-- Put a token on the current line, behind a space unless the line is empty. -/
def token (stream : TokenStream) (kind : TokenKind) (value : String) : TokenStream :=
  let gap := if stream.lineText.isEmpty then "" else " "
  let position : Position := ⟨stream.position.line, stream.position.column + gap.length⟩
  { tokens := stream.place kind value position
    position := ⟨position.line, position.column + value.length⟩
    lineText := stream.lineText ++ gap ++ value }

/-- The token with the given source line, if it is on the line with the given number. -/
def fill (line : Nat) (text : String) (token : Token) : Token :=
  if token.position.line = line then { token with sourceLine := text } else token

/-- All tokens, where those of the current line get its text as their source line. -/
def filled (stream : TokenStream) : List Token :=
  stream.tokens.map (fill stream.position.line stream.lineText)

/-- End the current line. -/
def newline (stream : TokenStream) : TokenStream :=
  let ended :=
    { stream with
      tokens := stream.place Vocabulary.Mini.newline "\n" stream.position }
  { tokens := ended.filled
    position := ⟨stream.position.line + 1, 0⟩
    lineText := "" }

/-- Put the end marker behind the last token. -/
def finish (stream : TokenStream) : TokenStream :=
  { stream with
    tokens := stream.place Vocabulary.Mini.endMarker "" stream.position }

/-- Carry out one step. -/
def apply (stream : TokenStream) : StreamStep → TokenStream
  | .token kind value => stream.token kind value
  | .newline => stream.newline

/-- The tokens of a list of steps, with or without an end marker behind them. -/
def ofSteps (steps : List StreamStep) (isFinished : Bool) : List Token :=
  let stream := steps.foldl apply empty
  if isFinished then stream.finish.filled else stream.filled

end TokenStream

end RuleMachine
