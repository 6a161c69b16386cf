import RuleMachine.GrammarText.Error
import RuleMachine.Text.Alphabetic
import RuleMachine.Text.Blank
import RuleMachine.Text.Numeric

/-!
# Scanning grammar text

The text is scanned line by line.  Blank characters separate lexemes and `#`
begins a comment that runs to the end of its line.  A line that holds a lexeme
ends with a line-end lexeme, unless a bracket opened on it or before it is still
open: a rule may go on over several lines inside brackets.
-/

namespace RuleMachine.GrammarText

open RuleMachine.Text

/-- The lines of a text.  Every line ends with a line break, also the last one. -/
def splitLines : List Char → List (List Char)
  | [] => []
  | character :: later =>
      if character = '\n' then
        ['\n'] :: splitLines later
      else
        match splitLines later with
        | [] => [[character, '\n']]
        | line :: lines => (character :: line) :: lines

/-- A line of grammar text and its number. -/
structure Line where
  number : Nat
  characters : List Char

namespace Line

/-- The stretch of a line between two columns. -/
def locate (line : Line) (startColumn endColumn : Nat) : Location where
  line := line.number
  startColumn
  endColumn
  text := String.ofList line.characters

/-- The lexeme that ends a line, at its line break. -/
def newline (line : Line) : Lexeme where
  kind := .newline
  text := "\n"
  location := line.locate (line.characters.length - 1) line.characters.length

end Line

/-- Whether a name may begin with a character. -/
def isNameStart (character : Char) : Bool :=
  isAlphabetic character || character == '_'

/-- Whether a name may go on with a character. -/
def isNamePart (character : Char) : Bool :=
  isAlphabetic character || isNumeric character || character == '_'

/-- Whether a character opens a quoted literal; the same character closes it. -/
def isQuote (character : Char) : Bool :=
  character == '\x27' || character == '\x22'

/-- The characters that are operators. -/
def operators : List Char :=
  [':', '|', '(', ')', '[', ']', '*', '+']

/-- How far a quoted literal goes behind its opening quote. -/
inductive QuotedExtent where
  /-- The closing quote is the last of so many characters. -/
  | closed (length : Nat)
  /-- The line ends after so many characters. -/
  | unclosed (length : Nat)
  deriving DecidableEq, Repr

/-- The same extent with so many characters in front of it. -/
def QuotedExtent.after (extent : QuotedExtent) (count : Nat) : QuotedExtent :=
  match extent with
  | .closed length => .closed (count + length)
  | .unclosed length => .unclosed (count + length)

/-- Look for the closing quote.  A backslash takes the character behind it along, even
a quote or the line break. -/
def quotedExtent (quote : Char) : List Char → QuotedExtent
  | [] => .unclosed 0
  | character :: later =>
      if character = quote then
        .closed 1
      else if character = '\\' then
        match later with
        | [] => .unclosed 2
        | _ :: further => (quotedExtent quote further).after 2
      else if character = '\n' then
        .unclosed 0
      else
        (quotedExtent quote later).after 1

/-- The kind of the lexeme that begins with a character, and the number of characters
that follow the first; or what is wrong, and with how many characters. -/
def lexemeAt (first : Char) (later : List Char) : Except (Malformation × Nat) (LexemeKind × Nat) :=
  if isNameStart first then
    .ok (.name, (later.takeWhile isNamePart).length)
  else if isQuote first then
    match quotedExtent first later with
    | .closed length => .ok (.quoted, length)
    | .unclosed length => .error (.unterminatedString, 1 + length)
  else if first ∈ operators then
    .ok (.operator, 0)
  else
    .error (.unexpectedCharacter first, 1)

/-- The number of open brackets behind a lexeme that begins with a character.  A closing
bracket without an opening one changes nothing. -/
def depthAfter (depth : Nat) (first : Char) : Nat :=
  if first = '(' ∨ first = '[' then depth + 1
  else if first = ')' ∨ first = ']' then depth - 1
  else depth

/-- The lexemes of a line from a column on, and the number of brackets open behind them. -/
def scanLine (line : Line) (depth column : Nat) (characters : List Char) :
    Except GrammarError (List Lexeme × Nat) :=
  match characters with
  | [] => .ok ([], depth)
  | first :: later =>
      if first = '\n' ∨ first = '#' then
        .ok ([], depth)
      else if isBlank first then
        scanLine line depth (column + 1) later
      else
        match lexemeAt first later with
        | .error (reason, length) =>
            .error (.placed (.malformed reason) (line.locate column (column + length)))
        | .ok (kind, more) =>
            match scanLine line (depthAfter depth first) (column + 1 + more) (later.drop more) with
            | .error error => .error error
            | .ok (lexemes, finalDepth) =>
                let lexeme : Lexeme :=
                  { kind
                    text := String.ofList (first :: later.take more)
                    location := line.locate column (column + 1 + more) }
                .ok (lexeme :: lexemes, finalDepth)
termination_by characters.length
decreasing_by
  all_goals simp only [List.length_cons, List.length_drop]; omega

/-- The lexemes of the lines from a number on, where `depth` brackets are open before
the first of them. -/
def scanLines (number depth : Nat) : List (List Char) → Except GrammarError (List Lexeme)
  | [] => .ok [Lexeme.finish number]
  | characters :: later =>
      let line : Line := { number, characters }
      match scanLine line depth 0 characters with
      | .error error => .error error
      | .ok (lexemes, finalDepth) =>
          match scanLines (number + 1) finalDepth later with
          | .error error => .error error
          | .ok laterLexemes =>
              if lexemes ≠ [] ∧ finalDepth = 0 then
                .ok (lexemes ++ line.newline :: laterLexemes)
              else
                .ok (lexemes ++ laterLexemes)

/-- The lexemes of a grammar text. -/
def scan (source : String) : Except GrammarError (List Lexeme) :=
  scanLines 1 0 (splitLines source.toList)

end RuleMachine.GrammarText
