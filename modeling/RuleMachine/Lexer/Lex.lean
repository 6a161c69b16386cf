import RuleMachine.Lexer.Pattern
import RuleMachine.Text.Quoted
import RuleMachine.Token

/-!
# Lexing source text

Source text is cut into tokens of a vocabulary.  A line-end token closes each
logical line: line breaks inside brackets, behind a backslash and on lines
without tokens give none.  The tokens end with a line end, if the vocabulary has
one and the text has any token, and with the end marker.
-/

namespace RuleMachine

/-- A text that no pattern matches, or that the vocabulary has no token for. -/
structure LexError where
  position : Position
  text : String
  deriving DecidableEq, Repr

/-- The text of an error. -/
def LexError.message (error : LexError) : String :=
  "unexpected " ++ Text.quoted error.text ++ " at line " ++ toString error.position.line ++
    ", column " ++ toString error.position.column

namespace Lexer

/-- Where in a source the lexer is, and what it has to remember of the text before. -/
structure Cursor where
  position : Position
  /-- The source from the beginning of the current line on. -/
  fromLineStart : List Char
  /-- The number of open brackets. -/
  depth : Nat
  /-- The kind of the last token. -/
  lastKind : Option TokenKind

namespace Cursor

/-- The front of a source. -/
def start (source : List Char) : Cursor where
  position := ⟨1, 0⟩
  fromLineStart := source
  depth := 0
  lastKind := none

/-- Move behind a piece of text.  A line begins behind the last piece with a line
break. -/
def advance (cursor : Cursor) (piece behind : List Char) : Cursor :=
  let breaks := piece.count '\n'
  if breaks = 0 then
    { cursor with
      position := ⟨cursor.position.line, cursor.position.column + piece.length⟩ }
  else
    { cursor with
      position := ⟨cursor.position.line + breaks, 0⟩
      fromLineStart := behind }

/-- Note an operator: brackets change the depth, and a closing bracket without an opening
one does not. -/
def noteOperator (cursor : Cursor) (literal : String) : Cursor :=
  if literal = "(" ∨ literal = "[" ∨ literal = "\x7b" then
    { cursor with depth := cursor.depth + 1 }
  else if literal = ")" ∨ literal = "]" ∨ literal = "\x7d" then
    { cursor with depth := cursor.depth - 1 }
  else
    cursor

/-- Note a piece of text that some pattern matches. -/
def note (cursor : Cursor) (pattern : Pattern) (text : String) : Cursor :=
  match pattern with
  | .operator => cursor.noteOperator text
  | .skip | .newline | .number | .string | .name => cursor

/-- Note the kind of a token. -/
def noteKind (cursor : Cursor) (kind : TokenKind) : Cursor :=
  { cursor with lastKind := some kind }

end Cursor

/-- The kind of line-end tokens. -/
def newlineKind? (vocabulary : Vocabulary) : Option TokenKind :=
  vocabulary.tokenKind? "NEWLINE"

/-- The first line of a text without its line break, which may be a line feed or a
carriage return and a line feed. -/
def firstLine (text : List Char) : List Char :=
  let line := text.takeWhile (· != '\n')
  if line.length < text.length ∧ line.getLast? = some '\r' then line.dropLast else line

/-- Whether a line break ends a logical line: no bracket is open, and the line has a
token. -/
def endsLine (vocabulary : Vocabulary) (cursor : Cursor) : Bool :=
  cursor.depth == 0 && cursor.lastKind.isSome && cursor.lastKind != newlineKind? vocabulary

/-- The kind of a named token, which the vocabulary has to know. -/
def requiredKind (vocabulary : Vocabulary) (name : String) (cursor : Cursor) (text : String) :
    Except LexError (Option TokenKind) :=
  match vocabulary.tokenKind? name with
  | some kind => .ok (some kind)
  | none => .error ⟨cursor.position, text⟩

/-- The kind of the token for a piece of text, if the piece gives a token. -/
def kindOf (vocabulary : Vocabulary) (cursor : Cursor) (pattern : Pattern) (text : String) :
    Except LexError (Option TokenKind) :=
  match pattern with
  | .skip => .ok none
  | .newline => .ok (if endsLine vocabulary cursor then newlineKind? vocabulary else none)
  | .number => requiredKind vocabulary "NUMBER" cursor text
  | .string => requiredKind vocabulary "STRING" cursor text
  | .name => .ok (some vocabulary.keywordToken)
  | .operator => .ok (vocabulary.operatorKind? text)

/-- The tokens behind the last piece of text. -/
def closing (vocabulary : Vocabulary) (cursor : Cursor) : List Token :=
  let marker := Token.endMarkerAt vocabulary.endMarker cursor.position
  match newlineKind? vocabulary with
  | none => [marker]
  | some newline =>
      if cursor.lastKind.isSome && cursor.lastKind != some newline then
        [Token.endMarkerAt newline cursor.position, marker]
      else
        [marker]

/-- The tokens of the source from a cursor on, where the operators are given in the order
in which they are tried. -/
def lexWith (operators : List String) (vocabulary : Vocabulary) (cursor : Cursor)
    (text : List Char) : Except LexError (List Token) :=
  match text with
  | [] => .ok (closing vocabulary cursor)
  | first :: later =>
      match matchWith operators (first :: later) with
      | none => .error ⟨cursor.position, first.toString⟩
      | some (_, 0) => .error ⟨cursor.position, first.toString⟩
      | some (pattern, more + 1) =>
          let piece := first :: later.take more
          let behind := later.drop more
          let value := String.ofList piece
          match kindOf vocabulary cursor pattern value with
          | .error error => .error error
          | .ok none =>
              let next := (cursor.note pattern value).advance piece behind
              lexWith operators vocabulary next behind
          | .ok (some kind) =>
              let next := ((cursor.note pattern value).noteKind kind).advance piece behind
              match lexWith operators vocabulary next behind with
              | .error error => .error error
              | .ok tokens =>
                  let token : Token :=
                    { kind
                      value
                      position := cursor.position
                      sourceLine := String.ofList (firstLine cursor.fromLineStart) }
                  .ok (token :: tokens)
termination_by text.length
decreasing_by
  all_goals simp only [List.length_cons, List.length_drop]; omega

/-- The tokens of the source from a cursor on.  The operators are put in order once. -/
def lexFrom (vocabulary : Vocabulary) (cursor : Cursor) (text : List Char) :
    Except LexError (List Token) :=
  lexWith (operatorsInOrder vocabulary) vocabulary cursor text

/-- The tokens of a source. -/
def lex (vocabulary : Vocabulary) (source : String) : Except LexError (List Token) :=
  lexFrom vocabulary (.start source.toList) source.toList

end Lexer

end RuleMachine
