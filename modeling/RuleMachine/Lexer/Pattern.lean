import RuleMachine.Text.Word
import RuleMachine.Vocabulary.Basic

/-!
# Patterns of source text

Each pattern tells how many characters at the front of a text it matches.  The
patterns are tried in a fixed order: text to skip, a line break, a number, a
string, a name, and last the operators of the vocabulary, the largest first.
-/

namespace RuleMachine.Lexer

open RuleMachine.Text

/-- What a piece of source text is. -/
inductive Pattern where
  | skip
  | newline
  | number
  | string
  | name
  | operator
  deriving DecidableEq, Repr

/-- Whether a character is blank space within a line. -/
def isInlineBlank (character : Char) : Bool :=
  character == ' ' || character == '\t' || character == '\x0c' || character == '\r'

/-- Whether a character is an ASCII digit. -/
def isDigit (character : Char) : Bool :=
  '0' ≤ character && character ≤ '9'

/-- Whether a character may stand among the digits of a number. -/
def isDigitOrUnderscore (character : Char) : Bool :=
  isDigit character || character == '_'

/-- The number of characters at the front that satisfy a test. -/
def run (test : Char → Bool) (text : List Char) : Nat :=
  (text.takeWhile test).length

/-- Blank space, a comment up to the end of its line, or a backslash that joins a line
with the next one. -/
def skipLength : List Char → Option Nat
  | [] => none
  | '#' :: later => some (1 + run (· != '\n') later)
  | '\\' :: '\n' :: _ => some 2
  | '\\' :: '\r' :: '\n' :: _ => some 3
  | text@(first :: _) => if isInlineBlank first then some (run isInlineBlank text) else none

/-- A line break. -/
def newlineLength : List Char → Option Nat
  | '\n' :: _ => some 1
  | _ => none

/-- The fraction of a number, if there is one. -/
def fractionLength : List Char → Nat
  | '.' :: later => 1 + run isDigitOrUnderscore later
  | _ => 0

/-- The sign of an exponent, if there is one. -/
def signLength : List Char → Nat
  | '+' :: _ => 1
  | '-' :: _ => 1
  | _ => 0

/-- The exponent of a number, if there is one; it needs a digit. -/
def exponentLength : List Char → Nat
  | [] => 0
  | mark :: later =>
      if mark = 'e' ∨ mark = 'E' then
        let sign := signLength later
        let digits := run isDigit (later.drop sign)
        if digits = 0 then 0 else 1 + sign + digits
      else
        0

/-- The mark of an imaginary number, if there is one. -/
def imaginaryLength : List Char → Nat
  | 'j' :: _ => 1
  | 'J' :: _ => 1
  | _ => 0

/-- A decimal number: digits, a fraction, an exponent and the imaginary mark. -/
def numberLength : List Char → Option Nat
  | [] => none
  | text@(first :: _) =>
      if isDigit first then
        let whole := run isDigitOrUnderscore text
        let fraction := whole + fractionLength (text.drop whole)
        let exponent := fraction + exponentLength (text.drop fraction)
        some (exponent + imaginaryLength (text.drop exponent))
      else
        none

/-- The rest of a string behind its opening quote, up to the closing quote.  A backslash
takes the character behind it along; a line break ends the attempt. -/
def stringRest (quote : Char) : List Char → Option Nat
  | [] => none
  | first :: later =>
      if first = quote then
        some 1
      else if first = '\\' then
        match later with
        | [] => none
        | escaped :: further =>
            if escaped = '\n' then none else (stringRest quote further).map (2 + ·)
      else if first = '\n' then
        none
      else
        (stringRest quote later).map (1 + ·)

/-- A string between single or double quotes. -/
def stringLength : List Char → Option Nat
  | [] => none
  | first :: later =>
      if first = '\x27' ∨ first = '\x22' then (stringRest first later).map (1 + ·) else none

/-- A name. -/
def nameLength : List Char → Option Nat
  | [] => none
  | first :: later => if isWordStart first then some (1 + run isWord later) else none

/-- Whether a literal stands at the front of a text. -/
def standsAtFront (literal : String) (text : List Char) : Bool :=
  literal.toList.isPrefixOf text

/-- Whether an operator is tried before another one: the one with more bytes goes first, and
operators of one size go in the order of their characters. -/
def isTriedBefore (first second : String) : Bool :=
  decide (second.utf8ByteSize < first.utf8ByteSize) ||
    first.utf8ByteSize == second.utf8ByteSize && decide (first ≤ second)

/-- The operators in the order in which they are tried. -/
def operatorsInOrder (vocabulary : Vocabulary) : List String :=
  (vocabulary.operators.entries.map Prod.fst).mergeSort isTriedBefore

/-- The first of some operators at the front of a text; an operator without characters
stands everywhere. -/
def operatorLength (operators : List String) (text : List Char) : Option Nat :=
  (operators.find? (standsAtFront · text)).map String.length

/-- The first pattern that matches at the front of a text, and how many characters, where
the operators are given in the order in which they are tried. -/
def matchWith (operators : List String) (text : List Char) : Option (Pattern × Nat) :=
  ((skipLength text).map (Pattern.skip, ·)).or <|
  ((newlineLength text).map (Pattern.newline, ·)).or <|
  ((numberLength text).map (Pattern.number, ·)).or <|
  ((stringLength text).map (Pattern.string, ·)).or <|
  ((nameLength text).map (Pattern.name, ·)).or <|
  (operatorLength operators text).map (Pattern.operator, ·)

/-- The first pattern that matches at the front of a text, and how many characters. -/
def matchFront (vocabulary : Vocabulary) (text : List Char) : Option (Pattern × Nat) :=
  matchWith (operatorsInOrder vocabulary) text

end RuleMachine.Lexer
