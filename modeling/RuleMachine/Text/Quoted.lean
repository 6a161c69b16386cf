import RuleMachine.Text.Extender
import RuleMachine.Text.Unprintable

/-!
# Quoting text in messages

Messages show a text between double quotes.  Quotes, backslashes and the common
controls are written with a backslash; a character that would be invisible, or
would merge with its neighbour, is written by its code point.
-/

namespace RuleMachine.Text

/-- A character written by its code point in lower-case hexadecimal. -/
def codePointEscape (character : Char) : String :=
  "\\u\x7b" ++ String.ofList (Nat.toDigits 16 character.toNat) ++ "\x7d"

/-- One character as it stands between double quotes. -/
def quotedChar (character : Char) : String :=
  match character with
  | '\x22' => "\\\""
  | '\\' => "\\\\"
  | '\n' => "\\n"
  | '\r' => "\\r"
  | '\t' => "\\t"
  | '\x00' => "\\0"
  | _ =>
      if isPrintable character && !isExtender character then
        character.toString
      else
        codePointEscape character

/-- A text between double quotes. -/
def quoted (text : String) : String :=
  "\"" ++ String.join (text.toList.map quotedChar) ++ "\""

/-- One character in plain ASCII: printable ASCII stands for itself except for
quotes and the backslash. -/
def asciiChar (character : Char) : String :=
  match character with
  | '\t' => "\\t"
  | '\r' => "\\r"
  | '\n' => "\\n"
  | '\x27' => "\\'"
  | '\x22' => "\\\""
  | '\\' => "\\\\"
  | _ =>
      if ' ' ≤ character && character ≤ '~' then
        character.toString
      else
        codePointEscape character

/-- A text in plain ASCII, without quotes around it. -/
def asciiEscaped (text : String) : String :=
  String.join (text.toList.map asciiChar)

end RuleMachine.Text
