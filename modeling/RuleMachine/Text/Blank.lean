import RuleMachine.Text.CharSet

/-!
# Blank characters

The characters with the property `White_Space` of Unicode 17.0.
-/

namespace RuleMachine.Text

/-- The characters that count as blank space. -/
def blank : CharSet where
  ranges :=
    [(0x9, 0xD), (0x20, 0x20), (0x85, 0x85), (0xA0, 0xA0), (0x1680, 0x1680),
    (0x2000, 0x200A), (0x2028, 0x2029), (0x202F, 0x202F), (0x205F, 0x205F),
    (0x3000, 0x3000)]

/-- Whether a character is blank space: a space, a tab, a line break or one of
their relatives. -/
def isBlank (character : Char) : Bool :=
  blank.contains character

end RuleMachine.Text
