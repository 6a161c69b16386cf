/-!
# Sets of characters

A character class is a list of inclusive ranges of code points, in ascending
order and without overlap.  Membership walks the list and stops at the first
range that begins beyond the character, so ASCII text is classified after a
handful of comparisons.
-/

namespace RuleMachine.Text

/-- A set of characters, as ascending inclusive ranges of code points. -/
structure CharSet where
  ranges : List (Nat × Nat)
  deriving Repr

namespace CharSet

/-- Whether a code point lies in one of the ascending ranges. -/
def coversCode (code : Nat) : List (Nat × Nat) → Bool
  | [] => false
  | (low, high) :: later =>
      if code < low then false
      else if code ≤ high then true
      else coversCode code later

/-- Whether a character belongs to the set. -/
def contains (set : CharSet) (character : Char) : Bool :=
  coversCode character.toNat set.ranges

end CharSet

end RuleMachine.Text
