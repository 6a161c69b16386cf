/-!
# Padding

Reports indent lines and point at columns with runs of spaces.  A run has its
width counted in 16 bits; a wider one cannot be written.
-/

namespace RuleMachine.Text

/-- The widest run of spaces that a report can hold. -/
def maxPadding : Nat := 65535

/-- A run of spaces. -/
def spaces (width : Nat) : String :=
  String.ofList (List.replicate width ' ')

/-- A run of spaces, provided that it is not too wide for a report. -/
def padding? (width : Nat) : Option String :=
  if width ≤ maxPadding then some (spaces width) else none

end RuleMachine.Text
