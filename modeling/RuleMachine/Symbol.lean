/-!
# Symbols

Token kinds and rules share one space of 16-bit numbers: token kinds lie below
256, and the rule with index `i` has the symbol `256 + i`.  So there are symbols
for 65280 rules.
-/

namespace RuleMachine

/-- The number of a kind of token. -/
abbrev TokenKind := UInt16

/-- The number of a token kind or of a rule. -/
abbrev SymbolId := UInt16

namespace SymbolId

/-- The symbol of the first rule; token kinds lie below it. -/
def ruleOffset : SymbolId := 256

/-- The number of rules that there are symbols for. -/
def ruleCapacity : Nat := UInt16.size - ruleOffset.toNat

/-- The symbol of the rule with the given index, which lies below the capacity. -/
def ofRuleIndex (index : Nat) : SymbolId :=
  ruleOffset + UInt16.ofNat index

/-- Whether a symbol lies in the range of the rules. -/
def isRule (symbol : SymbolId) : Bool :=
  ruleOffset ≤ symbol

/-- The index of the rule with the given symbol. -/
def ruleIndex (symbol : SymbolId) : Nat :=
  (symbol - ruleOffset).toNat

end SymbolId

end RuleMachine
