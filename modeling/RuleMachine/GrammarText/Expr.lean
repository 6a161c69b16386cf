/-!
# Right-hand sides of rules

The right-hand side of a rule is an expression over terms: terms one after the
other, alternatives, optional parts and repetitions.
-/

namespace RuleMachine

/-- An expression over terms of some type. -/
inductive Expr (Term : Type) where
  /-- One term. -/
  | term (value : Term)
  /-- One expression and then another. -/
  | seq (left right : Expr Term)
  /-- Either of two expressions. -/
  | alt (left right : Expr Term)
  /-- An expression or nothing. -/
  | opt (body : Expr Term)
  /-- An expression once or several times. -/
  | plus (body : Expr Term)
  /-- An expression any number of times. -/
  | star (body : Expr Term)
  deriving DecidableEq, Repr

namespace Expr

/-- The terms of an expression from left to right. -/
def terms {Term : Type} : Expr Term → List Term
  | .term value => [value]
  | .seq left right => left.terms ++ right.terms
  | .alt left right => left.terms ++ right.terms
  | .opt body => body.terms
  | .plus body => body.terms
  | .star body => body.terms

end Expr

end RuleMachine
