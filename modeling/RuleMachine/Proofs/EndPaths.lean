import Mathlib.Computability.Language
import Mathlib.Order.CompletePartialOrder
import RuleMachine.GrammarText.Expr

/-!
# Languages of expressions

Two languages belong to an expression.  The first is what the expression means:
juxtaposition is concatenation, a bar is union, brackets add the empty word, a
plus repeats and a star repeats or omits.

The second is what the paths between the two ends of its fragment spell when
optional parts and repetitions are edges between the ends of their operand.
Such an edge can be taken by every path that comes past one of its ends, so the
paths that return to an end have to be known as well: `EndPaths` keeps the four
languages of a fragment together.

The meaning is always contained in the paths across, and the two agree when no
repetition stands below an option or a star.
-/

namespace RuleMachine

open scoped Computability

variable {Label : Type}

/-! ## The four languages of a fragment -/

/-- What can be read between the ends of a fragment. -/
structure EndPaths (Label : Type) where
  /-- From the start to the accepting state. -/
  across : Language Label
  /-- From the start back to the start. -/
  atStart : Language Label
  /-- From the accepting state back to the accepting state. -/
  atAccept : Language Label
  /-- From the accepting state to the start. -/
  back : Language Label

namespace EndPaths

/-- The paths after an edge was added from the start to the accepting state. -/
def bypass (paths : EndPaths Label) : EndPaths Label where
  across := paths.across + paths.atStart * paths.back∗ * paths.atAccept
  atStart := paths.atStart + paths.atStart * paths.back∗ * paths.back
  atAccept := paths.atAccept + paths.back * paths.back∗ * paths.atAccept
  back := paths.back + paths.back * paths.back∗ * paths.back

/-- The paths after an edge was added from the accepting state to the start. -/
def loop (paths : EndPaths Label) : EndPaths Label where
  across := paths.across + paths.across * paths.across∗ * paths.across
  atStart := paths.atStart + paths.across * paths.across∗ * paths.atStart
  atAccept := paths.atAccept + paths.atAccept * paths.across∗ * paths.across
  back := paths.back + paths.atAccept * paths.across∗ * paths.atStart

/-- Nothing but the empty word is read on the way from an end back to itself, and there
is no way from the accepting state to the start. -/
structure Direct (paths : EndPaths Label) : Prop where
  atStart : paths.atStart = 1
  atAccept : paths.atAccept = 1
  back : paths.back = 0

theorem across_loop (paths : EndPaths Label) :
    paths.loop.across = paths.across * paths.across∗ := by
  calc paths.loop.across
      = paths.across * 1 + paths.across * (paths.across∗ * paths.across) := by
        rw [loop, mul_one, mul_assoc]
    _ = paths.across * (1 + paths.across∗ * paths.across) := (mul_add _ _ _).symm
    _ = paths.across * paths.across∗ := by rw [one_add_kstar_mul]

theorem Direct.across_bypass {paths : EndPaths Label} (direct : paths.Direct) :
    paths.bypass.across = paths.across + 1 := by
  simp [bypass, direct.atStart, direct.atAccept, direct.back]

theorem Direct.bypass {paths : EndPaths Label} (direct : paths.Direct) :
    paths.bypass.Direct := by
  constructor <;> simp [EndPaths.bypass, direct.atStart, direct.atAccept, direct.back]

/-- With a loop and a bypass around a direct fragment every end reaches every end, and a
path reads any number of passages. -/
theorem Direct.across_bypass_loop {paths : EndPaths Label} (direct : paths.Direct) :
    paths.loop.bypass.across = paths.across∗ := by
  have returning : paths.loop.atStart = paths.across∗ := by
    rw [loop, direct.atStart, mul_one, one_add_mul_kstar]
  have arriving : paths.loop.atAccept = paths.across∗ := by
    rw [loop, direct.atAccept, one_mul, one_add_kstar_mul]
  have backwards : paths.loop.back = paths.across∗ := by
    simp [loop, direct.atStart, direct.atAccept, direct.back]
  have passages : paths.across * paths.across∗ ≤ paths.across∗ :=
    mul_kstar_le_kstar
  rw [EndPaths.bypass, across_loop, returning, arriving, backwards, kstar_idem,
    kstar_mul_kstar, kstar_mul_kstar]
  exact add_eq_right_iff_le.mpr passages

end EndPaths

/-! ## The two languages of an expression -/

namespace Expr

variable {Term : Type}

/-- The words that an expression means, where the words of its terms are given. -/
def language (meaning : Term → Language Label) : Expr Term → Language Label
  | .term value => meaning value
  | .seq left right => left.language meaning * right.language meaning
  | .alt left right => left.language meaning + right.language meaning
  | .opt body => body.language meaning + 1
  | .plus body => body.language meaning * (body.language meaning)∗
  | .star body => (body.language meaning)∗

/-- The words between the ends of the fragment of an expression. -/
def endPaths (meaning : Term → Language Label) : Expr Term → EndPaths Label
  | .term value =>
      { across := meaning value, atStart := 1, atAccept := 1, back := 0 }
  | .seq left right =>
      { across := (left.endPaths meaning).across * (right.endPaths meaning).across
        atStart := (left.endPaths meaning).atStart
        atAccept := (right.endPaths meaning).atAccept
        back := 0 }
  | .alt left right =>
      { across := (left.endPaths meaning).across + (right.endPaths meaning).across
        atStart := 1
        atAccept := 1
        back := 0 }
  | .opt body => (body.endPaths meaning).bypass
  | .plus body => (body.endPaths meaning).loop
  | .star body => (body.endPaths meaning).loop.bypass

/-- Whether an expression has no repetition in it. -/
def isLoopFree : Expr Term → Bool
  | .term _ => true
  | .seq left right => left.isLoopFree && right.isLoopFree
  | .alt left right => left.isLoopFree && right.isLoopFree
  | .opt body => body.isLoopFree
  | .plus _ => false
  | .star _ => false

/-- Whether the operand of every option and of every star has no repetition in it. -/
def hasPlainOptions : Expr Term → Bool
  | .term _ => true
  | .seq left right => left.hasPlainOptions && right.hasPlainOptions
  | .alt left right => left.hasPlainOptions && right.hasPlainOptions
  | .opt body => body.isLoopFree
  | .plus body => body.hasPlainOptions
  | .star body => body.isLoopFree

variable (meaning : Term → Language Label)

/-! ## Every word of the meaning is a path -/

theorem one_le_endPaths (expression : Expr Term) :
    1 ≤ (expression.endPaths meaning).atStart ∧
      1 ≤ (expression.endPaths meaning).atAccept := by
  induction expression with
  | term value => exact ⟨le_rfl, le_rfl⟩
  | seq left right leftHypothesis rightHypothesis =>
      exact ⟨leftHypothesis.1, rightHypothesis.2⟩
  | alt left right _ _ => exact ⟨le_rfl, le_rfl⟩
  | opt body inductionHypothesis =>
      exact ⟨le_add_right inductionHypothesis.1, le_add_right inductionHypothesis.2⟩
  | plus body inductionHypothesis =>
      exact ⟨le_add_right inductionHypothesis.1, le_add_right inductionHypothesis.2⟩
  | star body inductionHypothesis =>
      exact ⟨le_add_right (le_add_right inductionHypothesis.1),
        le_add_right (le_add_right inductionHypothesis.2)⟩

/-- What an expression means can be read across its fragment. -/
theorem language_le_across (expression : Expr Term) :
    expression.language meaning ≤ (expression.endPaths meaning).across := by
  induction expression with
  | term value => exact le_rfl
  | seq left right leftHypothesis rightHypothesis =>
      exact mul_le_mul' leftHypothesis rightHypothesis
  | alt left right leftHypothesis rightHypothesis =>
      exact add_le_add leftHypothesis rightHypothesis
  | opt body inductionHypothesis =>
      obtain ⟨atStart, atAccept⟩ := one_le_endPaths meaning body
      have bypassed := mul_le_mul' (mul_le_mul' atStart
        (one_le_kstar (a := (body.endPaths meaning).back))) atAccept
      rw [one_mul, one_mul] at bypassed
      exact add_le_add inductionHypothesis bypassed
  | plus body inductionHypothesis =>
      rw [endPaths, EndPaths.across_loop]
      exact mul_le_mul' inductionHypothesis (kstar_mono inductionHypothesis)
  | star body inductionHypothesis =>
      obtain ⟨atStart, atAccept⟩ := one_le_endPaths meaning (.plus body)
      have bypassed := mul_le_mul' (mul_le_mul' atStart
        (one_le_kstar (a := (body.endPaths meaning).loop.back))) atAccept
      rw [one_mul, one_mul] at bypassed
      -- A word of the star is empty or one of the plus.
      rw [language, ← one_add_mul_kstar, add_comm]
      refine add_le_add ?_ bypassed
      rw [EndPaths.across_loop]
      exact mul_le_mul' inductionHypothesis (kstar_mono inductionHypothesis)

/-! ## Expressions whose options are plain -/

/-- The fragment of an expression without repetitions is direct and spells exactly what
the expression means. -/
theorem endPaths_of_isLoopFree {expression : Expr Term} (loopFree : expression.isLoopFree) :
    (expression.endPaths meaning).Direct ∧
      (expression.endPaths meaning).across = expression.language meaning := by
  induction expression with
  | term value => exact ⟨⟨rfl, rfl, rfl⟩, rfl⟩
  | seq left right leftHypothesis rightHypothesis =>
      obtain ⟨leftFree, rightFree⟩ := Bool.and_eq_true_iff.mp loopFree
      obtain ⟨leftDirect, leftAcross⟩ := leftHypothesis leftFree
      obtain ⟨rightDirect, rightAcross⟩ := rightHypothesis rightFree
      refine ⟨⟨leftDirect.atStart, rightDirect.atAccept, rfl⟩, ?_⟩
      rw [endPaths, language, leftAcross, rightAcross]
  | alt left right leftHypothesis rightHypothesis =>
      obtain ⟨leftFree, rightFree⟩ := Bool.and_eq_true_iff.mp loopFree
      refine ⟨⟨rfl, rfl, rfl⟩, ?_⟩
      rw [endPaths, language, (leftHypothesis leftFree).2, (rightHypothesis rightFree).2]
  | opt body inductionHypothesis =>
      obtain ⟨direct, across⟩ := inductionHypothesis loopFree
      refine ⟨direct.bypass, ?_⟩
      rw [endPaths, direct.across_bypass, across, language]
  | plus body _ => simp [isLoopFree] at loopFree
  | star body _ => simp [isLoopFree] at loopFree

/-- If no repetition stands below an option or a star, the fragment of an expression
spells exactly what the expression means. -/
theorem across_eq_language {expression : Expr Term} (plain : expression.hasPlainOptions) :
    (expression.endPaths meaning).across = expression.language meaning := by
  induction expression with
  | term value => rfl
  | seq left right leftHypothesis rightHypothesis =>
      obtain ⟨leftPlain, rightPlain⟩ := Bool.and_eq_true_iff.mp plain
      rw [endPaths, language, leftHypothesis leftPlain, rightHypothesis rightPlain]
  | alt left right leftHypothesis rightHypothesis =>
      obtain ⟨leftPlain, rightPlain⟩ := Bool.and_eq_true_iff.mp plain
      rw [endPaths, language, leftHypothesis leftPlain, rightHypothesis rightPlain]
  | opt body _ =>
      obtain ⟨direct, across⟩ := endPaths_of_isLoopFree meaning plain
      rw [endPaths, direct.across_bypass, across, language]
  | plus body inductionHypothesis =>
      rw [endPaths, EndPaths.across_loop, inductionHypothesis plain, language]
  | star body _ =>
      obtain ⟨direct, across⟩ := endPaths_of_isLoopFree meaning plain
      rw [endPaths, direct.across_bypass_loop, across, language]

/-! ## Expressions of one shape -/

/-- Two expressions have the same shape, and their terms are related in order. -/
inductive SameShape {Other : Type} (related : Term → Other → Prop) :
    Expr Term → Expr Other → Prop
  | term {value : Term} {other : Other} :
      related value other → SameShape related (.term value) (.term other)
  | seq {left right : Expr Term} {otherLeft otherRight : Expr Other} :
      SameShape related left otherLeft → SameShape related right otherRight →
      SameShape related (.seq left right) (.seq otherLeft otherRight)
  | alt {left right : Expr Term} {otherLeft otherRight : Expr Other} :
      SameShape related left otherLeft → SameShape related right otherRight →
      SameShape related (.alt left right) (.alt otherLeft otherRight)
  | opt {body : Expr Term} {otherBody : Expr Other} :
      SameShape related body otherBody → SameShape related (.opt body) (.opt otherBody)
  | plus {body : Expr Term} {otherBody : Expr Other} :
      SameShape related body otherBody → SameShape related (.plus body) (.plus otherBody)
  | star {body : Expr Term} {otherBody : Expr Other} :
      SameShape related body otherBody → SameShape related (.star body) (.star otherBody)

namespace SameShape

variable {meaning} {Other : Type} {related wider : Term → Other → Prop}
  {expression : Expr Term} {other : Expr Other}

theorem mono (shape : SameShape related expression other)
    (weaken : ∀ value otherValue, related value otherValue → wider value otherValue) :
    SameShape wider expression other := by
  induction shape with
  | term isRelated => exact .term (weaken _ _ isRelated)
  | seq _ _ leftHypothesis rightHypothesis => exact .seq leftHypothesis rightHypothesis
  | alt _ _ leftHypothesis rightHypothesis => exact .alt leftHypothesis rightHypothesis
  | opt _ inductionHypothesis => exact .opt inductionHypothesis
  | plus _ inductionHypothesis => exact .plus inductionHypothesis
  | star _ inductionHypothesis => exact .star inductionHypothesis

variable {otherMeaning : Other → Language Label}

/-- The paths of an expression depend on nothing but its shape and its terms. -/
theorem endPaths_eq (shape : SameShape related expression other)
    (agree : ∀ value otherValue,
      related value otherValue → meaning value = otherMeaning otherValue) :
    expression.endPaths meaning = other.endPaths otherMeaning := by
  induction shape with
  | term isRelated => rw [endPaths, endPaths, agree _ _ isRelated]
  | seq _ _ leftHypothesis rightHypothesis =>
      rw [endPaths, endPaths, leftHypothesis, rightHypothesis]
  | alt _ _ leftHypothesis rightHypothesis =>
      rw [endPaths, endPaths, leftHypothesis, rightHypothesis]
  | opt _ inductionHypothesis => rw [endPaths, endPaths, inductionHypothesis]
  | plus _ inductionHypothesis => rw [endPaths, endPaths, inductionHypothesis]
  | star _ inductionHypothesis => rw [endPaths, endPaths, inductionHypothesis]

end SameShape

end Expr

end RuleMachine
