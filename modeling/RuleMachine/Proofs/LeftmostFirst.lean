import Mathlib.Data.List.Basic
import RuleMachine.Lexer.Pattern

/-!
# Regular expressions with an order of preference

A regular expression matches at the front of a text in several ways, and an engine with
leftmost-first semantics reports the way that it prefers: an alternative is preferred to the
ones behind it, an optional part is preferred to its absence, and one more round of a
repetition is preferred to none.
-/

namespace RuleMachine

theorem Lexer.run_cons_of_pos {test : Char → Bool} {character : Char}
    (passes : test character = true) (later : List Char) :
    Lexer.run test (character :: later) = 1 + Lexer.run test later := by
  rw [Lexer.run, List.takeWhile_cons_of_pos passes, List.length_cons, Lexer.run, Nat.add_comm]

theorem Lexer.run_cons_of_neg {test : Char → Bool} {character : Char}
    (fails : ¬ test character = true) (later : List Char) :
    Lexer.run test (character :: later) = 0 := by
  rw [Lexer.run, List.takeWhile_cons_of_neg fails, List.length_nil]

/-- A regular expression over tests of single characters. -/
inductive Regex where
  | never
  | nothing
  | one (test : Char → Bool)
  | seq (first second : Regex)
  | alt (first second : Regex)
  | many (inner : Regex)

namespace Regex

/-! ## Ways to match -/

/-- How many characters a number of rounds can take, most preferred first.  A round that
takes no characters is left out. -/
def lengthsOfRounds (inner : List Char → List Nat) : Nat → List Char → List Nat
  | 0, _ => [0]
  | rounds + 1, text =>
      ((inner text).filter (0 < ·)).flatMap (fun length =>
        (lengthsOfRounds inner rounds (text.drop length)).map (length + ·)) ++ [0]

/-- How many characters an expression can match at the front of a text, most preferred
first. -/
def lengths : Regex → List Char → List Nat
  | never, _ => []
  | nothing, _ => [0]
  | one _, [] => []
  | one test, character :: _ => if test character then [1] else []
  | seq first second, text =>
      (first.lengths text).flatMap fun length =>
        (second.lengths (text.drop length)).map (length + ·)
  | alt first second, text => first.lengths text ++ second.lengths text
  | many inner, text => lengthsOfRounds inner.lengths text.length text

/-- The length of the match that is preferred to all others. -/
def length? (regex : Regex) (text : List Char) : Option Nat :=
  (regex.lengths text).head?

/-- An expression, or nothing. -/
def optional (inner : Regex) : Regex :=
  alt inner nothing

/-- One round of an expression or more. -/
def atLeastOne (inner : Regex) : Regex :=
  seq inner (many inner)

/-- The characters of a list, one after the other. -/
def literal (characters : List Char) : Regex :=
  characters.foldr (fun character => seq (one (· == character))) nothing

/-- The first of several expressions that matches. -/
def oneOf (choices : List Regex) : Regex :=
  choices.foldr alt never

/-! ## What holds of every match -/

/-- The tests of an expression. -/
def tests : Regex → List (Char → Bool)
  | never => []
  | nothing => []
  | one test => [test]
  | seq first second => first.tests ++ second.tests
  | alt first second => first.tests ++ second.tests
  | many inner => inner.tests

section EveryMatch

-- The property of a text and a length is kept when one match follows another.
variable {holds : List Char → Nat → Prop} (ofNothing : ∀ text, holds text 0)
  (ofBoth : ∀ text first second, holds text first → holds (text.drop first) second →
    holds text (first + second))

include ofNothing ofBoth

theorem holds_of_mem_lengthsOfRounds {inner : List Char → List Nat}
    (ofInner : ∀ text, ∀ length ∈ inner text, holds text length) (rounds : Nat) :
    ∀ text, ∀ length ∈ lengthsOfRounds inner rounds text, holds text length := by
  induction rounds with
  | zero =>
      intro text length isLength
      rw [List.mem_singleton.mp isLength]
      exact ofNothing text
  | succ rounds inductionHypothesis =>
      intro text length isLength
      rw [lengthsOfRounds, List.mem_append, List.mem_singleton, List.mem_flatMap] at isLength
      rcases isLength with ⟨first, isFirst, inRest⟩ | isZero
      · obtain ⟨rest, isRest, rfl⟩ := List.mem_map.mp inRest
        exact ofBoth text first rest (ofInner text first (List.mem_of_mem_filter isFirst))
          (inductionHypothesis _ rest isRest)
      · rw [isZero]
        exact ofNothing text

theorem holds_of_mem_lengths {regex : Regex}
    (ofTests : ∀ test ∈ regex.tests, ∀ character later, test character = true →
      holds (character :: later) 1) :
    ∀ text, ∀ length ∈ regex.lengths text, holds text length := by
  induction regex with
  | never =>
      intro text length isLength
      cases isLength
  | nothing =>
      intro text length isLength
      rw [List.mem_singleton.mp isLength]
      exact ofNothing text
  | one test =>
      intro text length isLength
      cases text with
      | nil => cases isLength
      | cons character later =>
          rw [lengths] at isLength
          by_cases passes : test character = true
          · rw [if_pos passes, List.mem_singleton] at isLength
            rw [isLength]
            exact ofTests test (.head _) character later passes
          · rw [if_neg passes] at isLength
            cases isLength
  | seq first second ofFirst ofSecond =>
      intro text length isLength
      rw [lengths] at isLength
      obtain ⟨firstTests, secondTests⟩ := List.forall_mem_append.mp ofTests
      obtain ⟨firstLength, isFirst, inSecond⟩ := List.mem_flatMap.mp isLength
      obtain ⟨secondLength, isSecond, rfl⟩ := List.mem_map.mp inSecond
      exact ofBoth text firstLength secondLength (ofFirst firstTests text firstLength isFirst)
        (ofSecond secondTests _ secondLength isSecond)
  | alt first second ofFirst ofSecond =>
      intro text length isLength
      rw [lengths] at isLength
      obtain ⟨firstTests, secondTests⟩ := List.forall_mem_append.mp ofTests
      cases List.mem_append.mp isLength with
      | inl inFirst => exact ofFirst firstTests text length inFirst
      | inr inSecond => exact ofSecond secondTests text length inSecond
  | many inner ofInner =>
      intro text
      exact holds_of_mem_lengthsOfRounds ofNothing ofBoth (ofInner ofTests) text.length text

end EveryMatch

/-- A match lies within the text. -/
theorem le_length_of_mem_lengths (regex : Regex) :
    ∀ text, ∀ length ∈ regex.lengths text, length ≤ text.length := by
  apply holds_of_mem_lengths
  · intro text
    exact Nat.zero_le _
  · intro text first second firstBound secondBound
    rw [List.length_drop] at secondBound
    omega
  · intro _ _ character later _
    rw [List.length_cons]
    omega

/-- A match holds only characters that some test lets pass. -/
theorem not_mem_take_of_mem_lengths {regex : Regex} {character : Char}
    (refused : ∀ test ∈ regex.tests, test character = false) :
    ∀ text, ∀ length ∈ regex.lengths text, character ∉ text.take length := by
  apply holds_of_mem_lengths
  · intro text
    rw [List.take_zero]
    exact List.not_mem_nil
  · intro text first second notInFirst notInSecond
    rw [List.take_add]
    intro isThere
    cases List.mem_append.mp isThere with
    | inl inFirst => exact notInFirst inFirst
    | inr inSecond => exact notInSecond inSecond
  · intro test isTest front later passes
    rw [List.take_succ_cons, List.take_zero, List.mem_singleton]
    intro isFront
    rw [← isFront, refused test isTest] at passes
    cases passes

/-! ## Repetitions -/

theorem lengthsOfRounds_add_one (inner : List Char → List Nat) (rounds : Nat)
    (text : List Char) :
    lengthsOfRounds inner (rounds + 1) text =
      ((inner text).filter (0 < ·)).flatMap (fun length =>
        (lengthsOfRounds inner rounds (text.drop length)).map (length + ·)) ++ [0] :=
  rfl

/-- Rounds beyond the number of characters give no further match. -/
theorem lengthsOfRounds_succ {inner : List Char → List Nat}
    (bounded : ∀ text, ∀ length ∈ inner text, length ≤ text.length) :
    ∀ {rounds : Nat} {text : List Char}, text.length ≤ rounds →
      lengthsOfRounds inner (rounds + 1) text = lengthsOfRounds inner rounds text := by
  intro rounds
  induction rounds with
  | zero =>
      intro text short
      have isEmpty : (inner text).filter (0 < ·) = [] := by
        rw [List.filter_eq_nil_iff]
        intro length isLength
        have bound := bounded text length isLength
        rw [decide_eq_true_eq]
        omega
      rw [lengthsOfRounds_add_one, isEmpty]
      rfl
  | succ rounds inductionHypothesis =>
      intro text short
      rw [lengthsOfRounds_add_one inner (rounds + 1), lengthsOfRounds_add_one inner rounds]
      congr 1
      apply List.flatMap_congr
      intro length isLength
      have positive : 0 < length := of_decide_eq_true (List.mem_filter.mp isLength).2
      rw [inductionHypothesis (by rw [List.length_drop]; omega)]

theorem lengthsOfRounds_eq {inner : List Char → List Nat}
    (bounded : ∀ text, ∀ length ∈ inner text, length ≤ text.length)
    {rounds : Nat} {text : List Char} (enough : text.length ≤ rounds) :
    lengthsOfRounds inner rounds text = lengthsOfRounds inner text.length text := by
  induction enough with
  | refl => rfl
  | step enough inductionHypothesis =>
      rw [Nat.succ_eq_add_one, lengthsOfRounds_succ bounded enough, inductionHypothesis]

/-- A repetition is a round and a repetition behind it, or it takes nothing. -/
theorem lengths_many (inner : Regex) (text : List Char) :
    (many inner).lengths text =
      ((inner.lengths text).filter (0 < ·)).flatMap (fun length =>
        ((many inner).lengths (text.drop length)).map (length + ·)) ++ [0] := by
  have bounded := le_length_of_mem_lengths inner
  rw [lengths, ← lengthsOfRounds_succ bounded (Nat.le_refl _), lengthsOfRounds]
  congr 1
  apply List.flatMap_congr
  intro length _
  rw [lengths, lengthsOfRounds_eq bounded (by rw [List.length_drop]; omega)]

/-! ## Preferred matches -/

theorem length?_nothing (text : List Char) : nothing.length? text = some 0 :=
  rfl

theorem length?_one_cons (test : Char → Bool) (character : Char) (later : List Char) :
    (one test).length? (character :: later) = if test character then some 1 else none := by
  rw [length?, lengths, apply_ite List.head?]
  rfl

theorem length?_alt (first second : Regex) (text : List Char) :
    (alt first second).length? text = (first.length? text).or (second.length? text) := by
  rw [length?, lengths, List.head?_append]
  rfl

theorem length?_optional (inner : Regex) (text : List Char) :
    (optional inner).length? text = some ((inner.length? text).getD 0) := by
  rw [optional, length?_alt, length?_nothing]
  cases inner.length? text <;> rfl

theorem length?_oneOf (choices : List Regex) (text : List Char) :
    (oneOf choices).length? text = choices.findSome? (·.length? text) := by
  induction choices with
  | nil => rfl
  | cons choice later inductionHypothesis =>
      rw [List.findSome?_cons, ← inductionHypothesis, oneOf, List.foldr_cons, length?_alt]
      cases choice.length? text <;> rfl

/-- Behind a test, the rest of an expression goes on from the next character. -/
theorem length?_seq_one_cons (test : Char → Bool) (second : Regex) (character : Char)
    (later : List Char) :
    (seq (one test) second).length? (character :: later) =
      if test character then (second.length? later).map (1 + ·) else none := by
  rw [length?, lengths, lengths]
  by_cases passes : test character
  · rw [if_pos passes, if_pos passes, List.flatMap_singleton, List.head?_map, length?]
    rfl
  · rw [if_neg passes, if_neg passes]
    rfl

/-- No way back is taken between two expressions that always match. -/
theorem length?_seq_of_always {first second : Regex} {front behind : List Char → Nat}
    (firstMatches : ∀ text, first.length? text = some (front text))
    (secondMatches : ∀ text, second.length? text = some (behind text)) (text : List Char) :
    (seq first second).length? text = some (front text + behind (text.drop (front text))) := by
  have preferred := firstMatches text
  rw [length?] at preferred
  obtain ⟨others, lengths_eq⟩ := List.head?_eq_some_iff.mp preferred
  have preferredBehind := secondMatches (text.drop (front text))
  rw [length?] at preferredBehind
  rw [length?, lengths, lengths_eq, List.flatMap_cons, List.head?_append, List.head?_map,
    preferredBehind]
  rfl

/-- The test of a repetition takes as many characters as pass it. -/
theorem length?_many_one (test : Char → Bool) (text : List Char) :
    (many (one test)).length? text = some (Lexer.run test text) := by
  induction text with
  | nil => rfl
  | cons character later inductionHypothesis =>
      rw [length?, lengths_many, lengths]
      by_cases passes : test character
      · rw [length?] at inductionHypothesis
        rw [if_pos passes, Lexer.run_cons_of_pos passes, List.filter_cons_of_pos (by decide),
          List.filter_nil, List.flatMap_singleton, List.head?_append, List.head?_map,
          List.drop_succ_cons, List.drop_zero, inductionHypothesis]
        rfl
      · rw [if_neg passes, Lexer.run_cons_of_neg passes]
        rfl

theorem length?_atLeastOne_one (test : Char → Bool) (text : List Char) :
    (atLeastOne (one test)).length? text =
      if Lexer.run test text = 0 then none else some (Lexer.run test text) := by
  rw [atLeastOne]
  cases text with
  | nil => rfl
  | cons character later =>
      rw [length?_seq_one_cons, length?_many_one]
      by_cases passes : test character
      · rw [if_pos passes, Lexer.run_cons_of_pos passes, if_neg (by omega), Option.map_some]
      · rw [if_neg passes, Lexer.run_cons_of_neg passes, if_pos rfl]

/-- What stands behind an optional part is tried with it and then without it. -/
theorem length?_seq_optional (inner second : Regex) (text : List Char) :
    (seq (optional inner) second).length? text =
      ((seq inner second).length? text).or (second.length? text) := by
  have without : (nothing.lengths text).flatMap (fun length =>
      (second.lengths (text.drop length)).map (length + ·)) = second.lengths text := by
    simp [lengths]
  rw [length?, lengths, optional, lengths, List.flatMap_append, without, List.head?_append]
  rfl

/-- What stands behind a repetition is tried behind one more round and then at once. -/
theorem lengths_seq_many (inner second : Regex) (text : List Char) :
    (seq (many inner) second).lengths text =
      ((inner.lengths text).filter (0 < ·)).flatMap (fun length =>
        ((seq (many inner) second).lengths (text.drop length)).map (length + ·)) ++
        second.lengths text := by
  simp only [lengths.eq_5, lengths_many inner text, List.flatMap_append, List.flatMap_assoc,
    List.flatMap_map, List.map_flatMap, List.map_map, List.drop_drop, List.flatMap_singleton,
    List.drop_zero, Function.comp_def, Nat.add_assoc, Nat.zero_add, List.map_id']

theorem length?_seq_many_of_nil {inner : Regex} {text : List Char}
    (noRound : inner.lengths text = []) (second : Regex) :
    (seq (many inner) second).length? text = second.length? text := by
  rw [length?, lengths_seq_many, noRound]
  rfl

theorem length?_seq_many_of_singleton {inner : Regex} {text : List Char} {length : Nat}
    (oneRound : inner.lengths text = [length]) (positive : 0 < length) (second : Regex) :
    (seq (many inner) second).length? text =
      (((seq (many inner) second).length? (text.drop length)).map (length + ·)).or
        (second.length? text) := by
  have kept : [length].filter (0 < ·) = [length] :=
    List.filter_cons_of_pos (p := (0 < ·)) (decide_eq_true positive)
  rw [length?, lengths_seq_many, oneRound, kept, List.flatMap_singleton, List.head?_append,
    List.head?_map]
  rfl

theorem length?_literal (characters text : List Char) :
    (literal characters).length? text =
      if characters.isPrefixOf text then some characters.length else none := by
  induction characters generalizing text with
  | nil => rfl
  | cons character later inductionHypothesis =>
      cases text with
      | nil => rfl
      | cons front behind =>
          rw [literal, List.foldr_cons, length?_seq_one_cons, ← literal, inductionHypothesis,
            List.isPrefixOf]
          by_cases same : character = front
          · subst same
            rw [beq_self_eq_true, Bool.true_and, if_pos rfl, List.length_cons]
            by_cases isFront : later.isPrefixOf behind = true
            · rw [if_pos isFront, if_pos isFront, Option.map_some, Nat.add_comm]
            · rw [if_neg isFront, if_neg isFront]
              rfl
          · rw [beq_eq_false_iff_ne.mpr same, beq_eq_false_iff_ne.mpr (Ne.symm same)]
            rfl

end Regex

end RuleMachine
