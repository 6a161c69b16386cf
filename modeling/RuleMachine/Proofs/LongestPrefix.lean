import Mathlib.Order.Bounds.Basic
import RuleMachine.Proofs.TableEncoding

/-!
# Recognizing the longest beginning

Reading goes on as long as the automaton has a transition, and the length of the last
beginning that was accepted is carried along.  Where reading stops nothing longer can be
accepted, since every longer beginning would have to take the missing transition.  So the
answer is the length of the longest beginning that the transitions accept, and there is no
answer exactly if they accept none, not even the empty one.
-/

namespace RuleMachine.CompactTable

variable {states : List Transitions} {accepts : List Bool} {table : CompactTable}
  {state next count : Nat} {byte : UInt8} {input later : List UInt8}

/-! ## The largest number with a property -/

/-- The largest number with a property, or nothing if no number has it. -/
def IsLargest (holds : Nat → Prop) : Option Nat → Prop
  | some number => IsGreatest {count | holds count} number
  | none => ∀ count, ¬holds count

section IsLargest

variable {holds : Nat → Prop} {answer : Option Nat}

theorem IsLargest.eq_some_iff (isLargest : IsLargest holds answer) (number : Nat) :
    answer = some number ↔ IsGreatest {count | holds count} number := by
  cases answer with
  | none =>
      apply iff_of_false
      · intro isSome
        cases isSome
      · intro greatest
        exact isLargest number greatest.1
  | some largest =>
      rw [Option.some.injEq]
      constructor
      · rintro rfl
        exact isLargest
      · exact fun greatest => IsGreatest.unique isLargest greatest

theorem IsLargest.eq_none_iff (isLargest : IsLargest holds answer) :
    answer = none ↔ ∀ count, ¬holds count := by
  cases answer with
  | none => exact iff_of_true rfl isLargest
  | some largest =>
      apply iff_of_false
      · intro isNone
        cases isNone
      · intro never
        exact never largest isLargest.1

/-- Zero comes last among the numbers with a property. -/
theorem IsLargest.or_zero (isLargest : IsLargest (fun count => 0 < count ∧ holds count) answer)
    (atZero : holds 0) : IsLargest holds (answer.or (some 0)) := by
  cases answer with
  | none =>
      refine ⟨atZero, ?_⟩
      intro count isMember
      by_contra positive
      exact isLargest count ⟨Nat.lt_of_not_le positive, isMember⟩
  | some largest =>
      refine ⟨isLargest.1.2, ?_⟩
      intro count isMember
      rcases Nat.eq_zero_or_pos count with rfl | positive
      · exact Nat.zero_le largest
      · exact isLargest.2 ⟨positive, isMember⟩

theorem IsLargest.of_not_zero
    (isLargest : IsLargest (fun count => 0 < count ∧ holds count) answer)
    (notAtZero : ¬holds 0) : IsLargest holds answer := by
  have same : (fun count => 0 < count ∧ holds count) = holds := by
    funext count
    apply propext
    refine ⟨And.right, fun isMember => ⟨Nat.pos_of_ne_zero ?_, isMember⟩⟩
    rintro rfl
    exact notAtZero isMember
  exact same ▸ isLargest

theorem IsLargest.map_succ {shifted : Nat → Prop} (isLargest : IsLargest holds answer)
    (shift : ∀ count, shifted (count + 1) ↔ holds count) :
    IsLargest (fun count => 0 < count ∧ shifted count) (answer.map (· + 1)) := by
  cases answer with
  | none =>
      rintro (_ | count) ⟨positive, isMember⟩
      · exact Nat.lt_irrefl 0 positive
      · exact isLargest count ((shift count).mp isMember)
  | some largest =>
      refine ⟨⟨Nat.succ_pos largest, (shift largest).mpr isLargest.1⟩, ?_⟩
      rintro (_ | count) ⟨positive, isMember⟩
      · exact Nat.zero_le _
      · exact Nat.succ_le_succ (isLargest.2 ((shift count).mp isMember))

end IsLargest

/-! ## Beginnings that the transitions accept -/

/-- The target of a byte in a state, as the transitions of the state have it. -/
def next? (states : List Transitions) (state : Nat) (byte : UInt8) : Option Nat :=
  states[state]?.bind fun transitions => transitions.target? byte.toNat

/-- The state that the transitions lead to over some bytes, if every byte has a target. -/
def runOver (states : List Transitions) (state : Nat) : List UInt8 → Option Nat
  | [] => some state
  | byte :: later => (next? states state byte).bind fun next => runOver states next later

/-- The transitions lead from a state over the first bytes of an input, as many as are
given, to an accepting state. -/
def AcceptsFirst (states : List Transitions) (accepts : List Bool) (state : Nat)
    (input : List UInt8) (count : Nat) : Prop :=
  count ≤ input.length ∧
    ∃ final, runOver states state (input.take count) = some final ∧ accepts[final]? = some true

theorem acceptsFirst_zero :
    AcceptsFirst states accepts state input 0 ↔ accepts[state]? = some true := by
  simp [AcceptsFirst, runOver]

theorem not_acceptsFirst_nil (positive : 0 < count) :
    ¬AcceptsFirst states accepts state [] count :=
  fun accepted => Nat.not_lt.mpr accepted.1 positive

theorem acceptsFirst_cons (found : next? states state byte = some next) (count : Nat) :
    AcceptsFirst states accepts state (byte :: later) (count + 1) ↔
      AcceptsFirst states accepts next later count := by
  simp [AcceptsFirst, runOver, found]

theorem not_acceptsFirst_cons (missing : next? states state byte = none) (positive : 0 < count) :
    ¬AcceptsFirst states accepts state (byte :: later) count := by
  obtain ⟨count, rfl⟩ := Nat.exists_eq_succ_of_ne_zero (Nat.ne_of_gt positive)
  simp [AcceptsFirst, runOver, missing]

/-! ## Reading on -/

theorem Represents.lookup_eq (represents : table.Represents states accepts)
    (isState : state < states.length) (byte : UInt8) :
    table.lookup state byte.toNat = next? states state byte := by
  have found := List.getElem?_eq_getElem isState
  have answered := represents.transition state _ found byte.toNat
  unfold CompactTable.transition at answered
  split at answered
  · rw [next?, found]
    exact Except.ok.inj answered
  · cases answered

theorem next?_lt
    (inRange : ∀ transitions ∈ states, ∀ key target, transitions.get? key = some target →
      target < states.length)
    (found : next? states state byte = some next) : next < states.length := by
  obtain ⟨transitions, isState, isTarget⟩ := Option.bind_eq_some_iff.mp found
  have member := List.mem_of_getElem? isState
  unfold Transitions.target? at isTarget
  split at isTarget
  · rename_i target mentioned
    rw [← Option.some.inj isTarget]
    exact inRange transitions member _ target mentioned
  · exact inRange transitions member _ next isTarget

/-- Reading on gives the longest further beginning that is accepted, or else the one that
was carried along. -/
theorem exists_recognizeFrom (represents : table.Represents states accepts)
    (counted : states.length = accepts.length)
    (inRange : ∀ transitions ∈ states, ∀ key target, transitions.get? key = some target →
      target < states.length)
    (isState : state < states.length) (position : Nat) (longest : Option Nat) :
    ∃ further,
      IsLargest (fun count => 0 < count ∧ AcceptsFirst states accepts state input count)
        further ∧
      table.recognizeFrom state position longest input =
        .ok ((further.map (position + ·)).or longest) := by
  induction input generalizing state position longest with
  | nil => exact ⟨none, fun count both => not_acceptsFirst_nil both.1 both.2, rfl⟩
  | cons byte later inductionHypothesis =>
      unfold recognizeFrom
      rw [represents.lookup_eq isState]
      cases found : next? states state byte with
      | none =>
          -- Every longer beginning would have to take the missing transition.
          exact ⟨none, fun count both => not_acceptsFirst_cons found both.1 both.2, rfl⟩
      | some next =>
          have isNext := next?_lt inRange found
          obtain ⟨flag, hasFlag⟩ : ∃ flag, accepts[next]? = some flag :=
            ⟨_, List.getElem?_eq_getElem (counted ▸ isNext)⟩
          have answered := represents.acceptance next flag hasFlag
          cases flag with
          | true =>
              -- Up to here the input is accepted, which counts unless more of it is.
              obtain ⟨further, isLargest, read⟩ :=
                inductionHypothesis isNext (position + 1) (some (position + 1))
              have whole := isLargest.or_zero (acceptsFirst_zero.mpr hasFlag)
              refine ⟨_, whole.map_succ (acceptsFirst_cons found), ?_⟩
              simp only [answered, read]
              cases further with
              | none => simp
              | some count => simp [Nat.add_assoc, Nat.add_comm 1 count]
          | false =>
              obtain ⟨further, isLargest, read⟩ :=
                inductionHypothesis isNext (position + 1) longest
              have refuses : ¬AcceptsFirst states accepts next later 0 := by
                rw [acceptsFirst_zero, hasFlag]
                simp
              have whole := isLargest.of_not_zero refuses
              refine ⟨_, whole.map_succ (acceptsFirst_cons found), ?_⟩
              simp only [answered, read]
              cases further with
              | none => rfl
              | some count => simp [Nat.add_assoc, Nat.add_comm 1 count]

theorem exists_recognize (represents : table.Represents states accepts)
    (counted : states.length = accepts.length)
    (inRange : ∀ transitions ∈ states, ∀ key target, transitions.get? key = some target →
      target < states.length)
    (nonempty : 1 ≤ states.length) (input : List UInt8) :
    ∃ answer, IsLargest (AcceptsFirst states accepts 0 input) answer ∧
      table.recognize input = .ok answer := by
  obtain ⟨flag, hasFlag⟩ : ∃ flag, accepts[0]? = some flag :=
    ⟨_, List.getElem?_eq_getElem (counted ▸ nonempty)⟩
  have answered := represents.acceptance 0 flag hasFlag
  unfold recognize
  rw [answered]
  cases flag with
  | true =>
      obtain ⟨further, isLargest, read⟩ :=
        exists_recognizeFrom represents counted inRange nonempty 0 (some 0)
      refine ⟨_, isLargest.or_zero (acceptsFirst_zero.mpr hasFlag), ?_⟩
      simp only [read, Nat.zero_add, Option.map_id']
  | false =>
      obtain ⟨further, isLargest, read⟩ :=
        exists_recognizeFrom represents counted inRange nonempty 0 none
      have refuses : ¬AcceptsFirst states accepts 0 input 0 := by
        rw [acceptsFirst_zero, hasFlag]
        simp
      refine ⟨_, isLargest.of_not_zero refuses, ?_⟩
      simp only [read, Nat.zero_add, Option.map_id', Option.or_none]

/-- Where every target is a state, there is a table exactly if its cells can be counted.
With a look-up in its list of cells for every byte, it recognizes the longest beginning of an
input that the transitions accept, and nothing exactly if they accept no beginning, not even
the empty one. -/
theorem recognize_longest (nonempty : 1 ≤ states.length)
    (few : states.length ≤ RuleAutomaton.maxStates) (counted : states.length = accepts.length)
    (inRange : ∀ transitions ∈ states, ∀ key target, transitions.get? key = some target →
      target < states.length) :
    ((∃ table, encode states accepts = .ok table) ↔ ∀ transitions ∈ states, ∀ code target,
      transitions.get? (.code code) = some target → states.length * (code + 1) ≤ maxCells) ∧
    ∀ table, encode states accepts = .ok table → ∀ input,
      (∀ longest, table.recognize input = .ok (some longest) ↔
        IsGreatest {count | AcceptsFirst states accepts 0 input count} longest) ∧
      (table.recognize input = .ok none ↔
        ∀ count, ¬AcceptsFirst states accepts 0 input count) := by
  refine ⟨exists_encode_iff counted few, ?_⟩
  intro table encoded input
  have small : ∀ transitions ∈ states, ∀ key target, transitions.get? key = some target →
      target < noTransition.toNat := by
    intro transitions member key target found
    exact Nat.lt_of_lt_of_le (inRange transitions member key target found)
      (few.trans (by decide))
  have represents := represents_ofStates counted small
  rw [← eq_ofStates_of_encode encoded] at represents
  obtain ⟨answer, isLargest, recognized⟩ :=
    exists_recognize represents counted inRange nonempty input
  constructor
  · intro longest
    rw [recognized, Except.ok.injEq]
    exact isLargest.eq_some_iff longest
  · rw [recognized, Except.ok.injEq]
    exact isLargest.eq_none_iff

/-- A remark ends in front of the line end, though reading goes on to the line end; a text
that does not begin with a hash sign is no remark. -/
theorem recognize_longest_remarkStates :
    ∃ table, encode remarkStates [false, true, false] = .ok table ∧
      table.recognize [35, 32, 120, 10, 35] = .ok (some 3) ∧
      IsGreatest {count | AcceptsFirst remarkStates [false, true, false] 0 [35, 32, 120, 10, 35]
        count} 3 ∧
      table.recognize [120, 35] = .ok none ∧
      ∀ count, ¬AcceptsFirst remarkStates [false, true, false] 0 [120, 35] count := by
  have inRange : ∀ transitions ∈ remarkStates, ∀ key target,
      transitions.get? key = some target → target < remarkStates.length :=
    target_lt_of_entries (by decide)
  have encoded : encode remarkStates [false, true, false] =
      .ok (ofStates remarkStates [false, true, false]) := by rfl
  have longest := (recognize_longest (by decide) (by decide) rfl inRange).2 _ encoded
  have recognized : (ofStates remarkStates [false, true, false]).recognize
      [35, 32, 120, 10, 35] = .ok (some 3) := by rfl
  have refused : (ofStates remarkStates [false, true, false]).recognize [120, 35] =
      .ok none := by rfl
  exact ⟨_, encoded, recognized, ((longest _).1 3).mp recognized, refused,
    (longest _).2.mp refused⟩

/-- A single accepting state with a transition on the largest code of 64 bits. -/
def farthestStates : List Transitions :=
  [.ofList [(.code 18446744073709551615, 0)]]

/-- The transitions accept the empty beginning of every input, but there is no table that
could recognize it. -/
theorem no_table_farthestStates :
    (∀ transitions ∈ farthestStates, ∀ key target, transitions.get? key = some target →
        target < farthestStates.length) ∧
      IsGreatest {count | AcceptsFirst farthestStates [true] 0 [] count} 0 ∧
      ∀ table, encode farthestStates [true] ≠ .ok table := by
  refine ⟨target_lt_of_entries (by decide), ⟨acceptsFirst_zero.mpr rfl, ?_⟩, ?_⟩
  · intro count accepted
    exact accepted.1
  · intro table encoded
    cases encoded

end RuleMachine.CompactTable
