import RuleMachine.Proofs.CheckedCompilation
import Mathlib.Logic.Relation

/-!
# Left recursion

The rules that are being visited form a chain: each of them leads to the one that is
visited inside it.  So an arc back into the chain closes a circle, and the rule with that
arc lies on it.  If there is no circle, the visits come to an end, and a first set holds
the terminal labels at the ends of all chains that begin with its rule.
-/

namespace RuleMachine.First

open Relation (ReflTransGen TransGen)

variable {automata : List RuleAutomaton} {labels : List Label} {known extended : Known}
  {visiting : List Nat} {rule sub : Nat} {label : LabelId} {error : GrammarError}

/-! ## Circles -/

/-- A rule leads back to itself, by way of any number of other rules. -/
def OnCircle (automata : List RuleAutomaton) (labels : List Label) (rule : Nat) : Prop :=
  TransGen (Leads automata labels) rule rule

/-- A chain of rules, each of which leads to the next one, ends at a rule whose initial
state has an arc with the given label. -/
def ChainEndsAt (automata : List RuleAutomaton) (labels : List Label) (rule : Nat)
    (label : LabelId) : Prop :=
  ∃ last, ReflTransGen (Leads automata labels) last rule ∧
    ∃ automaton, automata[last]? = some automaton ∧ ∃ arc ∈ automaton.arcsAt 0, arc.label = label

/-- An error that names a rule on a circle. -/
def Blames (automata : List RuleAutomaton) (labels : List Label) (error : GrammarError) : Prop :=
  ∃ rule automaton, OnCircle automata labels rule ∧ automata[rule]? = some automaton ∧
    error = .unplaced (.leftRecursion automaton.name)

theorem Leads.lt_length (leads : Leads automata labels sub rule) : rule < automata.length := by
  obtain ⟨automaton, found, _⟩ := leads
  obtain ⟨inRange, _⟩ := List.getElem?_eq_some_iff.mp found
  exact inRange

theorem Leads.sub_lt_length (leading : Checked.Leading automata labels)
    (leads : Leads automata labels sub rule) : sub < automata.length := by
  obtain ⟨automaton, found, arc, isArc, isSub⟩ := leads
  unfold subRule? at isSub
  split at isSub
  · rename_i symbol isRule
    obtain ⟨_, inRange⟩ := leading.ruled arc.label symbol isRule
    exact Option.some.inj isSub ▸ inRange
  · cases isSub

theorem OnCircle.lt_length (onCircle : OnCircle automata labels rule) :
    rule < automata.length := by
  obtain ⟨sub, _, leads⟩ := TransGen.tail'_iff.mp onCircle
  exact leads.lt_length

/-! ## Whom an error blames -/

/-- Among the arcs of a rule, the one that fails leads back to a rule that is being visited,
or into a rule that could not be visited. -/
theorem blames_of_collect {visit : Nat → Known → Except GrammarError Known}
    {automaton : RuleAutomaton} (found : automata[rule]? = some automaton)
    (within : ∀ tested ∈ visiting, ReflTransGen (Leads automata labels) rule tested)
    (visits : ∀ sub known error, Leads automata labels sub rule → sub ∉ visiting →
      visit sub known = .error error → Blames automata labels error)
    {arcs : List Arc} (areArcs : ∀ arc ∈ arcs, arc ∈ automaton.arcsAt 0) {first : NatSet}
    (failed : collect visit labels automaton.name visiting arcs first known = .error error) :
    Blames automata labels error := by
  induction arcs generalizing first known with
  | nil => cases failed
  | cons arc later inductionHypothesis =>
      obtain ⟨isArc, areLater⟩ := List.forall_mem_cons.mp areArcs
      unfold collect at failed
      split at failed
      · rename_i symbol isRule
        have isSub : subRule? labels arc = some symbol.ruleIndex := by
          rw [subRule?, isRule]
        have leads : Leads automata labels symbol.ruleIndex rule :=
          ⟨automaton, found, arc, isArc, isSub⟩
        simp only at failed
        split at failed
        · rename_i isVisiting
          cases failed
          exact ⟨rule, automaton, .tail' (within _ isVisiting) leads, found, rfl⟩
        · rename_i notVisiting
          split at failed
          · exact inductionHypothesis areLater failed
          · split at failed
            · rename_i visitFailed
              cases failed
              exact visits _ _ _ leads notVisiting visitFailed
            · exact inductionHypothesis areLater failed
      · exact inductionHypothesis areLater failed

theorem blames_of_visit (leading : Checked.Leading automata labels) {depth : Nat}
    (nested : Checked.Nested automata (rule :: visiting))
    (enough : automata.length ≤ visiting.length + depth)
    (within : ∀ tested ∈ visiting, ReflTransGen (Leads automata labels) rule tested)
    (failed : visit automata labels depth visiting rule known = .error error) :
    Blames automata labels error := by
  induction depth generalizing visiting rule known error with
  | zero =>
      -- All rules are being visited already, so this one is visited twice.
      have counted := nested.length_le
      rw [List.length_cons] at counted
      omega
  | succ depth inductionHypothesis =>
      have inRange := nested.inRange rule (.head visiting)
      have found := List.getElem?_eq_getElem inRange
      generalize automata[rule] = automaton at found
      have reaches : ∀ tested ∈ rule :: visiting,
          ReflTransGen (Leads automata labels) rule tested :=
        List.forall_mem_cons.mpr ⟨.refl, within⟩
      simp only [visit, found] at failed
      split at failed
      · rename_i collectFailed
        cases failed
        refine blames_of_collect found reaches ?_ (fun _ isArc => isArc) collectFailed
        intro sub known error leads isNew visitFailed
        refine inductionHypothesis (nested.cons isNew (leads.sub_lt_length leading)) ?_ ?_
          visitFailed
        · rw [List.length_cons]
          omega
        · intro tested isTested
          exact .head leads (reaches tested isTested)
      · cases failed

theorem blames_of_visitAll (leading : Checked.Leading automata labels) {rules : List Nat}
    (inRange : ∀ rule ∈ rules, rule < automata.length)
    (failed : visitAll automata labels rules known = .error error) :
    Blames automata labels error := by
  induction rules generalizing known with
  | nil => cases failed
  | cons rule later inductionHypothesis =>
      obtain ⟨ruleInRange, laterInRange⟩ := List.forall_mem_cons.mp inRange
      unfold visitAll at failed
      split at failed
      · exact inductionHypothesis laterInRange failed
      · split at failed
        · rename_i visitFailed
          cases failed
          have alone : Checked.Nested automata [rule] :=
            ⟨List.nodup_singleton rule, List.forall_mem_singleton.mpr ruleInRange⟩
          exact blames_of_visit leading alone (Nat.le_add_left _ _) (by simp) visitFailed
        · exact inductionHypothesis laterInRange failed

theorem blames_of_firstSets (leading : Checked.Leading automata labels)
    (failed : firstSets automata labels = .error error) : Blames automata labels error := by
  unfold firstSets at failed
  split at failed
  · rename_i visitFailed
    cases failed
    exact blames_of_visitAll leading (fun _ => List.mem_range.mp) visitFailed
  · cases failed

theorem not_onCircle_of_firstSets {sets : List NatSet}
    (success : firstSets automata labels = .ok sets) (rule : Nat) :
    ¬OnCircle automata labels rule := by
  intro onCircle
  have acc := (firstSets_spec success).2 rule onCircle.lt_length
  exact not_transGen_self acc onCircle

/-! ## What a first set holds -/

theorem subRule?_eq_none_iff {arc : Arc} {arcLabel : Label}
    (isLabel : labels[arc.label]? = some arcLabel) :
    subRule? labels arc = none ↔ arcLabel.isTerminal = true := by
  rw [subRule?, isLabel]
  cases arcLabel <;> simp [Label.isTerminal]

/-- A label of a first set is terminal and ends a chain.  The chains of a rule are those of
the rules that it leads to, which are shorter. -/
theorem chainEndsAt_of_mem (leading : Checked.Leading automata labels) {sets : List NatSet}
    (success : firstSets automata labels = .ok sets) {set : NatSet}
    (isSet : sets[rule]? = some set) (member : label ∈ set) :
    (∃ terminal, labels[label]? = some terminal ∧ terminal.isTerminal = true) ∧
      ChainEndsAt automata labels rule label := by
  obtain ⟨equations, acc⟩ := firstSets_spec success
  have inRange : rule < automata.length := by
    rw [← Grammar.length_of_firstSets success]
    exact (List.getElem?_eq_some_iff.mp isSet).1
  induction acc rule inRange generalizing set with
  | intro rule _ inductionHypothesis =>
      have found := List.getElem?_eq_getElem inRange
      generalize automata[rule] = automaton at found
      obtain ⟨sameSet, isSameSet, mem_iff⟩ := equations rule automaton found
      obtain rfl := Option.some.inj (isSet.symm.trans isSameSet)
      obtain ⟨arc, isArc, begins⟩ := (mem_iff label).mp member
      cases isSub : subRule? labels arc with
      | some sub =>
          have leads : Leads automata labels sub rule := ⟨automaton, found, arc, isArc, isSub⟩
          simp only [ArcBegins, isSub] at begins
          obtain ⟨subSet, isSubSet, subMember⟩ := begins
          obtain ⟨isTerminal, last, chain, ends⟩ :=
            inductionHypothesis sub leads isSubSet subMember (leads.sub_lt_length leading)
          exact ⟨isTerminal, last, chain.tail leads, ends⟩
      | none =>
          rw [arcBegins_of_terminal isSub] at begins
          obtain ⟨arcLabel, isLabel⟩ :=
            leading.labelled automaton (List.mem_of_getElem? found) arc isArc
          have isTerminal := (subRule?_eq_none_iff isLabel).mp isSub
          rw [begins]
          exact ⟨⟨arcLabel, isLabel, isTerminal⟩, rule, .refl, automaton, found, arc, isArc, rfl⟩

/-- A terminal label at the end of a chain is handed on to all rules of the chain. -/
theorem exists_set_of_chain {sets : List NatSet}
    (success : firstSets automata labels = .ok sets) {terminal : Label}
    (isLabel : labels[label]? = some terminal) (isTerminal : terminal.isTerminal = true)
    {last : Nat} {automaton : RuleAutomaton} {arc : Arc}
    (found : automata[last]? = some automaton) (isArc : arc ∈ automaton.arcsAt 0)
    (ends : arc.label = label) (chain : ReflTransGen (Leads automata labels) last rule) :
    ∃ set, sets[rule]? = some set ∧ label ∈ set := by
  obtain ⟨equations, _⟩ := firstSets_spec success
  induction chain with
  | refl =>
      obtain ⟨set, isSet, mem_iff⟩ := equations last automaton found
      refine ⟨set, isSet, (mem_iff label).mpr ⟨arc, isArc, ?_⟩⟩
      have noSub : subRule? labels arc = none :=
        (subRule?_eq_none_iff (ends ▸ isLabel)).mpr isTerminal
      exact (arcBegins_of_terminal noSub).mpr ends.symm
  | @tail sub rule _ leads inductionHypothesis =>
      obtain ⟨subSet, isSubSet, subMember⟩ := inductionHypothesis
      obtain ⟨upper, upperFound, upperArc, isUpperArc, isSub⟩ := leads
      obtain ⟨set, isSet, mem_iff⟩ := equations rule upper upperFound
      refine ⟨set, isSet, (mem_iff label).mpr ⟨upperArc, isUpperArc, ?_⟩⟩
      exact (arcBegins_of_sub isSub isSubSet).mpr subMember

/-- Left recursion is reported exactly if some rule leads back to itself, and a rule on such
a circle is blamed.  Otherwise every rule has a first set, which holds exactly the terminal
labels at the ends of the chains that begin with the rule. -/
theorem firstSets_exact (leading : Checked.Leading automata labels) :
    ((∃ name, firstSets automata labels = .error (.unplaced (.leftRecursion name))) ↔
        ∃ rule, OnCircle automata labels rule) ∧
      (∀ error, firstSets automata labels = .error error → Blames automata labels error) ∧
      ((∀ rule, ¬OnCircle automata labels rule) →
        ∃ sets, firstSets automata labels = .ok sets ∧ sets.length = automata.length ∧
          ∀ (rule : Nat) set, sets[rule]? = some set → ∀ label, label ∈ set ↔
            (∃ terminal, labels[label]? = some terminal ∧ terminal.isTerminal = true) ∧
              ChainEndsAt automata labels rule label) := by
  refine ⟨⟨?_, ?_⟩, fun _ => blames_of_firstSets leading, ?_⟩
  · rintro ⟨name, failed⟩
    obtain ⟨rule, _, onCircle, _⟩ := blames_of_firstSets leading failed
    exact ⟨rule, onCircle⟩
  · rintro ⟨rule, onCircle⟩
    cases outcome : firstSets automata labels with
    | ok sets => exact absurd onCircle (not_onCircle_of_firstSets outcome rule)
    | error error =>
        obtain ⟨_, automaton, _, _, rfl⟩ := blames_of_firstSets leading outcome
        exact ⟨automaton.name, rfl⟩
  · intro noCircle
    cases outcome : firstSets automata labels with
    | error error =>
        obtain ⟨rule, _, onCircle, _⟩ := blames_of_firstSets leading outcome
        exact absurd onCircle (noCircle rule)
    | ok sets =>
        refine ⟨sets, rfl, Grammar.length_of_firstSets outcome, ?_⟩
        intro rule set isSet label
        constructor
        · exact chainEndsAt_of_mem leading outcome isSet
        · rintro ⟨⟨terminal, isLabel, isTerminal⟩, last, chain, automaton, found, arc, isArc, ends⟩
          obtain ⟨sameSet, isSameSet, member⟩ :=
            exists_set_of_chain outcome isLabel isTerminal found isArc ends chain
          rw [Option.some.inj (isSet.symm.trans isSameSet)]
          exact member

/-- The labels of a rule `b`, a name, a number and a rule `a`. -/
def swingLabels : List Label := [.rule 257, .token 1, .token 2, .rule 256]

/-- The rules `a: b NAME` and `b: [NUMBER] a`, each of which begins with the other one. -/
def swingAutomata : List RuleAutomaton :=
  [.ofStates "a" 256 [⟨[⟨0, 1⟩], false⟩, ⟨[⟨1, 2⟩], false⟩, ⟨[], true⟩],
    .ofStates "b" 257 [⟨[⟨2, 1⟩, ⟨3, 2⟩], false⟩, ⟨[⟨3, 2⟩], false⟩, ⟨[], true⟩]]

/-- The labels of the rules `middle` and `low`, a name and a number. -/
def stairLabels : List Label := [.rule 257, .rule 258, .token 1, .token 2]

/-- The rules `top: middle | low`, `middle: low NAME` and `low: NUMBER`. -/
def stairAutomata : List RuleAutomaton :=
  [.ofStates "top" 256 [⟨[⟨0, 1⟩, ⟨1, 1⟩], false⟩, ⟨[], true⟩],
    .ofStates "middle" 257 [⟨[⟨1, 1⟩], false⟩, ⟨[⟨2, 2⟩], false⟩, ⟨[], true⟩],
    .ofStates "low" 258 [⟨[⟨3, 1⟩], false⟩, ⟨[], true⟩]]

/-- Whether rules have initial states and their arcs and labels lead to labels and rules of the
lists. -/
def isLeading (automata : List RuleAutomaton) (labels : List Label) : Bool :=
  (automata.all fun automaton => decide (0 < automaton.states.length) &&
      (automaton.arcsAt 0).all fun arc => decide (arc.label < labels.length)) &&
    labels.all fun
      | .rule symbol => symbol.isRule && decide (symbol.ruleIndex < automata.length)
      | _ => true

theorem leading_of_isLeading (checked : isLeading automata labels = true) :
    Checked.Leading automata labels := by
  obtain ⟨automataChecked, labelsChecked⟩ := Bool.and_eq_true_iff.mp checked
  rw [List.all_eq_true] at automataChecked labelsChecked
  refine ⟨?_, ?_, ?_⟩
  · intro automaton isAutomaton
    have both := Bool.and_eq_true_iff.mp (automataChecked automaton isAutomaton)
    exact of_decide_eq_true both.1
  · intro automaton isAutomaton arc isArc
    have both := Bool.and_eq_true_iff.mp (automataChecked automaton isAutomaton)
    have inRange := of_decide_eq_true (List.all_eq_true.mp both.2 arc isArc)
    exact ⟨_, List.getElem?_eq_getElem inRange⟩
  · intro place symbol isRule
    have both := Bool.and_eq_true_iff.mp (labelsChecked _ (List.mem_of_getElem? isRule))
    exact ⟨both.1, of_decide_eq_true both.2⟩

/-- The circle of `a` and `b` is found at `b`; the stairs have no circle, and a number is at
the end of the two ways down from the top. -/
theorem firstSets_exact_swing_stair :
    Checked.Leading swingAutomata swingLabels ∧
      firstSets swingAutomata swingLabels = .error (.unplaced (.leftRecursion "b")) ∧
      OnCircle swingAutomata swingLabels 1 ∧
      Checked.Leading stairAutomata stairLabels ∧
      (∃ sets, firstSets stairAutomata stairLabels = .ok sets) ∧
      ChainEndsAt stairAutomata stairLabels 0 3 := by
  have swingLeading : Checked.Leading swingAutomata swingLabels :=
    leading_of_isLeading (by decide)
  have stairLeading : Checked.Leading stairAutomata stairLabels :=
    leading_of_isLeading (by decide)
  have swingFails : firstSets swingAutomata swingLabels =
      .error (.unplaced (.leftRecursion "b")) := by
    decide +kernel
  have stairSets : firstSets stairAutomata stairLabels =
      .ok [.ofList [3], .ofList [3], .ofList [3]] := by
    decide +kernel
  obtain ⟨rule, automaton, onCircle, found, blamed⟩ :=
    (firstSets_exact swingLeading).2.1 _ swingFails
  have isSecond : rule = 1 := by
    match rule, found with
    | 0, found =>
        cases found
        exact absurd blamed (by decide)
    | 1, _ => rfl
  obtain ⟨sets, success, _, mem_iff⟩ :=
    (firstSets_exact stairLeading).2.2 (not_onCircle_of_firstSets stairSets)
  rw [stairSets] at success
  cases success
  have ends := ((mem_iff 0 (.ofList [3]) rfl 3).mp (by decide)).2
  exact ⟨swingLeading, swingFails, isSecond ▸ onCircle, stairLeading, ⟨_, stairSets⟩, ends⟩

end RuleMachine.First
