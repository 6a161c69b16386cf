import RuleMachine.Proofs.TransitionTable
import Mathlib.Data.Finset.Card
import Mathlib.Logic.Relation

/-!
# First sets

Whenever a rule is entered among the known ones, the rules that it can begin with
are known already.  So the first sets solve their equations, and no chain of rules
that begin with each other can go on forever: a rule can be given a rank that
grows from each rule to those that begin with it.
-/

namespace RuleMachine

namespace First

variable {automata : List RuleAutomaton} {labels : List Label} {known extended : Known}
  {visiting : List Nat} {rule sub : Nat} {arc : Arc} {label : LabelId}

/-- The rule that an arc descends into. -/
def subRule? (labels : List Label) (arc : Arc) : Option Nat :=
  match labels[arc.label]? with
  | some (.rule symbol) => some symbol.ruleIndex
  | _ => none

/-- An arc of the initial state of a rule descends into another rule. -/
def Leads (automata : List RuleAutomaton) (labels : List Label) (sub rule : Nat) : Prop :=
  ∃ automaton, automata[rule]? = some automaton ∧
    ∃ arc ∈ automaton.arcsAt 0, subRule? labels arc = some sub

/-- A terminal label is one that an arc can begin with, where first sets are given. -/
def ArcBegins (labels : List Label) (setOf : Nat → Option NatSet) (arc : Arc)
    (label : LabelId) : Prop :=
  match subRule? labels arc with
  | some sub => ∃ set, setOf sub = some set ∧ label ∈ set
  | none => label = arc.label

/-- What is known once stays known. -/
def Grows (known extended : Known) : Prop :=
  ∀ rule set, known.get? rule = some set → extended.get? rule = some set

/-- A known rule begins only with known rules, its set is made of theirs, and chains of
rules that begin with each other end below it. -/
structure KnownSpec (automata : List RuleAutomaton) (labels : List Label) (known : Known) :
    Prop where
  below : ∀ rule set, known.get? rule = some set →
    ∀ sub, Leads automata labels sub rule → ∃ subSet, known.get? sub = some subSet
  set : ∀ rule set, known.get? rule = some set → ∀ label, label ∈ set ↔
    ∃ automaton, automata[rule]? = some automaton ∧
      ∃ arc ∈ automaton.arcsAt 0, ArcBegins labels known.get? arc label
  acc : ∀ rule set, known.get? rule = some set → Acc (Leads automata labels) rule

/-- What visiting a rule achieves while other rules are being visited. -/
structure Visited (automata : List RuleAutomaton) (labels : List Label) (visiting : List Nat)
    (known extended : Known) : Prop where
  grows : Grows known extended
  spec : KnownSpec automata labels extended
  kept : ∀ rule ∈ visiting, extended.get? rule = known.get? rule

theorem Visited.refl (spec : KnownSpec automata labels known) (visiting : List Nat) :
    Visited automata labels visiting known known :=
  ⟨fun _ _ found => found, spec, fun _ _ => rfl⟩

theorem Visited.trans {middle : Known} (first : Visited automata labels visiting known middle)
    (second : Visited automata labels visiting middle extended) :
    Visited automata labels visiting known extended where
  grows rule set found := second.grows rule set (first.grows rule set found)
  spec := second.spec
  kept rule member := (second.kept rule member).trans (first.kept rule member)

theorem arcBegins_of_grows (grows : Grows known extended)
    (isKnown : ∀ sub, subRule? labels arc = some sub → ∃ set, known.get? sub = some set) :
    ArcBegins labels extended.get? arc label ↔ ArcBegins labels known.get? arc label := by
  unfold ArcBegins
  split
  · rename_i sub isSub
    obtain ⟨set, found⟩ := isKnown sub isSub
    rw [found, grows sub set found]
  · exact Iff.rfl

/-! ## One rule -/

theorem KnownSpec.insert {set : NatSet} (spec : KnownSpec automata labels known)
    (isNew : known.get? rule = none)
    (below : ∀ sub, Leads automata labels sub rule → ∃ subSet, known.get? sub = some subSet)
    (isSet : ∀ label, label ∈ set ↔ ∃ automaton, automata[rule]? = some automaton ∧
      ∃ arc ∈ automaton.arcsAt 0, ArcBegins labels known.get? arc label) :
    Grows known (known.insert rule set) ∧ KnownSpec automata labels (known.insert rule set) := by
  have grows : Grows known (known.insert rule set) := by
    intro tested testedSet found
    have isOld : tested ≠ rule := by
      intro same
      rw [same, isNew] at found
      cases found
    rw [Dictionary.get?_insert, if_neg isOld]
    exact found
  refine ⟨grows, ?_, ?_, ?_⟩
  · intro tested testedSet found sub leads
    rcases Dictionary.eq_or_get?_of_get?_insert found with ⟨rfl, _⟩ | isOld
    · obtain ⟨subSet, subFound⟩ := below sub leads
      exact ⟨subSet, grows sub subSet subFound⟩
    · obtain ⟨subSet, subFound⟩ := spec.below tested testedSet isOld sub leads
      exact ⟨subSet, grows sub subSet subFound⟩
  · intro tested testedSet found label
    have testedBelow : ∀ sub, Leads automata labels sub tested →
        ∃ subSet, known.get? sub = some subSet := by
      rcases Dictionary.eq_or_get?_of_get?_insert found with ⟨rfl, _⟩ | isOld
      · exact below
      · exact spec.below tested testedSet isOld
    have testedSpec : label ∈ testedSet ↔ ∃ automaton, automata[tested]? = some automaton ∧
        ∃ arc ∈ automaton.arcsAt 0, ArcBegins labels known.get? arc label := by
      rcases Dictionary.eq_or_get?_of_get?_insert found with ⟨rfl, rfl⟩ | isOld
      · exact isSet label
      · exact spec.set tested testedSet isOld label
    rw [testedSpec]
    refine exists_congr fun automaton => and_congr_right fun isAutomaton =>
      exists_congr fun arc => and_congr_right fun isArc => ?_
    exact (arcBegins_of_grows grows fun sub isSub =>
      testedBelow sub ⟨automaton, isAutomaton, arc, isArc, isSub⟩).symm
  · intro tested testedSet found
    rcases Dictionary.eq_or_get?_of_get?_insert found with ⟨rfl, _⟩ | isOld
    · refine Acc.intro tested fun sub leads => ?_
      obtain ⟨subSet, subFound⟩ := below sub leads
      exact spec.acc sub subSet subFound
    · exact spec.acc tested testedSet isOld

theorem arcBegins_of_sub {setOf : Nat → Option NatSet} {set : NatSet}
    (isSub : subRule? labels arc = some sub) (found : setOf sub = some set) :
    ArcBegins labels setOf arc label ↔ label ∈ set := by
  simp [ArcBegins, isSub, found]

theorem arcBegins_of_terminal {setOf : Nat → Option NatSet}
    (isTerminal : subRule? labels arc = none) :
    ArcBegins labels setOf arc label ↔ label = arc.label := by
  simp [ArcBegins, isTerminal]

/-- What is collected from arcs, where the sets of the rules behind them become known. -/
structure Collected (automata : List RuleAutomaton) (labels : List Label)
    (visiting : List Nat) (arcs : List Arc) (first result : NatSet) (known extended : Known) :
    Prop where
  visited : Visited automata labels visiting known extended
  below : ∀ arc ∈ arcs, ∀ sub, subRule? labels arc = some sub →
    ∃ set, extended.get? sub = some set
  set : ∀ label, label ∈ result ↔
    label ∈ first ∨ ∃ arc ∈ arcs, ArcBegins labels extended.get? arc label

/-- One more arc in front, whose labels were put in before the others were collected. -/
theorem Collected.cons {arcs : List Arc} {first withArc result : NatSet} {middle : Known}
    (visited : Visited automata labels visiting known middle)
    (later : Collected automata labels visiting arcs withArc result middle extended)
    (isBelow : ∀ sub, subRule? labels arc = some sub → ∃ set, middle.get? sub = some set)
    (isWith : ∀ label, label ∈ withArc ↔
      label ∈ first ∨ ArcBegins labels middle.get? arc label) :
    Collected automata labels visiting (arc :: arcs) first result known extended where
  visited := visited.trans later.visited
  below := by
    intro tested member sub isSub
    rcases List.mem_cons.mp member with rfl | inLater
    · obtain ⟨set, found⟩ := isBelow sub isSub
      exact ⟨set, later.visited.grows sub set found⟩
    · exact later.below tested inLater sub isSub
  set := by
    intro label
    rw [later.set, isWith, ← arcBegins_of_grows later.visited.grows isBelow, or_assoc]
    simp only [List.mem_cons, exists_eq_or_imp]

theorem collected_of_collect {visit : Nat → Known → Except GrammarError Known} {name : String}
    (visits : ∀ sub known extended, sub ∉ visiting → known.get? sub = none →
      KnownSpec automata labels known → visit sub known = .ok extended →
      Visited automata labels visiting known extended ∧ ∃ set, extended.get? sub = some set)
    {arcs : List Arc} {first result : NatSet} (spec : KnownSpec automata labels known)
    (success : collect visit labels name visiting arcs first known = .ok (result, extended)) :
    Collected automata labels visiting arcs first result known extended := by
  induction arcs generalizing first known with
  | nil =>
      cases success
      exact ⟨.refl spec visiting, by simp, by simp⟩
  | cons arc later inductionHypothesis =>
      unfold collect at success
      split at success
      · rename_i symbol isRule
        have isSub : subRule? labels arc = some symbol.ruleIndex := by
          rw [subRule?, isRule]
        simp only at success
        split at success
        · cases success
        · rename_i notVisiting
          split at success
          · rename_i subFirst found
            refine .cons (.refl spec visiting) (inductionHypothesis spec success) ?_ ?_
            · intro sub same
              rw [isSub] at same
              exact ⟨subFirst, Option.some.inj same ▸ found⟩
            · intro label
              rw [NatSet.mem_union, arcBegins_of_sub isSub found]
          · rename_i missing
            split at success
            · cases success
            · rename_i middle visitSuccess
              obtain ⟨visited, set, found⟩ :=
                visits symbol.ruleIndex known middle notVisiting missing spec visitSuccess
              refine .cons visited (inductionHypothesis visited.spec success) ?_ ?_
              · intro sub same
                rw [isSub] at same
                exact ⟨set, Option.some.inj same ▸ found⟩
              · intro label
                rw [NatSet.mem_union, arcBegins_of_sub isSub found, found, Option.getD_some]
      · rename_i notRule
        have isTerminal : subRule? labels arc = none := by
          unfold subRule?
          split
          · rename_i symbol isRule
            exact absurd isRule (notRule symbol)
          · rfl
        refine .cons (.refl spec visiting) (inductionHypothesis spec success) ?_ ?_
        · intro sub same
          rw [isTerminal] at same
          cases same
        · intro label
          rw [NatSet.mem_insert, arcBegins_of_terminal isTerminal, or_comm]

theorem Visited.enter {middle : Known} {set : NatSet}
    (visited : Visited automata labels visiting known middle) (notVisiting : rule ∉ visiting)
    (isNew : middle.get? rule = none)
    (below : ∀ sub, Leads automata labels sub rule → ∃ subSet, middle.get? sub = some subSet)
    (isSet : ∀ label, label ∈ set ↔ ∃ automaton, automata[rule]? = some automaton ∧
      ∃ arc ∈ automaton.arcsAt 0, ArcBegins labels middle.get? arc label) :
    Visited automata labels visiting known (middle.insert rule set) ∧
      ∃ found, (middle.insert rule set).get? rule = some found := by
  obtain ⟨grows, spec⟩ := visited.spec.insert isNew below isSet
  refine ⟨visited.trans ⟨grows, spec, ?_⟩, set, ?_⟩
  · intro tested member
    have differs : tested ≠ rule := fun same => notVisiting (same ▸ member)
    rw [Dictionary.get?_insert, if_neg differs]
  · rw [Dictionary.get?_insert, if_pos rfl]

theorem Visited.enter_missing (spec : KnownSpec automata labels known)
    (notVisiting : rule ∉ visiting) (isNew : known.get? rule = none)
    (missing : automata[rule]? = none) :
    Visited automata labels visiting known (known.insert rule .empty) ∧
      ∃ found, (known.insert rule .empty).get? rule = some found := by
  refine (Visited.refl spec visiting).enter notVisiting isNew ?_ ?_
  · rintro sub ⟨automaton, found, _⟩
    rw [missing] at found
    cases found
  · simp [missing]

theorem visited_of_visit {depth : Nat} (spec : KnownSpec automata labels known)
    (notVisiting : rule ∉ visiting) (isNew : known.get? rule = none)
    (success : visit automata labels depth visiting rule known = .ok extended) :
    Visited automata labels visiting known extended ∧
      ∃ set, extended.get? rule = some set := by
  induction depth generalizing visiting rule known extended with
  | zero =>
      unfold visit at success
      split at success
      · rename_i missing
        cases success
        exact Visited.enter_missing spec notVisiting isNew missing
      · cases success
  | succ depth inductionHypothesis =>
      unfold visit at success
      split at success
      · rename_i missing
        cases success
        exact Visited.enter_missing spec notVisiting isNew missing
      · rename_i automaton found
        simp only at success
        split at success
        · cases success
        · rename_i first middle collects
          cases success
          have collected := collected_of_collect (fun sub _ _ notBelow isFresh below =>
            inductionHypothesis below notBelow isFresh) spec collects
          have stillNew := (collected.visited.kept rule (.head visiting)).trans isNew
          have visited : Visited automata labels visiting known middle :=
            { collected.visited with
              kept := fun tested member => collected.visited.kept tested (.tail rule member) }
          refine visited.enter notVisiting stillNew ?_ ?_
          · rintro sub ⟨_, sameFound, arc, isArc, isSub⟩
            rw [found] at sameFound
            cases sameFound
            exact collected.below arc isArc sub isSub
          · intro label
            rw [collected.set]
            simp [found]

/-! ## All rules -/

theorem visited_of_visitAll {rules : List Nat} (spec : KnownSpec automata labels known)
    (success : visitAll automata labels rules known = .ok extended) :
    Visited automata labels [] known extended ∧
      ∀ rule ∈ rules, ∃ set, extended.get? rule = some set := by
  induction rules generalizing known with
  | nil =>
      cases success
      exact ⟨.refl spec [], by simp⟩
  | cons rule later inductionHypothesis =>
      unfold visitAll at success
      -- Whether the rule was known or had to be visited, it is known before the others.
      obtain ⟨middle, visited, ⟨set, found⟩, laterSuccess⟩ : ∃ middle,
          Visited automata labels [] known middle ∧ (∃ set, middle.get? rule = some set) ∧
            visitAll automata labels later middle = .ok extended := by
        split at success
        · rename_i set found
          exact ⟨known, .refl spec [], ⟨set, found⟩, success⟩
        · rename_i isNew
          split at success
          · cases success
          · rename_i middle visits
            obtain ⟨visited, isKnown⟩ := visited_of_visit spec (by simp) isNew visits
            exact ⟨middle, visited, isKnown, success⟩
      obtain ⟨laterVisited, laterKnown⟩ := inductionHypothesis visited.spec laterSuccess
      refine ⟨visited.trans laterVisited, ?_⟩
      intro tested member
      rcases List.mem_cons.mp member with rfl | inLater
      · exact ⟨set, laterVisited.grows tested set found⟩
      · exact laterKnown tested inLater

theorem knownSpec_empty : KnownSpec automata labels .empty := by
  constructor <;> intro rule set found <;> cases found

/-- The first sets of rules solve their equations, and no rule leads to itself. -/
theorem firstSets_spec {sets : List NatSet} (success : firstSets automata labels = .ok sets) :
    (∀ (rule : Nat) automaton, automata[rule]? = some automaton →
      ∃ set, sets[rule]? = some set ∧ ∀ label, label ∈ set ↔
        ∃ arc ∈ automaton.arcsAt 0, ArcBegins labels (fun sub => sets[sub]?) arc label) ∧
      ∀ rule < automata.length, Acc (Leads automata labels) rule := by
  unfold firstSets at success
  split at success
  · cases success
  · rename_i known visits
    obtain ⟨visited, allKnown⟩ := visited_of_visitAll knownSpec_empty visits
    have spec := visited.spec
    cases success
    have setOf : ∀ rule < automata.length, ∃ set, known.get? rule = some set ∧
        ((List.range automata.length).map
          fun rule => (known.get? rule).getD .empty)[rule]? = some set := by
      intro rule inRange
      obtain ⟨set, found⟩ := allKnown rule (List.mem_range.mpr inRange)
      refine ⟨set, found, ?_⟩
      rw [List.getElem?_map, List.getElem?_range inRange, Option.map_some, found,
        Option.getD_some]
    constructor
    · intro rule automaton isAutomaton
      obtain ⟨inRange, _⟩ := List.getElem?_eq_some_iff.mp isAutomaton
      obtain ⟨set, found, isSet⟩ := setOf rule inRange
      refine ⟨set, isSet, fun label => ?_⟩
      rw [spec.set rule set found label]
      simp only [isAutomaton, Option.some.injEq, exists_eq_left']
      refine exists_congr fun arc => and_congr_right fun isArc => ?_
      cases isSub : subRule? labels arc with
      | none => rw [arcBegins_of_terminal isSub, arcBegins_of_terminal isSub]
      | some sub =>
          obtain ⟨subSet, subFound⟩ :=
            spec.below rule set found sub ⟨automaton, isAutomaton, arc, isArc, isSub⟩
          rw [arcBegins_of_sub isSub subFound]
          by_cases subInRange : sub < automata.length
          · obtain ⟨sameSet, sameFound, isSubSet⟩ := setOf sub subInRange
            rw [arcBegins_of_sub isSub isSubSet,
              Option.some.inj (subFound.symm.trans sameFound)]
          · -- A rule that does not exist has an empty set.
            rw [spec.set sub subSet subFound label]
            simp [ArcBegins, isSub, Nat.le_of_not_lt subInRange]
    · intro rule inRange
      obtain ⟨set, found, _⟩ := setOf rule inRange
      exact spec.acc rule set found

/-! ## Ranks -/

theorem not_transGen_self {leads : Nat → Nat → Prop} (acc : Acc leads rule) :
    ¬Relation.TransGen leads rule rule := by
  have reached := acc.transGen
  clear acc
  induction reached with
  | intro rule _ inductionHypothesis =>
      intro cycle
      exact inductionHypothesis rule cycle cycle

/-- The rank of a rule: the number of rules that can be met on the way down from it. -/
noncomputable def rank (automata : List RuleAutomaton) (labels : List Label) (rule : Nat) :
    Nat :=
  open Classical in
  ((Finset.range automata.length).filter fun sub =>
    Relation.TransGen (Leads automata labels) sub rule).card

theorem rank_lt_length (acc : Acc (Leads automata labels) rule)
    (inRange : rule < automata.length) : rank automata labels rule < automata.length := by
  classical
  have proper : ((Finset.range automata.length).filter fun sub =>
      Relation.TransGen (Leads automata labels) sub rule) ⊂ Finset.range automata.length := by
    refine Finset.filter_ssubset.mpr ⟨rule, Finset.mem_range.mpr inRange, ?_⟩
    exact not_transGen_self acc
  have fewer := Finset.card_lt_card proper
  rw [Finset.card_range] at fewer
  exact fewer

theorem rank_lt_rank (acc : Acc (Leads automata labels) rule)
    (leads : Leads automata labels sub rule) (inRange : sub < automata.length) :
    rank automata labels sub < rank automata labels rule := by
  classical
  apply Finset.card_lt_card
  rw [Finset.ssubset_iff_of_subset]
  · refine ⟨sub, ?_, ?_⟩
    · exact Finset.mem_filter.mpr ⟨Finset.mem_range.mpr inRange, .single leads⟩
    · intro member
      exact not_transGen_self (acc.inv leads) (Finset.mem_filter.mp member).2
  · intro lower member
    obtain ⟨lowerInRange, path⟩ := Finset.mem_filter.mp member
    exact Finset.mem_filter.mpr ⟨lowerInRange, path.tail leads⟩

end First

namespace Grammar

variable {rules : List Rule} {vocabulary : Vocabulary} {grammar : Grammar}
  {symbol : SymbolId} {automaton sub : RuleAutomaton} {label : LabelId}

/-! ## Grammars -/

/-- The rule of a symbol is looked up by its index alone, since there are fewer rules than
symbols. -/
theorem Compiled.automaton?_eq (compiled : Compiled rules vocabulary grammar)
    (symbol : SymbolId) : grammar.automaton? symbol = grammar.automata[symbol.ruleIndex]? := by
  unfold automaton?
  split
  · rfl
  · rename_i notRule
    have below : symbol.toNat < SymbolId.ruleOffset.toNat := by
      simpa [SymbolId.isRule, UInt16.le_iff_toNat_le] using notRule
    have beyond : grammar.automata.length ≤ symbol.ruleIndex := by
      have capacity := compiled.capacity
      rw [compiled.length, SymbolId.ruleIndex, UInt16.toNat_sub]
      change rules.length ≤ 65280 at capacity
      change symbol.toNat < 256 at below
      change rules.length ≤ (65536 - 256 + symbol.toNat) % 65536
      omega
    exact (List.getElem?_eq_none beyond).symm

/-- The first sets of a compiled grammar solve their equations, and no rule leads to
itself. -/
theorem Compiled.firstSets_spec (compiled : Compiled rules vocabulary grammar) :
    (∀ (rule : Nat) automaton, grammar.automata[rule]? = some automaton →
      ∀ label, label ∈ automaton.first ↔ ∃ arc ∈ automaton.arcsAt 0,
        First.ArcBegins grammar.labels
          (fun sub => grammar.automata[sub]?.map RuleAutomaton.first) arc label) ∧
      ∀ rule < grammar.automata.length,
        Acc (First.Leads grammar.automata grammar.labels) rule := by
  obtain ⟨bare, sets, success, automata_eq⟩ := compiled.first
  obtain ⟨equations, acc⟩ := First.firstSets_spec success
  have counted := length_of_firstSets success
  have setOf : (fun sub : Nat => grammar.automata[sub]?.map RuleAutomaton.first) =
      fun sub => sets[sub]? := by
    funext sub
    rw [automata_eq, List.getElem?_zipWith]
    by_cases inRange : sub < sets.length
    · simp [inRange, counted ▸ inRange]
    · simp [Nat.le_of_not_lt inRange]
  constructor
  · intro rule automaton found label
    rw [automata_eq] at found
    obtain ⟨bareAutomaton, set, bareFound, setFound, rfl⟩ :=
      List.getElem?_zipWith_eq_some.mp found
    obtain ⟨sameSet, sameFound, isSet⟩ := equations rule bareAutomaton bareFound
    rw [setOf, Option.some.inj (setFound.symm.trans sameFound)]
    exact isSet label
  · intro rule inRange
    have bareLength : grammar.automata.length = bare.length := by
      rw [automata_eq, List.length_zipWith, counted, Nat.min_self]
    refine Subrelation.accessible ?_ (acc rule (bareLength ▸ inRange))
    rintro sub tested ⟨automaton, found, arc, isArc, isSub⟩
    rw [automata_eq] at found
    obtain ⟨bareAutomaton, set, bareFound, _, rfl⟩ := List.getElem?_zipWith_eq_some.mp found
    exact ⟨bareAutomaton, bareFound, arc, isArc, isSub⟩

/-- A rule begins with what the arcs of its initial state begin with. -/
theorem Compiled.mem_first_iff (compiled : Compiled rules vocabulary grammar)
    (found : grammar.automaton? symbol = some automaton) :
    label ∈ automaton.first ↔
      ∃ arc ∈ automaton.arcsAt 0, label ∈ grammar.reachable arc.label := by
  rw [compiled.firstSets_spec.1 _ automaton (getElem?_of_automaton? found)]
  refine exists_congr fun arc => and_congr_right fun _ => ?_
  have sameLabel : grammar.labelTable.get? arc.label = grammar.labels[arc.label]? := rfl
  unfold First.ArcBegins First.subRule? reachable
  rw [sameLabel]
  cases grammar.labels[arc.label]? with
  | none => simp
  | some arcLabel =>
      cases arcLabel with
      | rule subSymbol =>
          simp only [compiled.automaton?_eq]
          cases grammar.automata[subSymbol.ruleIndex]? with
          | none => simp
          | some sub => simp [NatSet.mem_def]
      | keyword text => simp
      | operator literal kind => simp
      | token kind => simp

/-- Rules have ranks below their number, and a rule begins only with rules of lower rank. -/
theorem Compiled.exists_rank (compiled : Compiled rules vocabulary grammar) :
    ∃ rank : SymbolId → Nat,
      (∀ symbol automaton, grammar.automaton? symbol = some automaton →
        rank symbol < grammar.automata.length) ∧
      ∀ symbol automaton arc subSymbol sub, grammar.automaton? symbol = some automaton →
        arc ∈ automaton.arcsAt 0 →
        grammar.labelTable.get? arc.label = some (.rule subSymbol) →
        grammar.automaton? subSymbol = some sub → rank subSymbol < rank symbol := by
  have acc := compiled.firstSets_spec.2
  refine ⟨fun symbol => First.rank grammar.automata grammar.labels symbol.ruleIndex, ?_, ?_⟩
  · intro symbol automaton found
    obtain ⟨inRange, _⟩ := List.getElem?_eq_some_iff.mp (getElem?_of_automaton? found)
    exact First.rank_lt_length (acc _ inRange) inRange
  · intro symbol automaton arc subSymbol sub found isArc isRule subFound
    have automatonFound := getElem?_of_automaton? found
    obtain ⟨inRange, _⟩ := List.getElem?_eq_some_iff.mp automatonFound
    obtain ⟨subInRange, _⟩ := List.getElem?_eq_some_iff.mp (getElem?_of_automaton? subFound)
    have isSub : First.subRule? grammar.labels arc = some subSymbol.ruleIndex := by
      have sameLabel : grammar.labels[arc.label]? = grammar.labelTable.get? arc.label := rfl
      rw [First.subRule?, sameLabel, isRule]
    exact First.rank_lt_rank (acc _ inRange) ⟨automaton, automatonFound, arc, isArc, isSub⟩
      subInRange

end Grammar

end RuleMachine
