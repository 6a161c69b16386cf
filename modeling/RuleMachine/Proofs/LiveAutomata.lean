import RuleMachine.Proofs.GrammarShape

/-!
# Automata without dead ends

Whatever a rule has matched, it may end or it can go on.  In the fragment of an expression
every state leads to the accepting state.  The sets of the subset construction are never
empty, so the state of a set accepts, or a path out of the set reads a label and the state
has an arc for it.  Merging twins takes none of this away.

A rule can also begin: its initial state has an arc, since every expression matches some
label, and the rules that it begins with have lower ranks, so first sets are not empty.
-/

namespace RuleMachine

namespace Nfa

/-! ## Fragments -/

section Fragments

variable {Label : Type} {nfa middle grown : Nfa Label} {edges wider : List (Edge Label)}
  {left right : Fragment} {accept final : Nat}

/-- Every state that an automaton was grown by leads to the given state. -/
def LeadsTo (nfa grown : Nfa Label) (edges : List (Edge Label)) (accept : Nat) : Prop :=
  ∀ state ∈ Set.Ico nfa.size grown.size, ∃ word, Path edges state word accept

theorem LeadsTo.mono (leads : LeadsTo nfa grown edges accept) (contained : edges ⊆ wider) :
    LeadsTo nfa grown wider accept := by
  intro state inRange
  obtain ⟨word, path⟩ := leads state inRange
  exact ⟨word, path.mono contained⟩

theorem LeadsTo.trans {later : List Label} (leads : LeadsTo nfa grown edges accept)
    (further : Path edges accept later final) : LeadsTo nfa grown edges final := by
  intro state inRange
  obtain ⟨word, path⟩ := leads state inRange
  exact ⟨word ++ later, path.trans further⟩

theorem LeadsTo.append (lower : LeadsTo nfa middle edges accept)
    (upper : LeadsTo middle grown edges accept) : LeadsTo nfa grown edges accept := by
  intro state inRange
  rcases Nat.lt_or_ge state middle.size with below | above
  · exact lower state ⟨inRange.1, below⟩
  · exact upper state ⟨above, inRange.2⟩

theorem LeadsTo.addSeq (leftLeads : LeadsTo nfa middle grown.edges left.accept)
    (rightLeads : LeadsTo middle grown grown.edges right.accept)
    (rightBegins : right.start ∈ Set.Ico middle.size grown.size) :
    LeadsTo nfa grown (grown.addEpsilon left.accept right.start).edges right.accept := by
  have kept : grown.edges ⊆ (grown.addEpsilon left.accept right.start).edges :=
    List.subset_cons_self _ _
  obtain ⟨word, path⟩ := rightLeads right.start rightBegins
  have joined := Path.epsilon (.head _) (path.mono kept)
  exact ((leftLeads.mono kept).trans joined).append (rightLeads.mono kept)

section Choice

variable (grown : Nfa Label) (left right : Fragment)

theorem edges_subset_addChoice : grown.edges ⊆ (grown.addChoice left right).1.edges := by
  intro edge member
  simp [Nfa.addChoice, addEpsilon, member]

theorem addChoice_enters_left :
    ⟨(grown.addChoice left right).2.start, none, left.start⟩ ∈
      (grown.addChoice left right).1.edges := by
  simp [Nfa.addChoice, addEpsilon]

theorem addChoice_leaves_left :
    ⟨left.accept, none, (grown.addChoice left right).2.accept⟩ ∈
      (grown.addChoice left right).1.edges := by
  simp [Nfa.addChoice, addEpsilon]

theorem addChoice_leaves_right :
    ⟨right.accept, none, (grown.addChoice left right).2.accept⟩ ∈
      (grown.addChoice left right).1.edges := by
  simp [Nfa.addChoice, addEpsilon]

end Choice

theorem LeadsTo.addChoice (leftLeads : LeadsTo nfa middle grown.edges left.accept)
    (rightLeads : LeadsTo middle grown grown.edges right.accept)
    (leftBegins : left.start ∈ Set.Ico nfa.size middle.size) :
    LeadsTo nfa (grown.addChoice left right).1 (grown.addChoice left right).1.edges
      (grown.addChoice left right).2.accept := by
  have kept := edges_subset_addChoice grown left right
  have throughLeft := (leftLeads.mono kept).trans
    (.epsilon (addChoice_leaves_left grown left right) (.refl _))
  have throughRight := (rightLeads.mono kept).trans
    (.epsilon (addChoice_leaves_right grown left right) (.refl _))
  refine (throughLeft.append throughRight).append ?_
  intro state inRange
  change grown.size ≤ state ∧ state < grown.size + 2 at inRange
  obtain rfl | rfl : state = grown.size ∨ state = grown.size + 1 := by omega
  · obtain ⟨word, path⟩ := throughLeft left.start leftBegins
    exact ⟨word, .epsilon (addChoice_enters_left grown left right) path⟩
  · exact ⟨[], .refl _⟩

theorem edges_subset_addExpr (nfa : Nfa Label) (expression : Expr Label) :
    nfa.edges ⊆ (nfa.addExpr expression).1.edges := by
  obtain ⟨added, grown⟩ := exists_grown_addExpr nfa expression
  rw [grown.edges_eq]
  exact List.subset_append_right added nfa.edges

theorem start_mem_addExpr (nfa : Nfa Label) (expression : Expr Label) :
    (nfa.addExpr expression).2.start ∈
      Set.Ico nfa.size (nfa.addExpr expression).1.size := by
  obtain ⟨added, grown⟩ := exists_grown_addExpr nfa expression
  exact grown.start_mem

/-- Every state of the fragment of an expression leads to its accepting state. -/
theorem leadsTo_addExpr (nfa : Nfa Label) (expression : Expr Label) :
    LeadsTo nfa (nfa.addExpr expression).1 (nfa.addExpr expression).1.edges
      (nfa.addExpr expression).2.accept := by
  induction expression generalizing nfa with
  | term label =>
      intro state inRange
      change nfa.size ≤ state ∧ state < nfa.size + 2 at inRange
      obtain rfl | rfl : state = nfa.size ∨ state = nfa.size + 1 := by omega
      · exact ⟨[label], .read (.head _) (.refl _)⟩
      · exact ⟨[], .refl _⟩
  | seq left right leftHypothesis rightHypothesis =>
      have contained := edges_subset_addExpr (nfa.addExpr left).1 right
      exact ((leftHypothesis nfa).mono contained).addSeq (rightHypothesis _)
        (start_mem_addExpr _ right)
  | alt left right leftHypothesis rightHypothesis =>
      have contained := edges_subset_addExpr (nfa.addExpr left).1 right
      exact ((leftHypothesis nfa).mono contained).addChoice (rightHypothesis _)
        (start_mem_addExpr nfa left)
  | opt body inductionHypothesis
  | plus body inductionHypothesis =>
      exact (inductionHypothesis nfa).mono (List.subset_cons_self _ _)
  | star body inductionHypothesis =>
      exact ((inductionHypothesis nfa).mono (List.subset_cons_self _ _)).mono
        (List.subset_cons_self _ _)

/-- Some path across the fragment of an expression reads a label. -/
theorem exists_path_cons_addExpr (nfa : Nfa Label) (expression : Expr Label) :
    ∃ label later, Path (nfa.addExpr expression).1.edges (nfa.addExpr expression).2.start
      (label :: later) (nfa.addExpr expression).2.accept := by
  induction expression generalizing nfa with
  | term label => exact ⟨label, [], .read (.head _) (.refl _)⟩
  | seq left right leftHypothesis _ =>
      obtain ⟨label, later, path⟩ := leftHypothesis nfa
      obtain ⟨word, rest⟩ :=
        leadsTo_addExpr (nfa.addExpr left).1 right _ (start_mem_addExpr _ right)
      have first := path.mono (edges_subset_addExpr (nfa.addExpr left).1 right)
      have second := rest.mono (List.subset_cons_self ⟨(nfa.addExpr left).2.accept, none,
        ((nfa.addExpr left).1.addExpr right).2.start⟩ _)
      exact ⟨label, later ++ word,
        (first.mono (List.subset_cons_self _ _)).trans (.epsilon (.head _) second)⟩
  | alt left right leftHypothesis _ =>
      obtain ⟨label, later, path⟩ := leftHypothesis nfa
      have inBoth := path.mono (edges_subset_addExpr (nfa.addExpr left).1 right)
      have inChoice := inBoth.mono (edges_subset_addChoice _ (nfa.addExpr left).2
        ((nfa.addExpr left).1.addExpr right).2)
      have across := inChoice.trans (.epsilon (addChoice_leaves_left _ _ _) (.refl _))
      rw [List.append_nil] at across
      exact ⟨label, later, .epsilon (addChoice_enters_left _ _ _) across⟩
  | opt body inductionHypothesis
  | plus body inductionHypothesis =>
      obtain ⟨label, later, path⟩ := inductionHypothesis nfa
      exact ⟨label, later, path.mono (List.subset_cons_self _ _)⟩
  | star body inductionHypothesis =>
      obtain ⟨label, later, path⟩ := inductionHypothesis nfa
      exact ⟨label, later,
        (path.mono (List.subset_cons_self _ _)).mono (List.subset_cons_self _ _)⟩

end Fragments

/-! ## Sets of states -/

section Sets

variable {nfa : Nfa Nat} {accept count current : Nat} {roster : Roster NatSet}
  {state : State} {set : NatSet}

theorem holds_of_mem_arcsOn {Holds : NatSet → Prop} {labels : List Nat}
    (reached : ∀ label ∈ labels, Holds (nfa.closure (nfa.targetsOn set label)))
    (held : ∀ item ∈ roster.items, Holds item) :
    ∀ item ∈ (nfa.arcsOn set roster labels).2.items, Holds item := by
  induction labels generalizing roster with
  | nil => exact held
  | cons label later inductionHypothesis =>
      apply inductionHypothesis
      · exact fun tested inLater => reached tested (.tail label inLater)
      · intro item member
        rcases Roster.eq_or_mem_of_mem_number member with rfl | wasEnrolled
        · exact reached label (.head later)
        · exact held item wasEnrolled

/-- Every state of the construction is the state of a set, and what holds of the first sets
and of the sets reached from others holds of this set. -/
theorem exists_set_of_mem_expand {Holds : NatSet → Prop}
    (reached : ∀ set, Holds set → ∀ label ∈ nfa.labelsFrom set,
      Holds (nfa.closure (nfa.targetsOn set label)))
    (held : ∀ item ∈ roster.items, Holds item)
    (isState : state ∈ nfa.expand accept count roster current) :
    ∃ set, Holds set ∧ (state.accepting = true ↔ accept ∈ set) ∧
      state.arcs.map Arc.label = (nfa.labelsFrom set).elements := by
  induction count generalizing roster current with
  | zero => cases isState
  | succ count inductionHypothesis =>
      unfold expand at isState
      split at isState
      · cases isState
      · rename_i set isSet
        have holds := held set (List.mem_of_getElem? isSet)
        rcases List.mem_cons.mp isState with rfl | isLater
        · exact ⟨set, holds, decide_eq_true_iff, nfa.map_label_arcsOn set _ roster⟩
        · exact inductionHypothesis (holds_of_mem_arcsOn (reached set holds) held) isLater

end Sets

end Nfa

/-! ## Deterministic automata -/

/-- A state in which reading may end or can go on. -/
def State.IsLive (state : State) : Prop :=
  state.accepting = true ∨ ∃ arc, arc ∈ state.arcs

namespace Nfa

variable {nfa : Nfa Nat} {fragment : Fragment} {state : State}

/-- Every state of the construction is the state of a set that is not empty. -/
theorem Closed.exists_closure_of_mem_subsets (closed : nfa.Closed)
    (inRange : fragment.start < nfa.size) (isState : state ∈ nfa.subsets fragment) :
    ∃ set, (nfa.IsClosure set ∧ ∃ place, place ∈ set) ∧
      (state.accepting = true ↔ fragment.accept ∈ set) ∧
      state.arcs.map Arc.label = (nfa.labelsFrom set).elements := by
  refine exists_set_of_mem_expand ?_ ?_ isState
  · intro set _ label isLabel
    obtain ⟨target, isTarget⟩ := mem_labelsFrom.mp isLabel
    exact ⟨closed.isClosure_targetsOn set label, target,
      mem_closure.mpr ⟨target, isTarget, .refl target⟩⟩
  · intro item member
    obtain rfl : item = nfa.closure [fragment.start] := List.mem_singleton.mp member
    exact ⟨⟨[fragment.start], by simpa using inRange, rfl⟩, fragment.start,
      mem_closure.mpr ⟨fragment.start, .head _, .refl _⟩⟩

theorem Closed.isLive_of_mem_subsets (closed : nfa.Closed)
    (inRange : fragment.start < nfa.size)
    (leads : ∀ place < nfa.size, ∃ word, Path nfa.edges place word fragment.accept)
    (isState : state ∈ nfa.subsets fragment) : state.IsLive := by
  obtain ⟨set, ⟨isClosure, place, isPlace⟩, accepting_iff, labels_eq⟩ :=
    closed.exists_closure_of_mem_subsets inRange isState
  obtain ⟨word, path⟩ := leads place (closed.lt_of_mem isClosure isPlace)
  obtain ⟨seeds, _, rfl⟩ := isClosure
  cases word with
  | nil => exact .inl (accepting_iff.mpr (mem_closure_of_path isPlace path))
  | cons label later =>
      obtain ⟨source, isSource, _⟩ := exists_path_cons_iff.mp ⟨place, isPlace, path⟩
      obtain ⟨target, isTarget, _⟩ := mem_closure.mp isSource
      have isLabel : label ∈ state.arcs.map Arc.label := by
        rw [labels_eq]
        exact mem_labelsFrom.mpr ⟨target, isTarget⟩
      obtain ⟨arc, isArc, _⟩ := List.mem_map.mp isLabel
      exact .inr ⟨arc, isArc⟩

end Nfa

theorem State.IsLive.rename {state : State} (live : state.IsLive) (newPlace : Nat → Nat) :
    (state.rename newPlace).IsLive := by
  rcases live with accepting | ⟨arc, isArc⟩
  · exact .inl accepting
  · exact .inr ⟨_, List.mem_map_of_mem isArc⟩

namespace Dfa

variable {states : List State} {state : State}

theorem isLive_of_mem_mergeTwins (live : ∀ state ∈ states, state.IsLive)
    (isState : state ∈ mergeTwins states) : state.IsLive := by
  obtain ⟨newPlace, renames⟩ := exists_renames_mergeTwins states
  obtain ⟨old, isOld, rfl⟩ := renames.exists_of_mem isState
  exact (live old isOld).rename newPlace

/-- No state of the automaton of an expression is a dead end. -/
theorem isLive_of_mem_ofExpr {expression : Expr Nat} (isState : state ∈ ofExpr expression) :
    state.IsLive := by
  obtain ⟨closed, inRange, _⟩ := Nfa.ofExpr_spec expression
  refine isLive_of_mem_mergeTwins ?_ isState
  intro subset isSubset
  refine closed.isLive_of_mem_subsets inRange ?_ isSubset
  intro place isPlace
  exact Nfa.leadsTo_addExpr .empty expression place ⟨Nat.zero_le place, isPlace⟩

theorem exists_arc_ofExpr (expression : Expr Nat) :
    ∃ first arc, (ofExpr expression)[0]? = some first ∧ arc ∈ first.arcs := by
  obtain ⟨closed, inRange, _⟩ := Nfa.ofExpr_spec expression
  obtain ⟨label, later, path⟩ := Nfa.exists_path_cons_addExpr .empty expression
  have accepted := ((Nfa.determinize_spec closed inRange).2 (label :: later)).mpr path
  obtain ⟨first, arc, found, isArc, _⟩ := acceptsFrom_cons.mp accepted
  exact ⟨first, arc, found, isArc⟩

end Dfa

/-! ## Compiled grammars -/

namespace Grammar

variable {rules : List Rule} {vocabulary : Vocabulary} {grammar : Grammar}
  {symbol : SymbolId} {automaton : RuleAutomaton} {arc : Arc} {state : Nat}

theorem Compiled.exists_states_eq (compiled : Compiled rules vocabulary grammar)
    (isAutomaton : automaton ∈ grammar.automata) :
    ∃ expression, automaton.states = Dfa.ofExpr expression := by
  obtain ⟨index, isIndexed⟩ := List.mem_iff_getElem?.mp isAutomaton
  obtain ⟨rule, isOf⟩ := compiled.exists_automatonOf isIndexed
  obtain ⟨resolved, _, states_eq⟩ := isOf.body
  exact ⟨resolved, states_eq⟩

/-- A rule that may not end in a state can go on from there. -/
theorem Compiled.exists_arc_of_not_accepting (compiled : Compiled rules vocabulary grammar)
    (isAutomaton : automaton ∈ grammar.automata) (inRange : state < automaton.states.length)
    (refuses : ¬Dfa.IsAccepting automaton.states state) :
    ∃ arc, arc ∈ automaton.arcsAt state := by
  obtain ⟨expression, states_eq⟩ := compiled.exists_states_eq isAutomaton
  obtain ⟨reached, found⟩ : ∃ reached, automaton.states[state]? = some reached :=
    ⟨_, List.getElem?_eq_getElem inRange⟩
  have isState := List.mem_of_getElem? found
  rw [states_eq] at isState
  rcases Dfa.isLive_of_mem_ofExpr isState with accepting | ⟨arc, isArc⟩
  · exact absurd ⟨_, found, accepting⟩ refuses
  · exact ⟨arc, RuleAutomaton.mem_arcsAt.mpr ⟨_, found, isArc⟩⟩

theorem Compiled.exists_arc_zero (compiled : Compiled rules vocabulary grammar)
    (isAutomaton : automaton ∈ grammar.automata) : ∃ arc, arc ∈ automaton.arcsAt 0 := by
  obtain ⟨expression, states_eq⟩ := compiled.exists_states_eq isAutomaton
  obtain ⟨first, arc, found, isArc⟩ := Dfa.exists_arc_ofExpr expression
  rw [← states_eq] at found
  exact ⟨arc, RuleAutomaton.mem_arcsAt.mpr ⟨first, found, isArc⟩⟩

theorem exists_mem_reachable_of_label {label : LabelId} {arcLabel : Label}
    (isLabel : grammar.labelTable.get? label = some arcLabel)
    (begins : ∀ symbol, arcLabel = .rule symbol →
      ∃ sub, grammar.automaton? symbol = some sub ∧ ∃ first, first ∈ sub.first) :
    ∃ first, first ∈ grammar.reachable label := by
  unfold reachable
  rw [isLabel]
  cases arcLabel with
  | rule symbol =>
      obtain ⟨sub, found, first, isFirst⟩ := begins symbol rfl
      simp only [found]
      exact ⟨first, isFirst⟩
  | keyword | operator | token => exact ⟨label, .head _⟩

/-- Every rule can begin. -/
theorem Compiled.exists_mem_first (compiled : Compiled rules vocabulary grammar)
    (exact : grammar.labelTable.Exact grammar.symbolIds vocabulary)
    (found : grammar.automaton? symbol = some automaton) :
    ∃ first, first ∈ automaton.first := by
  obtain ⟨rank, _, descending⟩ := compiled.exists_rank
  -- The rules that a rule begins with have lower ranks.
  induction bound : rank symbol using Nat.strong_induction_on generalizing symbol automaton with
  | _ bound inductionHypothesis =>
      have isAutomaton := mem_automata_of_automaton? found
      obtain ⟨arc, isArc⟩ := compiled.exists_arc_zero isAutomaton
      obtain ⟨arcLabel, isLabel⟩ := compiled.exists_label_of_mem_arcsAt isAutomaton isArc
      have begins : ∀ subSymbol, arcLabel = .rule subSymbol →
          ∃ sub, grammar.automaton? subSymbol = some sub ∧ ∃ first, first ∈ sub.first := by
        rintro subSymbol rfl
        obtain ⟨sub, subFound⟩ := compiled.exists_automaton_of_rule exact isLabel
        have lower := descending symbol automaton arc subSymbol sub found isArc isLabel subFound
        exact ⟨sub, subFound,
          inductionHypothesis (rank subSymbol) (bound ▸ lower) subFound rfl⟩
      obtain ⟨first, isReachable⟩ := exists_mem_reachable_of_label isLabel begins
      exact ⟨first, (compiled.mem_first_iff found).mpr ⟨arc, isArc, isReachable⟩⟩

/-- Every arc can be taken on some terminal label. -/
theorem Compiled.exists_mem_reachable (compiled : Compiled rules vocabulary grammar)
    (exact : grammar.labelTable.Exact grammar.symbolIds vocabulary)
    (isAutomaton : automaton ∈ grammar.automata) (isArc : arc ∈ automaton.arcsAt state) :
    ∃ first, first ∈ grammar.reachable arc.label := by
  obtain ⟨arcLabel, isLabel⟩ := compiled.exists_label_of_mem_arcsAt isAutomaton isArc
  refine exists_mem_reachable_of_label isLabel ?_
  rintro subSymbol rfl
  obtain ⟨sub, subFound⟩ := compiled.exists_automaton_of_rule exact isLabel
  exact ⟨sub, subFound, compiled.exists_mem_first exact subFound⟩

end Grammar

end RuleMachine
