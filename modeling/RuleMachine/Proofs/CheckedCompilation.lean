import RuleMachine.Proofs.CheckedAutomata
import RuleMachine.Proofs.GrammarShape
import RuleMachine.Proofs.Lookahead

/-!
# Compiling without gaps

Numbers flow from the terms of the rules to labels, from rules to symbols and from
symbols back to automata, and they are followed far from where they were made.  Whatever
the outcome is, each of them leads somewhere: the label of an arc, the automaton of a
rule label, the initial state of a rule and the terminals of its first set.
-/

namespace RuleMachine

namespace Checked

/-! ## Labels -/

/-- The literal between the quotes of a quoted term.  The first and the last byte of the
text are cut off, and both have to be characters. -/
def literal (term : Term) : Except Gap String :=
  match term.text.toList.head?, term.text.toList.tail.getLast? with
  | some opening, some closing =>
      require (opening.utf8Size = 1 ∧ closing.utf8Size = 1) .index term.literal
  | _, _ => .error .index

theorem literal_eq {term : Term} (enclosed : GrammarText.IsEnclosed term.text) :
    literal term = .ok term.literal := by
  obtain ⟨quote, inner, isQuote, text_eq⟩ := enclosed
  have oneByte : quote.utf8Size = 1 := by
    rcases Bool.or_eq_true_iff.mp isQuote with isSingle | isDouble
    · rw [eq_of_beq isSingle]
      rfl
    · rw [eq_of_beq isDouble]
      rfl
  simp only [literal, text_eq, List.cons_append, List.head?_cons, List.tail_cons,
    List.getLast?_concat, require_eq (And.intro oneByte oneByte)]

section Resolving

variable (symbolIds : Dictionary String SymbolId) (vocabulary : Vocabulary)

def labelOf (term : Term) : Except Gap (Except GrammarError Label) :=
  if term.isQuoted then
    (literal term).bind fun _ => .ok (Grammar.labelOf symbolIds vocabulary term)
  else
    .ok (Grammar.labelOf symbolIds vocabulary term)

def resolve : Expr Term → LabelTable →
    Except Gap (Except GrammarError (Expr LabelId × LabelTable))
  | .term term, table =>
      andThen (labelOf symbolIds vocabulary term) fun label =>
        .ok (.ok (.term (table.intern label).1, (table.intern label).2))
  | .seq left right, table =>
      andThen (resolve left table) fun (resolvedLeft, afterLeft) =>
        andThen (resolve right afterLeft) fun (resolvedRight, afterRight) =>
          .ok (.ok (.seq resolvedLeft resolvedRight, afterRight))
  | .alt left right, table =>
      andThen (resolve left table) fun (resolvedLeft, afterLeft) =>
        andThen (resolve right afterLeft) fun (resolvedRight, afterRight) =>
          .ok (.ok (.alt resolvedLeft resolvedRight, afterRight))
  | .opt body, table =>
      andThen (resolve body table) fun (resolved, extended) =>
        .ok (.ok (.opt resolved, extended))
  | .plus body, table =>
      andThen (resolve body table) fun (resolved, extended) =>
        .ok (.ok (.plus resolved, extended))
  | .star body, table =>
      andThen (resolve body table) fun (resolved, extended) =>
        .ok (.ok (.star resolved, extended))

def automatonOf (index : Nat) (rule : Rule) (table : LabelTable) :
    Except Gap (Except GrammarError (RuleAutomaton × LabelTable)) :=
  andThen (resolve symbolIds vocabulary rule.body table) fun (body, extended) =>
    (ofExpr body).bind fun states =>
      if RuleAutomaton.maxStates < states.length then
        .ok (.error (.unplaced (.tooManyStates rule.name states.length)))
      else
        (encode (states.map State.transitions) (states.map State.accepting)).bind fun table =>
          let automaton : RuleAutomaton :=
            { name := rule.name
              symbol := SymbolId.ofRuleIndex index
              states
              first := .empty
              table }
          .ok (.ok (automaton, extended))

def automataOf (index : Nat) :
    List Rule → LabelTable → Except Gap (Except GrammarError (List RuleAutomaton × LabelTable))
  | [], table => .ok (.ok ([], table))
  | rule :: later, table =>
      andThen (automatonOf symbolIds vocabulary index rule table) fun (automaton, extended) =>
        andThen (automataOf (index + 1) later extended) fun (automata, final) =>
          .ok (.ok (automaton :: automata, final))

variable {symbolIds vocabulary}

theorem labelOf_eq {term : Term} (enclosed : term.IsEnclosed) :
    labelOf symbolIds vocabulary term = .ok (Grammar.labelOf symbolIds vocabulary term) := by
  unfold labelOf
  split
  · rename_i isQuoted
    rw [literal_eq (enclosed isQuoted), bind_ok]
  · rfl

theorem resolve_eq {expression : Expr Term}
    (enclosed : ∀ term ∈ expression.terms, term.IsEnclosed) (table : LabelTable) :
    resolve symbolIds vocabulary expression table =
      .ok (Grammar.resolve symbolIds vocabulary expression table) := by
  induction expression generalizing table with
  | term term =>
      rw [resolve, labelOf_eq (enclosed term (.head [])), Grammar.resolve]
      cases Grammar.labelOf symbolIds vocabulary term <;> rfl
  | seq left right leftHypothesis rightHypothesis
  | alt left right leftHypothesis rightHypothesis =>
      obtain ⟨leftEnclosed, rightEnclosed⟩ := List.forall_mem_append.mp enclosed
      rw [resolve, leftHypothesis leftEnclosed, Grammar.resolve]
      cases Grammar.resolve symbolIds vocabulary left table with
      | error error => rfl
      | ok resolvedLeft =>
          simp only [andThen_ok, rightHypothesis rightEnclosed]
          cases Grammar.resolve symbolIds vocabulary right resolvedLeft.2 <;> rfl
  | opt body inductionHypothesis
  | plus body inductionHypothesis
  | star body inductionHypothesis =>
      rw [resolve, inductionHypothesis enclosed, Grammar.resolve]
      cases Grammar.resolve symbolIds vocabulary body table <;> rfl

theorem automatonOf_eq {rule : Rule} (enclosed : ∀ term ∈ rule.body.terms, term.IsEnclosed)
    (index : Nat) (table : LabelTable) :
    automatonOf symbolIds vocabulary index rule table =
      .ok (Grammar.automatonOf symbolIds vocabulary index rule table) := by
  unfold automatonOf Grammar.automatonOf
  rw [resolve_eq enclosed]
  cases Grammar.resolve symbolIds vocabulary rule.body table with
  | error error => rfl
  | ok resolved =>
      simp only [andThen_ok, ofExpr_eq, bind_ok]
      split
      · rfl
      · rename_i fewStates
        have counted : ((Dfa.ofExpr resolved.1).map State.transitions).length =
            ((Dfa.ofExpr resolved.1).map State.accepting).length := by
          rw [List.length_map, List.length_map]
        have addressable : ((Dfa.ofExpr resolved.1).map State.transitions).length <
            CompactTable.noTransition.toNat := by
          rw [List.length_map]
          exact Nat.lt_succ_of_le (Nat.le_of_not_lt fewStates)
        rw [encode_eq counted addressable, bind_ok]
        rfl

theorem automataOf_eq {rules : List Rule}
    (enclosed : ∀ rule ∈ rules, ∀ term ∈ rule.body.terms, term.IsEnclosed) (index : Nat)
    (table : LabelTable) :
    automataOf symbolIds vocabulary index rules table =
      .ok (Grammar.automataOf symbolIds vocabulary index rules table) := by
  induction rules generalizing index table with
  | nil => rfl
  | cons rule later inductionHypothesis =>
      obtain ⟨ruleEnclosed, laterEnclosed⟩ := List.forall_mem_cons.mp enclosed
      rw [automataOf, automatonOf_eq ruleEnclosed, Grammar.automataOf]
      cases Grammar.automatonOf symbolIds vocabulary index rule table with
      | error error => rfl
      | ok first =>
          simp only [andThen_ok, inductionHypothesis laterEnclosed]
          cases Grammar.automataOf symbolIds vocabulary (index + 1) later first.2 <;> rfl

end Resolving

/-! ## First sets -/

section First

open First (Known)

/-- Collect the terminal labels behind the arcs of the initial state of a rule, where the
number of rules is given. -/
def collect (visit : Nat → Known → Except Gap (Except GrammarError Known)) (count : Nat)
    (labels : List Label) (name : String) (visiting : List Nat) :
    List Arc → NatSet → Known → Except Gap (Except GrammarError (NatSet × Known))
  | [], first, known => .ok (.ok (first, known))
  | arc :: later, first, known =>
      (get labels arc.label).bind fun label =>
        match label with
        | .rule symbol =>
            (require (symbol.isRule = true) .subtraction symbol.ruleIndex).bind fun sub =>
              if count ≤ sub then
                .error .index
              else if sub ∈ visiting then
                .ok (.error (.unplaced (.leftRecursion name)))
              else
                match known.get? sub with
                | some subFirst =>
                    collect visit count labels name visiting later (first.union subFirst) known
                | none =>
                    andThen (visit sub known) fun extended =>
                      collect visit count labels name visiting later
                        (first.union ((extended.get? sub).getD .empty)) extended
        | _ => collect visit count labels name visiting later (first.insert arc.label) known

def visit (automata : List RuleAutomaton) (labels : List Label) (depth : Nat)
    (visiting : List Nat) (rule : Nat) (known : Known) :
    Except Gap (Except GrammarError Known) :=
  (get automata rule).bind fun automaton =>
    match depth with
    | 0 => .error .bound
    | depth + 1 =>
        (get automaton.states 0).bind fun initial =>
          andThen (collect (visit automata labels depth (rule :: visiting)) automata.length labels
            automaton.name (rule :: visiting) initial.arcs .empty known)
            fun (first, extended) => .ok (.ok (extended.insert rule first))

def visitAll (automata : List RuleAutomaton) (labels : List Label) :
    List Nat → Known → Except Gap (Except GrammarError Known)
  | [], known => .ok (.ok known)
  | rule :: later, known =>
      match known.get? rule with
      | some _ => visitAll automata labels later known
      | none =>
          andThen (visit automata labels automata.length [] rule known) fun extended =>
            visitAll automata labels later extended

def firstSets (automata : List RuleAutomaton) (labels : List Label) :
    Except Gap (Except GrammarError (List NatSet)) :=
  andThen (visitAll automata labels (List.range automata.length) .empty) fun known =>
    .ok (.ok ((List.range automata.length).map fun rule => (known.get? rule).getD .empty))

/-- Rules have initial states, whose arcs have labels that lead to rules of the list. -/
structure Leading (automata : List RuleAutomaton) (labels : List Label) : Prop where
  initial : ∀ automaton ∈ automata, 0 < automaton.states.length
  labelled : ∀ automaton ∈ automata, ∀ arc ∈ automaton.arcsAt 0,
    ∃ label, labels[arc.label]? = some label
  ruled : ∀ (place : Nat) symbol, labels[place]? = some (.rule symbol) →
    symbol.isRule = true ∧ symbol.ruleIndex < automata.length

variable {automata : List RuleAutomaton} {labels : List Label}

/-- Distinct rules of a list, as they are visited one inside the other. -/
structure Nested (automata : List RuleAutomaton) (visiting : List Nat) : Prop where
  distinct : visiting.Nodup
  inRange : ∀ rule ∈ visiting, rule < automata.length

theorem Nested.cons {visiting : List Nat} (nested : Nested automata visiting) {rule : Nat}
    (isNew : rule ∉ visiting) (inRange : rule < automata.length) :
    Nested automata (rule :: visiting) :=
  ⟨List.nodup_cons.mpr ⟨isNew, nested.distinct⟩,
    List.forall_mem_cons.mpr ⟨inRange, nested.inRange⟩⟩

theorem Nested.length_le {visiting : List Nat} (nested : Nested automata visiting) :
    visiting.length ≤ automata.length := by
  have inList : visiting ⊆ List.range automata.length :=
    fun _ isVisited => List.mem_range.mpr (nested.inRange _ isVisited)
  have counted := (List.subperm_of_subset nested.distinct inList).length_le
  rw [List.length_range] at counted
  exact counted

theorem collect_eq (leading : Leading automata labels) {visiting : List Nat}
    (nested : Nested automata visiting)
    {checkedVisit : Nat → Known → Except Gap (Except GrammarError Known)}
    {visit : Nat → Known → Except GrammarError Known}
    (visit_eq : ∀ rule, Nested automata (rule :: visiting) → ∀ known,
      checkedVisit rule known = .ok (visit rule known))
    {arcs : List Arc} (labelled : ∀ arc ∈ arcs, ∃ label, labels[arc.label]? = some label)
    (name : String) (first : NatSet) (known : Known) :
    collect checkedVisit automata.length labels name visiting arcs first known =
      .ok (First.collect visit labels name visiting arcs first known) := by
  induction arcs generalizing first known with
  | nil => rfl
  | cons arc later inductionHypothesis =>
      obtain ⟨⟨label, isLabel⟩, laterLabelled⟩ := List.forall_mem_cons.mp labelled
      rw [collect, First.collect, get_eq isLabel, isLabel]
      cases label with
      | rule symbol =>
          obtain ⟨isRule, inRange⟩ := leading.ruled arc.label symbol isLabel
          simp only [bind_ok, require_eq isRule, if_neg (Nat.not_le.mpr inRange)]
          split
          · rfl
          · rename_i isNew
            have deeper := nested.cons isNew inRange
            cases known.get? symbol.ruleIndex with
            | some subFirst => exact inductionHypothesis laterLabelled _ _
            | none =>
                simp only [visit_eq symbol.ruleIndex deeper known]
                cases visit symbol.ruleIndex known with
                | error error => rfl
                | ok extended => exact inductionHypothesis laterLabelled _ _
      | keyword | operator | token => exact inductionHypothesis laterLabelled _ _

theorem visit_eq (leading : Leading automata labels) {depth rule : Nat} {visiting : List Nat}
    (nested : Nested automata (rule :: visiting))
    (enough : automata.length ≤ visiting.length + depth) (known : Known) :
    visit automata labels depth visiting rule known =
      .ok (First.visit automata labels depth visiting rule known) := by
  induction depth generalizing visiting rule known with
  | zero =>
      -- All rules are being visited already, so this one is visited twice.
      have counted := nested.length_le
      rw [List.length_cons] at counted
      omega
  | succ depth inductionHypothesis =>
      have inRange := nested.inRange rule (.head visiting)
      have found := List.getElem?_eq_getElem inRange
      generalize automata[rule] = automaton at found
      have isAutomaton := List.mem_of_getElem? found
      obtain ⟨initial, isInitial⟩ : ∃ initial, automaton.states[0]? = some initial :=
        ⟨_, List.getElem?_eq_getElem (leading.initial automaton isAutomaton)⟩
      have arcs_eq : automaton.arcsAt 0 = initial.arcs := by
        rw [RuleAutomaton.arcsAt, isInitial]
      have labelled := leading.labelled automaton isAutomaton
      rw [arcs_eq] at labelled
      have enoughLater : automata.length ≤ (rule :: visiting).length + depth := by
        rw [List.length_cons]
        omega
      have collected := collect_eq leading nested
        (fun _ deeper known => inductionHypothesis deeper enoughLater known) labelled
        automaton.name .empty known
      rw [visit, First.visit, get_eq found, found]
      simp only [bind_ok, get_eq isInitial, collected, arcs_eq]
      cases First.collect (First.visit automata labels depth (rule :: visiting)) labels
        automaton.name (rule :: visiting) initial.arcs .empty known <;> rfl

theorem visitAll_eq (leading : Leading automata labels) {rules : List Nat}
    (inRange : ∀ rule ∈ rules, rule < automata.length) (known : Known) :
    visitAll automata labels rules known = .ok (First.visitAll automata labels rules known) := by
  induction rules generalizing known with
  | nil => rfl
  | cons rule later inductionHypothesis =>
      obtain ⟨ruleInRange, laterInRange⟩ := List.forall_mem_cons.mp inRange
      rw [visitAll, First.visitAll]
      cases known.get? rule with
      | some set => exact inductionHypothesis laterInRange known
      | none =>
          have alone : Nested automata [rule] :=
            ⟨List.nodup_singleton rule, List.forall_mem_singleton.mpr ruleInRange⟩
          have enough : automata.length ≤ ([] : List Nat).length + automata.length :=
            Nat.le_add_left _ _
          simp only [visit_eq leading alone enough]
          cases First.visit automata labels automata.length [] rule known with
          | error error => rfl
          | ok extended => exact inductionHypothesis laterInRange extended

theorem firstSets_eq (leading : Leading automata labels) :
    firstSets automata labels = .ok (First.firstSets automata labels) := by
  rw [firstSets, First.firstSets, visitAll_eq leading (fun _ => List.mem_range.mp)]
  cases First.visitAll automata labels (List.range automata.length) .empty <;> rfl

end First

/-! ## Following labels -/

section Following

variable (grammar : Grammar)

/-- The automaton of a rule symbol.  Token kinds lie below the first rule. -/
def automaton? (symbol : SymbolId) : Except Gap (Option RuleAutomaton) :=
  if symbol.isRule then
    (require (SymbolId.ruleOffset ≤ symbol) .subtraction symbol.ruleIndex).bind fun index =>
      .ok grammar.automata[index]?
  else
    .ok none

def subAutomaton? (label : LabelId) : Except Gap (Option RuleAutomaton) :=
  (get grammar.labels label).bind fun
    | .rule symbol => automaton? grammar symbol
    | _ => .ok none

def reachable (label : LabelId) : Except Gap (List LabelId) :=
  (get grammar.labels label).bind fun
    | .rule symbol =>
        (automaton? grammar symbol).bind fun
          | some sub => .ok sub.first.elements
          | none => .ok []
    | _ => .ok [label]

variable {grammar} {label : LabelId}

theorem automaton?_eq (symbol : SymbolId) :
    automaton? grammar symbol = .ok (grammar.automaton? symbol) := by
  unfold automaton? Grammar.automaton?
  split
  · rename_i isRule
    rw [require_eq (of_decide_eq_true isRule), bind_ok]
  · rfl

theorem subAutomaton?_eq (inRange : label < grammar.labels.length) :
    subAutomaton? grammar label = .ok (grammar.subAutomaton? label) := by
  have found := List.getElem?_eq_getElem inRange
  have isLabel : grammar.labelTable.get? label = some grammar.labels[label] := found
  rw [subAutomaton?, Grammar.subAutomaton?, get_eq found, bind_ok, isLabel]
  cases grammar.labels[label] with
  | rule symbol => exact automaton?_eq symbol
  | keyword | operator | token => rfl

theorem reachable_eq (inRange : label < grammar.labels.length) :
    reachable grammar label = .ok (grammar.reachable label) := by
  have found := List.getElem?_eq_getElem inRange
  have isLabel : grammar.labelTable.get? label = some grammar.labels[label] := found
  rw [reachable, Grammar.reachable, get_eq found, bind_ok, isLabel]
  cases grammar.labels[label] with
  | rule symbol =>
      simp only [automaton?_eq, bind_ok]
      cases grammar.automaton? symbol <;> rfl
  | keyword | operator | token => rfl

end Following

/-! ## Ambiguity -/

section Ambiguity

open Ambiguity (Owner)

def overlaps (labels : List Label) (left right : LabelId) : Except Gap Bool :=
  if left = right then
    .ok true
  else
    (get labels left).bind fun _ => (get labels right).bind fun _ =>
      .ok (Ambiguity.overlaps labels left right)

/-- The first owner under another arc whose terminal overlaps with a terminal. -/
def clash? (labels : List Label) (arc terminal : LabelId) :
    List Owner → Except Gap (Option Owner)
  | [] => .ok none
  | owner :: later =>
      if owner.arc = arc then
        clash? labels arc terminal later
      else
        (overlaps labels owner.terminal terminal).bind fun isClash =>
          if isClash then .ok (some owner) else clash? labels arc terminal later

def claimTerminals (grammar : Grammar) (rule : String) (arc : LabelId) :
    List LabelId → List Owner → Except Gap (Except GrammarError (List Owner))
  | [], owners => .ok (.ok owners)
  | terminal :: later, owners =>
      (clash? grammar.labels arc terminal owners).bind fun clash =>
        match clash with
        | some owner =>
            .ok (.error (.unplaced (.ambiguous rule (grammar.labelName terminal)
              (grammar.labelName owner.arc) (grammar.labelName arc))))
        | none => claimTerminals grammar rule arc later (owners ++ [⟨terminal, arc⟩])

def checkDescent (grammar : Grammar) (rule : String) (arc : LabelId) :
    Except Gap (Except GrammarError Unit) :=
  (subAutomaton? grammar arc).bind fun
    | some sub =>
        (get sub.table.accepts 0).bind fun accepting =>
          if accepting then
            .ok (.error (.unplaced (.emptyRule rule sub.name)))
          else
            .ok (.ok ())
    | none => .ok (.ok ())

def checkArcs (grammar : Grammar) (rule : String) :
    List Arc → List Owner → Except Gap (Except GrammarError Unit)
  | [], _ => .ok (.ok ())
  | arc :: later, owners =>
      andThen (checkDescent grammar rule arc.label) fun _ =>
        (reachable grammar arc.label).bind fun terminals =>
          andThen (claimTerminals grammar rule arc.label terminals owners) fun extended =>
            checkArcs grammar rule later extended

def checkStates (grammar : Grammar) (rule : String) :
    List State → Except Gap (Except GrammarError Unit)
  | [] => .ok (.ok ())
  | state :: later =>
      andThen (checkArcs grammar rule state.arcs []) fun _ => checkStates grammar rule later

def checkAutomata (grammar : Grammar) :
    List RuleAutomaton → Except Gap (Except GrammarError Unit)
  | [] => .ok (.ok ())
  | automaton :: later =>
      andThen (checkStates grammar automaton.name automaton.states) fun _ =>
        checkAutomata grammar later

variable {grammar : Grammar} {labels : List Label} {arc : LabelId}

theorem overlaps_eq {left right : LabelId} (leftInRange : left < labels.length)
    (rightInRange : right < labels.length) :
    overlaps labels left right = .ok (Ambiguity.overlaps labels left right) := by
  unfold overlaps
  split
  · rename_i same
    simp [Ambiguity.overlaps, same]
  · rw [get_eq (List.getElem?_eq_getElem leftInRange), bind_ok,
      get_eq (List.getElem?_eq_getElem rightInRange), bind_ok]

theorem clash?_eq {terminal : LabelId} (inRange : terminal < labels.length)
    {owners : List Owner} (ownersInRange : ∀ owner ∈ owners, owner.terminal < labels.length) :
    clash? labels arc terminal owners = .ok (owners.find? fun owner =>
      owner.arc != arc && Ambiguity.overlaps labels owner.terminal terminal) := by
  induction owners with
  | nil => rfl
  | cons owner later inductionHypothesis =>
      obtain ⟨ownerInRange, laterInRange⟩ := List.forall_mem_cons.mp ownersInRange
      rw [clash?, inductionHypothesis laterInRange, overlaps_eq ownerInRange inRange, bind_ok,
        List.find?_cons]
      by_cases sameArc : owner.arc = arc
      · simp [sameArc]
      · have differs : (owner.arc != arc) = true := bne_iff_ne.mpr sameArc
        simp only [if_neg sameArc, differs, Bool.true_and]
        cases Ambiguity.overlaps labels owner.terminal terminal <;> rfl

theorem claimTerminals_eq {terminals : List LabelId}
    (inRange : ∀ terminal ∈ terminals, terminal < grammar.labels.length)
    {owners : List Owner}
    (ownersInRange : ∀ owner ∈ owners, owner.terminal < grammar.labels.length)
    (rule : String) :
    claimTerminals grammar rule arc terminals owners =
      .ok (Ambiguity.claimTerminals grammar rule arc terminals owners) := by
  induction terminals generalizing owners with
  | nil => rfl
  | cons terminal later inductionHypothesis =>
      obtain ⟨terminalInRange, laterInRange⟩ := List.forall_mem_cons.mp inRange
      have extendedInRange : ∀ owner ∈ owners ++ [⟨terminal, arc⟩],
          owner.terminal < grammar.labels.length :=
        List.forall_mem_append.mpr ⟨ownersInRange, List.forall_mem_singleton.mpr terminalInRange⟩
      rw [claimTerminals, Ambiguity.claimTerminals, clash?_eq terminalInRange ownersInRange]
      simp only [bind_ok]
      cases owners.find? fun owner =>
          owner.arc != arc && Ambiguity.overlaps grammar.labels owner.terminal terminal with
      | some owner => rfl
      | none => exact inductionHypothesis laterInRange extendedInRange

/-- An arc has a label, a rule that it descends into has a flag for its initial state, and
what the arc can begin with are labels. -/
structure ArcInRange (grammar : Grammar) (arc : LabelId) : Prop where
  label : arc < grammar.labels.length
  flagged : ∀ sub, grammar.subAutomaton? arc = some sub →
    sub.table.accepts[0]? = some (sub.isAccepting 0)
  terminals : ∀ terminal ∈ grammar.reachable arc, terminal < grammar.labels.length

theorem checkDescent_eq (inRange : ArcInRange grammar arc) (rule : String) :
    checkDescent grammar rule arc = .ok (Ambiguity.checkDescent grammar rule arc) := by
  unfold checkDescent Ambiguity.checkDescent
  rw [subAutomaton?_eq inRange.label, bind_ok]
  cases isSub : grammar.subAutomaton? arc with
  | none => rfl
  | some sub =>
      simp only [get_eq (inRange.flagged sub isSub), bind_ok]
      split
      · rfl
      · rfl

theorem checkArcs_eq {arcs : List Arc}
    (inRange : ∀ arc ∈ arcs, ArcInRange grammar arc.label) {owners : List Owner}
    (ownersInRange : ∀ owner ∈ owners, owner.terminal < grammar.labels.length)
    (rule : String) :
    checkArcs grammar rule arcs owners =
      .ok (Ambiguity.checkArcs grammar rule arcs owners) := by
  induction arcs generalizing owners with
  | nil => rfl
  | cons arc later inductionHypothesis =>
      obtain ⟨arcInRange, laterInRange⟩ := List.forall_mem_cons.mp inRange
      rw [checkArcs, Ambiguity.checkArcs, checkDescent_eq arcInRange]
      cases Ambiguity.checkDescent grammar rule arc.label with
      | error error => rfl
      | ok _ =>
          simp only [andThen_ok, reachable_eq arcInRange.label, bind_ok,
            claimTerminals_eq arcInRange.terminals ownersInRange]
          cases claimed : Ambiguity.claimTerminals grammar rule arc.label
              (grammar.reachable arc.label) owners with
          | error error => rfl
          | ok extended =>
              obtain ⟨rfl, _⟩ := Ambiguity.claimTerminals_spec claimed
              refine inductionHypothesis laterInRange (List.forall_mem_append.mpr
                ⟨ownersInRange, ?_⟩)
              intro owner isOwner
              obtain ⟨terminal, isTerminal, rfl⟩ := List.mem_map.mp isOwner
              exact arcInRange.terminals terminal isTerminal

theorem checkStates_eq {states : List State}
    (inRange : ∀ state ∈ states, ∀ arc ∈ state.arcs, ArcInRange grammar arc.label)
    (rule : String) :
    checkStates grammar rule states = .ok (Ambiguity.checkStates grammar rule states) := by
  induction states with
  | nil => rfl
  | cons state later inductionHypothesis =>
      obtain ⟨stateInRange, laterInRange⟩ := List.forall_mem_cons.mp inRange
      rw [checkStates, Ambiguity.checkStates, checkArcs_eq stateInRange (by simp)]
      cases Ambiguity.checkArcs grammar rule state.arcs [] with
      | error error => rfl
      | ok _ => exact inductionHypothesis laterInRange

theorem checkAutomata_eq {automata : List RuleAutomaton}
    (inRange : ∀ automaton ∈ automata, ∀ state ∈ automaton.states, ∀ arc ∈ state.arcs,
      ArcInRange grammar arc.label) :
    checkAutomata grammar automata = .ok (Ambiguity.checkAutomata grammar automata) := by
  induction automata with
  | nil => rfl
  | cons automaton later inductionHypothesis =>
      obtain ⟨automatonInRange, laterInRange⟩ := List.forall_mem_cons.mp inRange
      rw [checkAutomata, Ambiguity.checkAutomata, checkStates_eq automatonInRange]
      cases Ambiguity.checkStates grammar automaton.name automaton.states with
      | error error => rfl
      | ok _ => exact inductionHypothesis laterInRange

end Ambiguity

/-! ## Grammars -/

section Grammars

variable (rules : List Rule) (vocabulary : Vocabulary) (start : Option String)

def assemble : Except Gap (Except GrammarError Grammar) :=
  let symbolIds := Grammar.symbolsOf rules
  andThen (.ok (Grammar.startSymbol symbolIds start)) fun startSymbol =>
    andThen (automataOf symbolIds vocabulary 0 rules .empty) fun (automata, labelTable) =>
      andThen (firstSets automata labelTable.labels) fun firstSets =>
        let usedKinds :=
          labelTable.labels.filterMap (Label.tokenKind? vocabulary.keywordToken)
        .ok (.ok
          { symbolIds
            labelTable
            automata := automata.zipWith
              (fun automaton first => { automaton with first }) firstSets
            start := startSymbol
            keywordToken := vocabulary.keywordToken
            endMarker := vocabulary.endMarker
            tokenNames := Grammar.namesOf vocabulary
              (usedKinds ++ [vocabulary.keywordToken, vocabulary.endMarker]) })

def assembleUnder (policy : AmbiguityPolicy) : Except Gap (Except GrammarError Grammar) :=
  andThen (assemble rules vocabulary start) fun grammar =>
    match policy with
    | .firstWins => .ok (.ok grammar)
    | .reject =>
        andThen (checkAutomata grammar grammar.automata) fun _ => .ok (.ok grammar)

def build (policy : AmbiguityPolicy) : Except Gap (Except CompileFailure Grammar) :=
  if SymbolId.ruleCapacity < rules.length then
    .ok (.error .outOfSymbols)
  else
    (assembleUnder rules vocabulary start policy).bind fun
      | .error error => .ok (.error (.refused error))
      | .ok grammar => .ok (.ok grammar)

end Grammars

def compile (source : String) (vocabulary : Vocabulary) (start : Option String)
    (policy : AmbiguityPolicy) : Except Gap (Except CompileFailure Grammar) :=
  (readRules source).bind fun
    | .error error => .ok (.error (.refused error))
    | .ok rules => build rules vocabulary start policy

end Checked

/-! ## What was compiled leads somewhere -/

theorem SymbolId.isRule_ofRuleIndex {index : Nat} (inRange : index < ruleCapacity) :
    (ofRuleIndex index).isRule = true := by
  rw [isRule, decide_eq_true_eq, UInt16.le_iff_toNat_le, toNat_ofRuleIndex inRange]
  exact Nat.le_add_right _ _

namespace Grammar

variable {rules : List Rule} {vocabulary : Vocabulary} {grammar : Grammar}
  {start : Option String} {policy : AmbiguityPolicy}

theorem leading_of_automataOf {automata : List RuleAutomaton} {table : LabelTable}
    (capacity : rules.length ≤ SymbolId.ruleCapacity)
    (success : automataOf (symbolsOf rules) vocabulary 0 rules .empty = .ok (automata, table)) :
    Checked.Leading automata table.labels := by
  obtain ⟨_, _, counted, areAutomata⟩ := automataOf_spec success
  have exact := exact_of_automataOf success LabelTable.exact_empty
  have exists_rule : ∀ automaton ∈ automata, ∃ index rule,
      AutomatonOf (symbolsOf rules) vocabulary table index rule automaton := by
    intro automaton isAutomaton
    obtain ⟨index, found⟩ := List.mem_iff_getElem?.mp isAutomaton
    obtain ⟨inRange, _⟩ := List.getElem?_eq_some_iff.mp found
    rw [counted] at inRange
    exact ⟨_, _, areAutomata index _ automaton (List.getElem?_eq_getElem inRange) found⟩
  refine ⟨?_, ?_, ?_⟩
  · intro automaton isAutomaton
    obtain ⟨index, rule, isOf⟩ := exists_rule automaton isAutomaton
    obtain ⟨resolved, _, states_eq⟩ := isOf.body
    rw [states_eq]
    exact (Dfa.ofExpr_spec resolved).1.nonempty
  · intro automaton isAutomaton arc isArc
    obtain ⟨index, rule, isOf⟩ := exists_rule automaton isAutomaton
    obtain ⟨found, isState, inFound⟩ := RuleAutomaton.exists_mem_states_of_mem_arcsAt isArc
    exact isOf.exists_label_of_mem_states isState inFound
  · intro place symbol isRule
    obtain ⟨name, found⟩ := exact.fits place (.rule symbol) isRule
    obtain ⟨index, rule, ruleFound, _, rfl⟩ := exists_index_of_symbolsOf found
    obtain ⟨inRange, _⟩ := List.getElem?_eq_some_iff.mp ruleFound
    have withinCapacity := Nat.lt_of_lt_of_le inRange capacity
    refine ⟨SymbolId.isRule_ofRuleIndex withinCapacity, ?_⟩
    rw [SymbolId.ruleIndex_ofRuleIndex withinCapacity, counted]
    exact inRange

theorem Compiled.flag_eq (compiled : Compiled rules vocabulary grammar)
    {automaton : RuleAutomaton} (isAutomaton : automaton ∈ grammar.automata) {state : Nat}
    (inRange : state < automaton.states.length) :
    automaton.table.accepts[state]? = some (automaton.isAccepting state) := by
  obtain ⟨index, found⟩ := List.mem_iff_getElem?.mp isAutomaton
  obtain ⟨rule, isOf⟩ := compiled.exists_automatonOf found
  have accepts_eq : automaton.table.accepts = automaton.states.map State.accepting := by
    rw [isOf.table_eq]
    rfl
  have isFlag : automaton.table.accepts[state]? = some automaton.states[state].accepting := by
    rw [accepts_eq, List.getElem?_map, List.getElem?_eq_getElem inRange, Option.map_some]
  rw [RuleAutomaton.isAccepting, CompactTable.isAccepting, isFlag, Option.getD_some]

theorem IsTerminal.lt_length {label : LabelId} (isTerminal : grammar.IsTerminal label) :
    label < grammar.labels.length := by
  obtain ⟨terminal, isLabel, _⟩ := isTerminal
  obtain ⟨inRange, _⟩ := List.getElem?_eq_some_iff.mp isLabel
  exact inRange

theorem Compiled.arcInRange (compiled : Compiled rules vocabulary grammar)
    {automaton : RuleAutomaton} (isAutomaton : automaton ∈ grammar.automata) {state : State}
    (isState : state ∈ automaton.states) {arc : Arc} (isArc : arc ∈ state.arcs) :
    Checked.ArcInRange grammar arc.label := by
  obtain ⟨place, isPlace⟩ := List.mem_iff_getElem?.mp isState
  have isArcAt : arc ∈ automaton.arcsAt place :=
    RuleAutomaton.mem_arcsAt.mpr ⟨state, isPlace, isArc⟩
  refine ⟨?_, ?_, ?_⟩
  · obtain ⟨label, isLabel⟩ := compiled.exists_label_of_mem_states isAutomaton isState isArc
    obtain ⟨inRange, _⟩ := List.getElem?_eq_some_iff.mp isLabel
    exact inRange
  · intro sub isSub
    obtain ⟨symbol, _, found⟩ := subAutomaton?_eq_some.mp isSub
    obtain ⟨rule, isOf⟩ := compiled.exists_automatonOf (getElem?_of_automaton? found)
    exact compiled.flag_eq (mem_automata_of_automaton? found) isOf.wellFormed.nonempty
  · intro terminal isReachable
    exact (compiled.isTerminal_of_mem_reachable isAutomaton isArcAt isReachable).lt_length

end Grammar

namespace Checked

variable {rules : List Rule} {vocabulary : Vocabulary} {start : Option String}
  {policy : AmbiguityPolicy}

theorem assemble_eq (capacity : rules.length ≤ SymbolId.ruleCapacity)
    (enclosed : ∀ rule ∈ rules, ∀ term ∈ rule.body.terms, term.IsEnclosed) :
    assemble rules vocabulary start = .ok (Grammar.assemble rules vocabulary start) := by
  simp only [assemble, Grammar.assemble]
  cases Grammar.startSymbol (Grammar.symbolsOf rules) start with
  | error error => rfl
  | ok startSymbol =>
      simp only [andThen_ok, automataOf_eq enclosed]
      cases success : Grammar.automataOf (Grammar.symbolsOf rules) vocabulary 0 rules .empty with
      | error error => rfl
      | ok automata =>
          have leading := Grammar.leading_of_automataOf capacity success
          simp only [andThen_ok, firstSets_eq leading]
          cases First.firstSets automata.1 automata.2.labels <;> rfl

theorem assembleUnder_eq (capacity : rules.length ≤ SymbolId.ruleCapacity)
    (enclosed : ∀ rule ∈ rules, ∀ term ∈ rule.body.terms, term.IsEnclosed) :
    assembleUnder rules vocabulary start policy =
      .ok (Grammar.assembleUnder policy rules vocabulary start) := by
  unfold assembleUnder Grammar.assembleUnder
  rw [assemble_eq capacity enclosed]
  cases assembled : Grammar.assemble rules vocabulary start with
  | error error => rfl
  | ok grammar =>
      have compiled := Grammar.compiled_of_assemble capacity assembled
      cases policy with
      | firstWins => rfl
      | reject =>
          have inRange : ∀ automaton ∈ grammar.automata, ∀ state ∈ automaton.states,
              ∀ arc ∈ state.arcs, ArcInRange grammar arc.label :=
            fun _ isAutomaton _ isState _ isArc => compiled.arcInRange isAutomaton isState isArc
          simp only [andThen_ok, checkAutomata_eq inRange, Ambiguity.check]
          cases Ambiguity.checkAutomata grammar grammar.automata <;> rfl

theorem build_eq (enclosed : ∀ rule ∈ rules, ∀ term ∈ rule.body.terms, term.IsEnclosed) :
    build rules vocabulary start policy = .ok (Grammar.build rules vocabulary start policy) := by
  unfold build Grammar.build
  split
  · rfl
  · rename_i withinCapacity
    rw [assembleUnder_eq (Nat.le_of_not_lt withinCapacity) enclosed, bind_ok]
    cases Grammar.assembleUnder policy rules vocabulary start <;> rfl

/-- Compiling meets no operation without a result. -/
theorem compile_eq (source : String) :
    compile source vocabulary start policy =
      .ok (Grammar.compile source vocabulary start policy) := by
  unfold compile Grammar.compile
  rw [readRules_eq, bind_ok]
  cases read : GrammarText.readRules source with
  | error error => rfl
  | ok rules => exact build_eq (GrammarText.isEnclosed_of_readRules read)

end Checked

end RuleMachine
