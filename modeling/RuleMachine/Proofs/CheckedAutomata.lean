import RuleMachine.Proofs.CheckedReading
import RuleMachine.Proofs.SubsetConstruction
import RuleMachine.Proofs.TransitionTable

/-!
# Automata and tables without gaps

The states of a nondeterministic automaton are places in a list, and so are those of a
deterministic one.  Edges are only ever added between states that exist; they carry the
places of terms, by which the labels are looked up; and every state that the subset
construction looks at exists as well.  A transition table has its cells in one list, row
after row; the cell of a state and a code lies in it.
-/

namespace RuleMachine

namespace Checked

/-- The item at a place of a list. -/
def get {Item : Type} (items : List Item) (place : Nat) : Except Gap Item :=
  match items[place]? with
  | some item => .ok item
  | none => .error .index

theorem get_eq {Item : Type} {items : List Item} {place : Nat} {item : Item}
    (found : items[place]? = some item) : get items place = .ok item := by
  rw [get, found]

/-- A value, provided that a condition holds. -/
def require {Value : Type} (condition : Prop) [Decidable condition] (gap : Gap)
    (value : Value) : Except Gap Value :=
  if condition then .ok value else .error gap

theorem require_eq {Value : Type} {condition : Prop} [Decidable condition]
    (holds : condition) (gap : Gap) (value : Value) :
    require condition gap value = .ok value :=
  if_pos holds

@[simp]
theorem bind_ok {First Second : Type} (value : First) (next : First → Except Gap Second) :
    (Except.ok value).bind next = next value :=
  rfl

/-! ## Nondeterministic automata -/

section Nfa

variable {Label : Type} {nfa : Nfa Label}

/-- Add an edge that reads nothing; the state that it leaves has to exist. -/
def addEpsilon (nfa : Nfa Label) (source target : Nat) : Except Gap (Nfa Label) :=
  require (source < nfa.size) .index (nfa.addEpsilon source target)

/-- Add two states and an edge between them; the first one of them has to exist by then. -/
def addTerm (nfa : Nfa Label) (label : Label) : Except Gap (Nfa Label × Fragment) :=
  require (nfa.size < (nfa.addTerm label).1.size) .index (nfa.addTerm label)

def addChoice (nfa : Nfa Label) (left right : Fragment) : Except Gap (Nfa Label × Fragment) :=
  let start := nfa.size
  let accept := nfa.size + 1
  (addEpsilon { nfa with size := nfa.size + 2 } start left.start).bind fun withLeft =>
    (addEpsilon withLeft left.accept accept).bind fun closedLeft =>
      (addEpsilon closedLeft start right.start).bind fun withRight =>
        (addEpsilon withRight right.accept accept).bind fun closedRight =>
          .ok (closedRight, ⟨start, accept⟩)

def addExpr (nfa : Nfa Label) : Expr Label → Except Gap (Nfa Label × Fragment)
  | .term label => addTerm nfa label
  | .seq left right =>
      (addExpr nfa left).bind fun (withLeft, leftFragment) =>
        (addExpr withLeft right).bind fun (withRight, rightFragment) =>
          (addEpsilon withRight leftFragment.accept rightFragment.start).bind fun joined =>
            .ok (joined, ⟨leftFragment.start, rightFragment.accept⟩)
  | .alt left right =>
      (addExpr nfa left).bind fun (withLeft, leftFragment) =>
        (addExpr withLeft right).bind fun (withRight, rightFragment) =>
          addChoice withRight leftFragment rightFragment
  | .opt body =>
      (addExpr nfa body).bind fun (withBody, fragment) =>
        (addEpsilon withBody fragment.start fragment.accept).bind fun bypassed =>
          .ok (bypassed, fragment)
  | .plus body =>
      (addExpr nfa body).bind fun (withBody, fragment) =>
        (addEpsilon withBody fragment.accept fragment.start).bind fun looped =>
          .ok (looped, fragment)
  | .star body =>
      (addExpr nfa body).bind fun (withBody, fragment) =>
        (addEpsilon withBody fragment.accept fragment.start).bind fun looped =>
          (addEpsilon looped fragment.start fragment.accept).bind fun bypassed =>
            .ok (bypassed, fragment)

theorem addTerm_eq (nfa : Nfa Label) (label : Label) :
    addTerm nfa label = .ok (nfa.addTerm label) :=
  require_eq (Nat.lt_add_of_pos_right (by decide)) _ _

theorem addEpsilon_eq {source : Nat} (inRange : source < nfa.size) (target : Nat) :
    addEpsilon nfa source target = .ok (nfa.addEpsilon source target) :=
  require_eq inRange _ _

theorem addChoice_eq {left right : Fragment} (leftInRange : left.accept < nfa.size)
    (rightInRange : right.accept < nfa.size) :
    addChoice nfa left right = .ok (nfa.addChoice left right) := by
  have beyond : ∀ {state : Nat}, state < nfa.size → state < nfa.size + 2 :=
    fun inRange => Nat.lt_add_right 2 inRange
  have isNew : nfa.size < nfa.size + 2 := Nat.lt_add_of_pos_right (by decide)
  simp only [addChoice, addEpsilon, require, Nfa.addEpsilon, isNew, beyond leftInRange,
    beyond rightInRange, if_true, bind_ok]
  rfl

/-- The ends of a fragment are states of the automaton that it was added to. -/
theorem addExpr_inRange (nfa : Nfa Label) (expression : Expr Label) :
    nfa.size ≤ (nfa.addExpr expression).1.size ∧
      (nfa.addExpr expression).2.start < (nfa.addExpr expression).1.size ∧
      (nfa.addExpr expression).2.accept < (nfa.addExpr expression).1.size := by
  obtain ⟨added, grown⟩ := Nfa.exists_grown_addExpr nfa expression
  exact ⟨grown.size_le, grown.start_mem.2, grown.accept_mem.2⟩

theorem addExpr_eq (nfa : Nfa Label) (expression : Expr Label) :
    addExpr nfa expression = .ok (nfa.addExpr expression) := by
  induction expression generalizing nfa with
  | term label => exact addTerm_eq nfa label
  | seq left right leftHypothesis rightHypothesis =>
      obtain ⟨_, _, leftInRange⟩ := addExpr_inRange nfa left
      obtain ⟨grows, _, _⟩ := addExpr_inRange (nfa.addExpr left).1 right
      simp only [addExpr, leftHypothesis, rightHypothesis, bind_ok,
        addEpsilon_eq (Nat.lt_of_lt_of_le leftInRange grows)]
      rfl
  | alt left right leftHypothesis rightHypothesis =>
      obtain ⟨_, _, leftInRange⟩ := addExpr_inRange nfa left
      obtain ⟨grows, _, rightInRange⟩ := addExpr_inRange (nfa.addExpr left).1 right
      simp only [addExpr, leftHypothesis, rightHypothesis, bind_ok]
      exact addChoice_eq (Nat.lt_of_lt_of_le leftInRange grows) rightInRange
  | opt body inductionHypothesis =>
      obtain ⟨_, startInRange, _⟩ := addExpr_inRange nfa body
      simp only [addExpr, inductionHypothesis, bind_ok, addEpsilon_eq startInRange]
      rfl
  | plus body inductionHypothesis =>
      obtain ⟨_, _, acceptInRange⟩ := addExpr_inRange nfa body
      simp only [addExpr, inductionHypothesis, bind_ok, addEpsilon_eq acceptInRange]
      rfl
  | star body inductionHypothesis =>
      obtain ⟨_, startInRange, acceptInRange⟩ := addExpr_inRange nfa body
      have stillInRange : (nfa.addExpr body).2.start <
          ((nfa.addExpr body).1.addEpsilon (nfa.addExpr body).2.accept
            (nfa.addExpr body).2.start).size := startInRange
      simp only [addExpr, inductionHypothesis, bind_ok, addEpsilon_eq acceptInRange,
        addEpsilon_eq stillInRange]
      rfl

end Nfa

/-! ## Places of terms -/

section Places

/-- The expression in which each term is replaced by its place among the terms, where the
place of the first one is given. -/
def places {Label : Type} : Expr Label → Nat → Expr Nat
  | .term _, next => .term next
  | .seq left right, next => .seq (places left next) (places right (next + left.terms.length))
  | .alt left right, next => .alt (places left next) (places right (next + left.terms.length))
  | .opt body, next => .opt (places body next)
  | .plus body, next => .plus (places body next)
  | .star body, next => .star (places body next)

/-- The label of an edge that carries the place of a term, if it is not silent. -/
def labelAt (labels : List Nat) : Option Nat → Except Gap (Option Nat)
  | none => .ok none
  | some place => (get labels place).bind fun label => .ok (some label)

/-- Replace the places of terms on edges by labels. -/
def relabelEdges (labels : List Nat) : List (Edge Nat) → Except Gap (List (Edge Nat))
  | [] => .ok []
  | edge :: later =>
      (labelAt labels edge.label).bind fun label =>
        (relabelEdges labels later).bind fun others =>
          .ok (⟨edge.source, label, edge.target⟩ :: others)

/-- One automaton carries the labels where another one carries the places of terms. -/
structure Relabels (labels : List Nat) (nfa labelled : Nfa Nat) : Prop where
  size_eq : labelled.size = nfa.size
  edges_eq : relabelEdges labels nfa.edges = .ok labelled.edges

variable {labels : List Nat} {nfa labelled : Nfa Nat}

theorem Relabels.cons (relabels : Relabels labels nfa labelled) {place label : Option Nat}
    (found : labelAt labels place = .ok label) (source target size : Nat) :
    Relabels labels ⟨size, ⟨source, place, target⟩ :: nfa.edges⟩
      ⟨size, ⟨source, label, target⟩ :: labelled.edges⟩ := by
  refine ⟨rfl, ?_⟩
  rw [relabelEdges, found, bind_ok, relabels.edges_eq, bind_ok]

theorem Relabels.addEpsilon (relabels : Relabels labels nfa labelled) (source target : Nat) :
    Relabels labels (nfa.addEpsilon source target) (labelled.addEpsilon source target) := by
  have grown := relabels.cons (rfl : labelAt labels none = .ok none) source target nfa.size
  have size_eq : labelled.addEpsilon source target =
      ⟨nfa.size, ⟨source, none, target⟩ :: labelled.edges⟩ := by
    rw [Nfa.addEpsilon, relabels.size_eq]
  rw [size_eq]
  exact grown

theorem Relabels.addChoice (relabels : Relabels labels nfa labelled) (left right : Fragment) :
    Relabels labels (nfa.addChoice left right).1 (labelled.addChoice left right).1 ∧
      (labelled.addChoice left right).2 = (nfa.addChoice left right).2 := by
  have wider : Relabels labels { nfa with size := nfa.size + 2 }
      { labelled with size := labelled.size + 2 } :=
    ⟨congrArg (· + 2) relabels.size_eq, relabels.edges_eq⟩
  unfold Nfa.addChoice
  rw [relabels.size_eq] at wider ⊢
  exact ⟨(((wider.addEpsilon _ _).addEpsilon _ _).addEpsilon _ _).addEpsilon _ _, rfl⟩

theorem prefix_drop_add {Item : Type} {items left right : List Item} {next : Nat}
    (isPrefix : left ++ right <+: items.drop next) :
    left <+: items.drop next ∧ right <+: items.drop (next + left.length) := by
  obtain ⟨after, split⟩ := isPrefix
  rw [List.append_assoc] at split
  refine ⟨⟨right ++ after, split⟩, after, ?_⟩
  rw [← List.drop_drop, ← split, List.drop_left]

/-- Looking up the labels of terms by their places gives the automaton of the labels. -/
theorem Relabels.addExpr (relabels : Relabels labels nfa labelled) {expression : Expr Nat}
    {next : Nat} (isPrefix : expression.terms <+: labels.drop next) :
    Relabels labels (nfa.addExpr (places expression next)).1 (labelled.addExpr expression).1 ∧
      (labelled.addExpr expression).2 = (nfa.addExpr (places expression next)).2 := by
  induction expression generalizing nfa labelled next with
  | term label =>
      obtain ⟨after, split⟩ := isPrefix
      have isLabel : labels[next]? = some label := by
        rw [← Nat.add_zero next, ← List.getElem?_drop, ← split]
        rfl
      have found : labelAt labels (some next) = .ok (some label) := by
        rw [labelAt, get_eq isLabel, bind_ok]
      have grown := relabels.cons found nfa.size (nfa.size + 1) (nfa.size + 2)
      simp only [places, Nfa.addExpr, Nfa.addTerm, relabels.size_eq]
      exact ⟨grown, trivial⟩
  | seq left right leftHypothesis rightHypothesis =>
      obtain ⟨leftPrefix, rightPrefix⟩ := prefix_drop_add isPrefix
      obtain ⟨leftRelabels, leftFragment_eq⟩ := leftHypothesis relabels leftPrefix
      obtain ⟨rightRelabels, rightFragment_eq⟩ := rightHypothesis leftRelabels rightPrefix
      simp only [places, Nfa.addExpr, leftFragment_eq, rightFragment_eq]
      exact ⟨rightRelabels.addEpsilon _ _, trivial⟩
  | alt left right leftHypothesis rightHypothesis =>
      obtain ⟨leftPrefix, rightPrefix⟩ := prefix_drop_add isPrefix
      obtain ⟨leftRelabels, leftFragment_eq⟩ := leftHypothesis relabels leftPrefix
      obtain ⟨rightRelabels, rightFragment_eq⟩ := rightHypothesis leftRelabels rightPrefix
      simp only [places, Nfa.addExpr, leftFragment_eq, rightFragment_eq]
      exact rightRelabels.addChoice _ _
  | opt body inductionHypothesis =>
      obtain ⟨bodyRelabels, fragment_eq⟩ := inductionHypothesis relabels isPrefix
      simp only [places, Nfa.addExpr, fragment_eq]
      exact ⟨bodyRelabels.addEpsilon _ _, trivial⟩
  | plus body inductionHypothesis =>
      obtain ⟨bodyRelabels, fragment_eq⟩ := inductionHypothesis relabels isPrefix
      simp only [places, Nfa.addExpr, fragment_eq]
      exact ⟨bodyRelabels.addEpsilon _ _, trivial⟩
  | star body inductionHypothesis =>
      obtain ⟨bodyRelabels, fragment_eq⟩ := inductionHypothesis relabels isPrefix
      simp only [places, Nfa.addExpr, fragment_eq]
      exact ⟨(bodyRelabels.addEpsilon _ _).addEpsilon _ _, trivial⟩

end Places

/-! ## The subset construction -/

section Subsets

variable {nfa : Nfa Nat}

/-- The states that some states lead to without reading anything.  The edges of each of
them are looked at. -/
def closure (nfa : Nfa Nat) (states : List Nat) : Except Gap NatSet :=
  require (∀ state ∈ (nfa.closure states).elements, state < nfa.size) .index
    (nfa.closure states)

def arcsOn (nfa : Nfa Nat) (set : NatSet) (roster : Roster NatSet) :
    List Nat → Except Gap (List Arc × Roster NatSet)
  | [] => .ok ([], roster)
  | label :: later =>
      (closure nfa (nfa.targetsOn set label)).bind fun reached =>
        let (target, enrolled) := roster.number reached
        (arcsOn nfa set enrolled later).bind fun (arcs, final) =>
          .ok (⟨label, target⟩ :: arcs, final)

/-- The deterministic states of the enrolled sets.  The edges of each member of a set are
looked at, and in the end no set is left over. -/
def expand (nfa : Nfa Nat) (accept count : Nat) (roster : Roster NatSet) (current : Nat) :
    Except Gap (List State) :=
  match count with
  | 0 => require (roster.size ≤ current) .bound []
  | count + 1 =>
      match roster.get? current with
      | none => .ok []
      | some set =>
          (require (∀ state ∈ set.elements, state < nfa.size) .index
            (nfa.labelsFrom set)).bind fun labels =>
            (arcsOn nfa set roster labels.elements).bind fun (arcs, enrolled) =>
              (expand nfa accept count enrolled (current + 1)).bind fun later =>
                .ok (⟨arcs, decide (accept ∈ set)⟩ :: later)

/-- Merge twins until there are none.  The twin that is dropped has to be there, and the
states behind it have a place to move up to. -/
def mergeTwins (states : List State) : Except Gap (List State) :=
  match found : Dfa.firstTwins? states with
  | none => .ok states
  | some (kept, dropped) =>
      have := Dfa.length_merge_lt found
      (require (dropped < states.length) .index (states.eraseIdx dropped)).bind fun remaining =>
        (require (∀ state ∈ remaining, ∀ arc ∈ state.arcs, dropped < arc.target →
          1 ≤ arc.target) .subtraction ()).bind fun _ =>
          mergeTwins (Dfa.merge states kept dropped)
termination_by states.length

def determinize (nfa : Nfa Nat) (fragment : Fragment) : Except Gap (List State) :=
  (closure nfa [fragment.start]).bind fun first =>
    (expand nfa fragment.accept (Nat.pow 2 nfa.size) (Roster.empty.enroll first) 0).bind
      mergeTwins

/-- The deterministic automaton of an expression over labels.  The edges of its
nondeterministic automaton carry the places of terms, and the labels are looked up by
these places. -/
def ofExpr (expression : Expr Nat) : Except Gap (List State) :=
  (addExpr .empty (places expression 0)).bind fun (nfa, fragment) =>
    (relabelEdges expression.terms nfa.edges).bind fun edges =>
      determinize ⟨nfa.size, edges⟩ fragment

theorem closure_eq (closed : nfa.Closed) {states : List Nat}
    (isClosure : nfa.IsClosure (nfa.closure states)) :
    closure nfa states = .ok (nfa.closure states) :=
  require_eq (fun _ member => closed.lt_of_mem isClosure member) _ _

theorem arcsOn_eq (closed : nfa.Closed) (set : NatSet) (roster : Roster NatSet)
    (labels : List Nat) : arcsOn nfa set roster labels = .ok (nfa.arcsOn set roster labels) := by
  induction labels generalizing roster with
  | nil => rfl
  | cons label later inductionHypothesis =>
      simp only [arcsOn, closure_eq closed (closed.isClosure_targetsOn set label), bind_ok,
        inductionHypothesis]
      rfl

theorem expand_eq (closed : nfa.Closed) (accept : Nat) {count current : Nat}
    {roster : Roster NatSet} (areClosures : ∀ item ∈ roster.items, nfa.IsClosure item)
    (enough : Nat.pow 2 nfa.size ≤ current + count) :
    expand nfa accept count roster current = .ok (nfa.expand accept count roster current) := by
  induction count generalizing roster current with
  | zero =>
      have bounded : roster.size ≤ Nat.pow 2 nfa.size :=
        closed.length_le roster.distinct areClosures
      have exhausted : roster.size ≤ current := by omega
      exact require_eq exhausted _ _
  | succ count inductionHypothesis =>
      have enoughLater : Nat.pow 2 nfa.size ≤ current + 1 + count := by omega
      unfold expand Nfa.expand
      cases found : roster.get? current with
      | none => rfl
      | some set =>
          have isClosure := areClosures set (List.mem_of_getElem? found)
          have inRange : ∀ state ∈ set.elements, state < nfa.size :=
            fun _ member => closed.lt_of_mem isClosure member
          obtain ⟨_, grownClosures, _⟩ :=
            Nfa.arcsOn_spec closed set (nfa.labelsFrom set).elements roster areClosures
          simp only [require_eq inRange, bind_ok, arcsOn_eq closed,
            inductionHypothesis grownClosures enoughLater]

theorem mergeTwins_eq (states : List State) :
    mergeTwins states = .ok (Dfa.mergeTwins states) := by
  fun_induction Dfa.mergeTwins states with
  | case1 states noTwins =>
      unfold mergeTwins
      split
      · rfl
      · rename_i found
        cases noTwins.symm.trans found
  | case2 states kept dropped found _ inductionHypothesis =>
      unfold mergeTwins
      split
      · rename_i noTwins
        cases noTwins.symm.trans found
      · rename_i otherKept otherDropped otherFound
        cases found.symm.trans otherFound
        have inRange := (Dfa.firstTwins?_lt found).2
        have canMoveUp : ∀ state ∈ states.eraseIdx dropped, ∀ arc ∈ state.arcs,
            dropped < arc.target → 1 ≤ arc.target :=
          fun _ _ _ _ behind => Nat.lt_of_le_of_lt (Nat.zero_le dropped) behind
        rw [require_eq inRange, bind_ok, require_eq canMoveUp, bind_ok, inductionHypothesis]

theorem determinize_eq (closed : nfa.Closed) {fragment : Fragment}
    (inRange : fragment.start < nfa.size) :
    determinize nfa fragment = .ok (nfa.determinize fragment) := by
  have isClosure : nfa.IsClosure (nfa.closure [fragment.start]) :=
    ⟨[fragment.start], by simpa using inRange, rfl⟩
  have areClosures : ∀ item ∈ (Roster.empty.enroll (nfa.closure [fragment.start])).items,
      nfa.IsClosure item := by
    intro item member
    have isStart : item = nfa.closure [fragment.start] := by
      simpa [Roster.enroll, Roster.empty] using member
    exact isStart ▸ isClosure
  have enough : Nat.pow 2 nfa.size ≤ 0 + Nat.pow 2 nfa.size := by omega
  rw [determinize, closure_eq closed isClosure, bind_ok, expand_eq closed _ areClosures enough,
    bind_ok, mergeTwins_eq]
  rfl

theorem ofExpr_eq (expression : Expr Nat) : ofExpr expression = .ok (Dfa.ofExpr expression) := by
  obtain ⟨closed, inRange, _⟩ := Nfa.ofExpr_spec expression
  have nothing : Relabels expression.terms .empty .empty := ⟨rfl, rfl⟩
  have isPrefix : expression.terms <+: expression.terms.drop 0 := List.prefix_rfl
  obtain ⟨relabels, fragment_eq⟩ := nothing.addExpr isPrefix
  rw [ofExpr, addExpr_eq, bind_ok]
  simp only [relabels.edges_eq, bind_ok, ← relabels.size_eq, ← fragment_eq]
  exact determinize_eq closed inRange

end Subsets

/-! ## Transition tables -/

section Tables

open CompactTable

variable {states : List Transitions} {accepts : List Bool} {state : Nat}

/-- The table of an automaton.  Every state needs a flag, there must not be too many states,
and the row of a state is a stretch of the list of all cells. -/
def encode (states : List Transitions) (accepts : List Bool) : Except Gap CompactTable :=
  (require (states.length = accepts.length) .assertion ()).bind fun _ =>
    (require (states.length < noTransition.toNat) .assertion ()).bind fun _ =>
      require (∀ row < states.length,
        (row + 1) * commonWidth states ≤ states.length * commonWidth states) .index
        (ofStates states accepts)

theorem encode_eq (counted : states.length = accepts.length)
    (few : states.length < noTransition.toNat) :
    encode states accepts = .ok (ofStates states accepts) := by
  have rowsInRange : ∀ row < states.length,
      (row + 1) * commonWidth states ≤ states.length * commonWidth states :=
    fun _ isState => Nat.mul_le_mul_right _ isState
  rw [encode, require_eq counted, bind_ok, require_eq few, bind_ok, require_eq rowsInRange]

/-- The byte that decides about a code, looked up in the list of all cells. -/
def decidingByte (table : CompactTable) (state code : Nat) : Except Gap UInt8 :=
  if code < table.width then
    (get table.cells (state * table.width + code)).bind fun cell =>
      if cell = noTransition then get table.defaults state else .ok cell
  else
    get table.defaults state

def lookup (table : CompactTable) (state code : Nat) : Except Gap (Option Nat) :=
  (decidingByte table state code).bind fun byte =>
    .ok (if byte = noTransition then none else some byte.toNat)

theorem lookup_eq (inRange : state < states.length) (code : Nat) :
    lookup (ofStates states accepts) state code =
      .ok ((ofStates states accepts).lookup state code) := by
  have found : states[state]? = some states[state] := List.getElem?_eq_getElem inRange
  have default_eq : get (ofStates states accepts).defaults state =
      .ok ((ofStates states accepts).defaultAt state) := by
    rw [defaultAt_ofStates found]
    exact get_eq (by simp [ofStates, found])
  have byte_eq : decidingByte (ofStates states accepts) state code =
      .ok ((ofStates states accepts).decidingByte state code) := by
    have width_eq : (ofStates states accepts).width = commonWidth states := rfl
    unfold decidingByte CompactTable.decidingByte
    rw [width_eq]
    by_cases inRow : code < commonWidth states
    · have isCell : (ofStates states accepts).cells[state * commonWidth states + code]? =
          some (cellByte states[state] code) := by
        rw [getElem?_cells_ofStates inRow, found, Option.map_some]
      simp only [if_pos inRow, isCell, get_eq isCell, bind_ok]
      split
      · exact default_eq
      · rfl
    · simp only [if_neg inRow]
      exact default_eq
  rw [lookup, byte_eq, bind_ok]
  rfl

-- A state that the table does not have is a gap, although `CompactTable.lookup` finds nothing.
example : lookup (ofStates [.empty] [true]) 1 0 = .error .index := by
  decide

end Tables

end Checked

end RuleMachine
