import RuleMachine.Proofs.UnbrokenNames
import RuleMachine.Report.Graph

/-!
# Reading graphs back

The text of a graph is read line by line: a line opens the cluster of a rule, names it,
draws a state or draws an arc, and all other lines are passed over.  Quoted attributes are
freed of their escapes: a backslash stands in front of a backslash or a quote, so a quote
without one ends the attribute.  Since no name holds a line break, this gives back all that
the graph draws.
-/

namespace RuleMachine.Graph

open Text

/-! ## What a graph draws -/

/-- A rule as a graph draws it. -/
structure Drawing where
  symbol : Nat
  name : String
  /-- The states, each with its number and whether it is accepting. -/
  states : List (Nat × Bool)
  /-- The arcs, each with its source, its target and the name of its label. -/
  arcs : List (Nat × Nat × String)
  deriving DecidableEq, Repr

/-- What is to be drawn of a rule. -/
def drawingOf (grammar : Grammar) (automaton : RuleAutomaton) : Drawing where
  symbol := automaton.symbol.toNat
  name := automaton.name
  states := automaton.states.zipIdx.map fun entry => (entry.2, entry.1.accepting)
  arcs := automaton.states.zipIdx.flatMap fun entry =>
    entry.1.arcs.map fun arc => (entry.2, arc.target, grammar.labelName arc.label)

/-! ## Reading a line -/

/-- What a line says. -/
inductive Item where
  | cluster (symbol : Nat)
  | name (text : String)
  | state (number : Nat) (accepting : Bool)
  | arc (source target : Nat) (label : String)

/-- The characters behind the given word, if a text begins with it. -/
def behindWord : List Char → List Char → Option (List Char)
  | [], text => some text
  | _ :: _, [] => none
  | expected :: word, character :: text =>
      if expected = character then behindWord word text else none

/-- The number that a text begins with, and the characters behind it. -/
def readNumber (text : List Char) : Option (Nat × List Char) :=
  if text.takeWhile Char.isDigit = [] then none
  else some (Nat.ofDigitChars 10 (text.takeWhile Char.isDigit) 0, text.dropWhile Char.isDigit)

/-- The characters of a quoted attribute up to its closing quote, and those behind it. -/
def readQuoted : List Char → Option (List Char × List Char)
  | [] => none
  | '\x22' :: text => some ([], text)
  | '\\' :: '\\' :: text => (readQuoted text).map fun (value, rest) => ('\\' :: value, rest)
  | '\\' :: '\x22' :: text => (readQuoted text).map fun (value, rest) => ('\x22' :: value, rest)
  | '\\' :: _ => none
  | character :: text => (readQuoted text).map fun (value, rest) => (character :: value, rest)

/-- A quoted attribute, and the characters behind it. -/
def readAttribute (text : List Char) : Option (String × List Char) :=
  (behindWord "\"".toList text).bind fun quoted =>
    (readQuoted quoted).map fun (value, rest) => (String.ofList value, rest)

/-- The number of the state that a node is called after, and the characters behind it. -/
def readNodeName (text : List Char) : Option (Nat × List Char) :=
  (behindWord "S".toList text).bind fun symbol =>
    (readNumber symbol).bind fun (_, separator) =>
      (behindWord "_".toList separator).bind readNumber

/-- Whether a state is drawn as accepting, and the characters behind its shape. -/
def readShape (text : List Char) : Option (Bool × List Char) :=
  match behindWord "doublecircle".toList text with
  | some rest => some (true, rest)
  | none => (behindWord "circle".toList text).map fun rest => (false, rest)

/-- The item, provided that nothing but the given end is left. -/
def endingWith (ending : String) (item : Item) (rest : List Char) : Option Item :=
  if rest = ending.toList then some item else none

/-- The line that opens a cluster. -/
def readCluster (text : List Char) : Option Item :=
  (behindWord "  subgraph cluster_".toList text).bind fun symbol =>
    (readNumber symbol).bind fun (symbol, rest) => endingWith " \x7b" (.cluster symbol) rest

/-- The attributes of a node, where the number of its state is given. -/
def readNode (number : Nat) (text : List Char) : Option Item :=
  (readShape text).bind fun (accepting, label) =>
    (behindWord " label=".toList label).bind fun label =>
      (readAttribute label).bind fun (_, rest) => endingWith "];" (.state number accepting) rest

/-- The target and the attributes of an edge, where the number of its source is given. -/
def readEdge (source : Nat) (text : List Char) : Option Item :=
  (readNodeName text).bind fun (target, label) =>
    (behindWord " [label=".toList label).bind fun label =>
      (readAttribute label).bind fun (label, rest) =>
        endingWith "];" (.arc source target label) rest

/-- A line inside a cluster, without its indentation. -/
def readInner (text : List Char) : Option Item :=
  match behindWord "label=".toList text with
  | some quoted => (readAttribute quoted).bind fun (name, rest) =>
      endingWith ";" (.name name) rest
  | none =>
      (readNodeName text).bind fun (number, rest) =>
        match behindWord " [shape=".toList rest with
        | some shape => readNode number shape
        | none => (behindWord " -> ".toList rest).bind (readEdge number)

/-- What a line says, if it says anything. -/
def readLine (line : List Char) : Option Item :=
  match behindWord "    ".toList line with
  | some inner => readInner inner
  | none => readCluster line

/-! ## Reading a text -/

/-- What the given lines say. -/
def itemsIn (lines : List String) : List Item :=
  lines.filterMap fun line => readLine line.toList

/-- A rule of which nothing is known yet. -/
def blank : Drawing where
  symbol := 0
  name := ""
  states := []
  arcs := []

/-- Put an item in front of others: it belongs to the rule that is open, and a cluster
closes this rule. -/
def addItem (item : Item) (others : Drawing × List Drawing) : Drawing × List Drawing :=
  match item with
  | .cluster symbol => (blank, { others.1 with symbol } :: others.2)
  | .name name => ({ others.1 with name }, others.2)
  | .state number accepting =>
      ({ others.1 with states := (number, accepting) :: others.1.states }, others.2)
  | .arc source target label =>
      ({ others.1 with arcs := (source, target, label) :: others.1.arcs }, others.2)

/-- The rules that items are about. -/
def collect (items : List Item) : List Drawing :=
  (items.foldr addItem (blank, [])).2

/-- The lines of a text. -/
def linesOf (text : String) : List String :=
  (text.toList.splitOn '\n').map String.ofList

/-- The rules that a text draws. -/
def decode (text : String) : List Drawing :=
  collect (itemsIn (linesOf text))

/-! ## Parts of a line -/

theorem behindWord_append (word rest : List Char) : behindWord word (word ++ rest) = some rest := by
  induction word with
  | nil => rfl
  | cons expected word inductionHypothesis =>
      rw [List.cons_append, behindWord, if_pos rfl, inductionHypothesis]

/-- A number is read up to the first character that is no digit. -/
theorem readNumber_append (number : Nat) {rest : List Char}
    (stops : rest.head?.any Char.isDigit = false) :
    readNumber ((toString number).toList ++ rest) = some (number, rest) := by
  have digits_eq : (toString number).toList = Nat.toDigits 10 number := String.toList_ofList
  have areDigits : ∀ character ∈ Nat.toDigits 10 number, character.isDigit = true :=
    fun _ => Nat.isDigit_of_mem_toDigits (by decide) (by decide)
  have noneBehind : rest.takeWhile Char.isDigit = [] ∧ rest.dropWhile Char.isDigit = rest := by
    cases rest with
    | nil => exact ⟨rfl, rfl⟩
    | cons character later =>
        have notDigit : character.isDigit = false := stops
        simp [notDigit]
  have taken : (Nat.toDigits 10 number ++ rest).takeWhile Char.isDigit =
      Nat.toDigits 10 number := by
    rw [List.takeWhile_append_of_pos areDigits, noneBehind.1, List.append_nil]
  have left : (Nat.toDigits 10 number ++ rest).dropWhile Char.isDigit = rest := by
    rw [List.dropWhile_append_of_pos areDigits, noneBehind.2]
  rw [digits_eq, readNumber, taken, left, if_neg Nat.toDigits_ne_nil,
    Nat.ofDigitChars_toDigits (by decide) (by decide)]

theorem readNumber_symbol_append (symbol : SymbolId) {rest : List Char}
    (stops : rest.head?.any Char.isDigit = false) :
    readNumber ((toString symbol).toList ++ rest) = some (symbol.toNat, rest) :=
  readNumber_append symbol.toNat stops

/-- What becomes of one character inside a quoted attribute. -/
def escapeChar : Char → List Char
  | '\\' => ['\\', '\\']
  | '\x22' => ['\\', '\x22']
  | character => [character]

/-- Doubling backslashes adds no quotes, and backslashes in front of quotes are put there
afterwards; so both replacements together escape each character on its own. -/
theorem escape_eq_flatMap (text : List Char) : escape text = text.flatMap escapeChar := by
  unfold escape replaceChar
  rw [List.flatMap_assoc]
  congr 1
  funext character
  by_cases isBackslash : character = '\\'
  · subst isBackslash
    decide
  · by_cases isQuote : character = '\x22'
    · subst isQuote
      decide
    · simp [escapeChar, isBackslash, isQuote]

/-- An attribute is read up to the quote behind it, whatever it holds. -/
theorem readQuoted_flatMap (value rest : List Char) :
    readQuoted (value.flatMap escapeChar ++ '\x22' :: rest) = some (value, rest) := by
  induction value with
  | nil => rfl
  | cons character later inductionHypothesis =>
      rw [List.flatMap_cons, List.append_assoc]
      -- A backslash always stands in front of the character that it escapes, so a character
      -- that needs no escape is never taken for an escaped one.
      by_cases isBackslash : character = '\\'
      · subst isBackslash
        simp [escapeChar, readQuoted, inductionHypothesis]
      · by_cases isQuote : character = '\x22'
        · subst isQuote
          simp [escapeChar, readQuoted, inductionHypothesis]
        · simp [escapeChar, readQuoted, isBackslash, inductionHypothesis]

theorem readAttribute_append (value : String) (rest : List Char) :
    readAttribute ((quotedAttribute value).toList ++ rest) = some (value, rest) := by
  have quotedRead : readQuoted (value.toList.flatMap escapeChar ++ ("\"".toList ++ rest)) =
      some (value.toList, rest) := readQuoted_flatMap value.toList rest
  simp only [quotedAttribute, escape_eq_flatMap, String.toList_append, String.toList_ofList,
    List.append_assoc, readAttribute, behindWord_append, Option.bind_some, quotedRead, Option.map_some,
    String.ofList_toList]

theorem readNodeName_append (symbol : SymbolId) (number : Nat) {rest : List Char}
    (stops : rest.head?.any Char.isDigit = false) :
    readNodeName ((nodeName symbol number).toList ++ rest) = some (number, rest) := by
  have symbolStops (rest : List Char) : ("_".toList ++ rest).head?.any Char.isDigit = false := rfl
  simp only [nodeName, String.toList_append, List.append_assoc, readNodeName, behindWord_append,
    Option.bind_some, readNumber_symbol_append symbol (symbolStops _),
    readNumber_append number stops]

theorem readShape_append (accepting : Bool) (rest : List Char) :
    readShape ((if accepting then "doublecircle" else "circle").toList ++ rest) =
      some (accepting, rest) := by
  cases accepting with
  | true =>
      rw [readShape, if_pos rfl, behindWord_append]
  | false =>
      have notDouble : behindWord "doublecircle".toList ("circle".toList ++ rest) = none := rfl
      rw [readShape, if_neg Bool.false_ne_true, notDouble, behindWord_append]
      rfl

/-! ## Lines -/

theorem readLine_cluster (symbol : SymbolId) :
    readLine ("  subgraph cluster_" ++ toString symbol ++ " \x7b").toList =
      some (.cluster symbol.toNat) := by
  have stops : " \x7b".toList.head?.any Char.isDigit = false := rfl
  have notIndented (rest : List Char) :
      behindWord "    ".toList ("  subgraph cluster_".toList ++ rest) = none := rfl
  simp only [String.toList_append, List.append_assoc, readLine, notIndented, readCluster,
    behindWord_append, Option.bind_some, readNumber_symbol_append symbol stops, endingWith, if_true]

theorem readLine_name (name : String) :
    readLine ("    label=" ++ quotedAttribute name ++ ";").toList = some (.name name) := by
  have indented : "    label=".toList = "    ".toList ++ "label=".toList := rfl
  simp only [String.toList_append, List.append_assoc, readLine, indented, behindWord_append,
    readInner, readAttribute_append, Option.bind_some, endingWith, if_true]

/-- The name of a node is not taken for an attribute. -/
theorem behindWord_label_nodeName (symbol : SymbolId) (number : Nat) (rest : List Char) :
    behindWord "label=".toList ((nodeName symbol number).toList ++ rest) = none := by
  simp only [nodeName, String.toList_append, List.append_assoc]
  rfl

theorem readLine_nodeLine (symbol : SymbolId) (index : Nat) (state : State) :
    readLine (nodeLine symbol index state).toList = some (.state index state.accepting) := by
  have stops (rest : List Char) :
      (" [shape=".toList ++ rest).head?.any Char.isDigit = false := rfl
  simp only [nodeLine, String.toList_append, List.append_assoc, readLine, behindWord_append,
    readInner, behindWord_label_nodeName, readNodeName_append symbol index (stops _),
    Option.bind_some, readNode, readShape_append, readAttribute_append, endingWith, if_true]

theorem readLine_edgeLine (grammar : Grammar) (symbol : SymbolId) (index : Nat) (arc : Arc) :
    readLine (edgeLine grammar symbol index arc).toList =
      some (.arc index arc.target (grammar.labelName arc.label)) := by
  have sourceStops (rest : List Char) :
      (" -> ".toList ++ rest).head?.any Char.isDigit = false := rfl
  have targetStops (rest : List Char) :
      (" [label=".toList ++ rest).head?.any Char.isDigit = false := rfl
  have notShape (rest : List Char) :
      behindWord " [shape=".toList (" -> ".toList ++ rest) = none := rfl
  simp only [edgeLine, String.toList_append, List.append_assoc, readLine, behindWord_append,
    readInner, behindWord_label_nodeName, readNodeName_append symbol index (sourceStops _),
    Option.bind_some, notShape, readEdge, readNodeName_append symbol arc.target (targetStops _),
    readAttribute_append, endingWith, if_true]

/-! ## Rules -/

/-- The items about a rule, in the order in which they are drawn. -/
def Drawing.items (drawing : Drawing) : List Item :=
  [.cluster drawing.symbol, .name drawing.name] ++
  drawing.states.map (fun (number, accepting) => .state number accepting) ++
  drawing.arcs.map (fun (source, target, label) => .arc source target label)

theorem itemsIn_append (earlier later : List String) :
    itemsIn (earlier ++ later) = itemsIn earlier ++ itemsIn later :=
  List.filterMap_append

theorem itemsIn_flatMap {Entry : Type} (lines : Entry → List String) (entries : List Entry) :
    itemsIn (entries.flatMap lines) = entries.flatMap fun entry => itemsIn (lines entry) :=
  List.filterMap_flatMap

theorem itemsIn_map {Entry : Type} {line : Entry → String} {item : Entry → Item}
    (read : ∀ entry, readLine (line entry).toList = some (item entry)) (entries : List Entry) :
    itemsIn (entries.map line) = entries.map item := by
  have read_eq : (fun entry => readLine (line entry).toList) = some ∘ item := funext read
  rw [itemsIn, List.filterMap_map, Function.comp_def, read_eq, List.filterMap_eq_map]

/-- The lines of a cluster say what is to be drawn of the rule, and nothing else. -/
theorem itemsIn_clusterLines (grammar : Grammar) (automaton : RuleAutomaton) :
    itemsIn (clusterLines grammar automaton) = (drawingOf grammar automaton).items := by
  have headRead : itemsIn ["  subgraph cluster_" ++ toString automaton.symbol ++ " \x7b",
      "    label=" ++ quotedAttribute automaton.name ++ ";"] =
        [.cluster automaton.symbol.toNat, .name automaton.name] := by
    simp only [itemsIn, List.filterMap_cons, List.filterMap_nil, readLine_cluster, readLine_name]
  have statesRead := itemsIn_map
    (fun entry : State × Nat => readLine_nodeLine automaton.symbol entry.2 entry.1)
    automaton.states.zipIdx
  have arcsRead (entry : State × Nat) := itemsIn_map
    (readLine_edgeLine grammar automaton.symbol entry.2) entry.1.arcs
  have lastRead : itemsIn ["  \x7d"] = [] := rfl
  simp only [clusterLines, itemsIn_append, itemsIn_flatMap, headRead, statesRead, arcsRead,
    lastRead, List.append_nil, Drawing.items, drawingOf, List.map_map, List.map_flatMap,
    Function.comp_def]

theorem itemsIn_lines (grammar : Grammar) (automata : List RuleAutomaton) :
    itemsIn (lines grammar automata) =
      (automata.map (drawingOf grammar)).flatMap Drawing.items := by
  have headRead : itemsIn ["digraph rules \x7b", "  rankdir=LR;"] = [] := rfl
  have lastRead : itemsIn ["\x7d"] = [] := rfl
  simp only [lines, itemsIn_append, itemsIn_flatMap, headRead, itemsIn_clusterLines, lastRead,
    List.nil_append, List.append_nil, List.flatMap_map]

theorem foldr_addItem_states (states : List (Nat × Bool)) (drawing : Drawing)
    (later : List Drawing) :
    (states.map fun (number, accepting) => Item.state number accepting).foldr addItem
      (drawing, later) = ({ drawing with states := states ++ drawing.states }, later) := by
  induction states with
  | nil => rfl
  | cons state others inductionHypothesis =>
      rw [List.map_cons, List.foldr_cons, inductionHypothesis]
      rfl

theorem foldr_addItem_arcs (arcs : List (Nat × Nat × String)) (drawing : Drawing)
    (later : List Drawing) :
    (arcs.map fun (source, target, label) => Item.arc source target label).foldr addItem
      (drawing, later) = ({ drawing with arcs := arcs ++ drawing.arcs }, later) := by
  induction arcs with
  | nil => rfl
  | cons arc others inductionHypothesis =>
      rw [List.map_cons, List.foldr_cons, inductionHypothesis]
      rfl

/-- The items about a rule make it the first of the rules. -/
theorem foldr_addItem_items (drawing : Drawing) (later : List Drawing) :
    drawing.items.foldr addItem (blank, later) = (blank, drawing :: later) := by
  -- Items are added from the last one on, so the cluster closes a rule that has all the rest.
  rw [Drawing.items, List.append_assoc, List.foldr_append, List.foldr_append,
    foldr_addItem_arcs, foldr_addItem_states]
  simp only [blank, List.append_nil, List.foldr_cons, List.foldr_nil, addItem]

theorem collect_flatMap_items (drawings : List Drawing) :
    collect (drawings.flatMap Drawing.items) = drawings := by
  have gathered : (drawings.flatMap Drawing.items).foldr addItem (blank, []) =
      (blank, drawings) := by
    induction drawings with
    | nil => rfl
    | cons drawing others inductionHypothesis =>
        rw [List.flatMap_cons, List.foldr_append, inductionHypothesis, foldr_addItem_items]
  rw [collect, gathered]

/-! ## Where lines end -/

theorem isUnbroken_quotedAttribute {value : String} (unbroken : IsUnbroken value) :
    IsUnbroken (quotedAttribute value) := by
  have quoteUnbroken : IsUnbroken "\"" := by decide
  refine isUnbroken_append_iff.mpr
    ⟨isUnbroken_append_iff.mpr ⟨quoteUnbroken, ?_⟩, quoteUnbroken⟩
  intro isBreak
  rw [String.toList_ofList, escape_eq_flatMap] at isBreak
  obtain ⟨character, isCharacter, isEscaped⟩ := List.mem_flatMap.mp isBreak
  unfold escapeChar at isEscaped
  split at isEscaped
  · exact absurd isEscaped (by decide)
  · exact absurd isEscaped (by decide)
  · rw [← List.mem_singleton.mp isEscaped] at isCharacter
    exact unbroken isCharacter

theorem isUnbroken_nodeName (symbol : SymbolId) (state : Nat) :
    IsUnbroken (nodeName symbol state) := by
  have opening : IsUnbroken "S" := by decide
  have separator : IsUnbroken "_" := by decide
  have symbolUnbroken : IsUnbroken (toString symbol) := isUnbroken_toString symbol.toNat
  simp only [nodeName, isUnbroken_append_iff, opening, symbolUnbroken, separator,
    isUnbroken_toString, and_self]

theorem isUnbroken_nodeLine (symbol : SymbolId) (index : Nat) (state : State) :
    IsUnbroken (nodeLine symbol index state) := by
  have indentation : IsUnbroken "    " := by decide
  have beforeShape : IsUnbroken " [shape=" := by decide
  have shape : IsUnbroken (if state.accepting then "doublecircle" else "circle") := by
    split <;> decide
  have beforeLabel : IsUnbroken " label=" := by decide
  have closing : IsUnbroken "];" := by decide
  have label := isUnbroken_quotedAttribute (isUnbroken_toString index)
  simp only [nodeLine, isUnbroken_append_iff, indentation, isUnbroken_nodeName, beforeShape,
    shape, beforeLabel, label, closing, and_self]

section Unbroken

variable {grammar : Grammar} (labelsUnbroken : ∀ label, IsUnbroken (grammar.labelName label))

include labelsUnbroken

theorem isUnbroken_edgeLine (symbol : SymbolId) (index : Nat) (arc : Arc) :
    IsUnbroken (edgeLine grammar symbol index arc) := by
  have indentation : IsUnbroken "    " := by decide
  have arrow : IsUnbroken " -> " := by decide
  have beforeLabel : IsUnbroken " [label=" := by decide
  have closing : IsUnbroken "];" := by decide
  have label := isUnbroken_quotedAttribute (labelsUnbroken arc.label)
  simp only [edgeLine, isUnbroken_append_iff, indentation, isUnbroken_nodeName, arrow,
    beforeLabel, label, closing, and_self]

theorem isUnbroken_clusterLines {automaton : RuleAutomaton}
    (nameUnbroken : IsUnbroken automaton.name) :
    ∀ line ∈ clusterLines grammar automaton, IsUnbroken line := by
  have symbolUnbroken : IsUnbroken (toString automaton.symbol) :=
    isUnbroken_toString automaton.symbol.toNat
  have opening : IsUnbroken "  subgraph cluster_" := by decide
  have brace : IsUnbroken " \x7b" := by decide
  have label : IsUnbroken "    label=" := by decide
  have semicolon : IsUnbroken ";" := by decide
  have closing : IsUnbroken "  \x7d" := by decide
  simp only [clusterLines, List.forall_mem_append, List.forall_mem_cons, isUnbroken_append_iff,
    List.forall_mem_map, List.forall_mem_flatMap, opening, symbolUnbroken, brace, label,
    isUnbroken_quotedAttribute nameUnbroken, semicolon, isUnbroken_nodeLine,
    isUnbroken_edgeLine labelsUnbroken, closing, List.not_mem_nil, false_implies, implies_true,
    and_self]

theorem isUnbroken_lines {automata : List RuleAutomaton}
    (namesUnbroken : ∀ automaton ∈ automata, IsUnbroken automaton.name) :
    ∀ line ∈ lines grammar automata, IsUnbroken line := by
  have opening : ∀ line ∈ ["digraph rules \x7b", "  rankdir=LR;"], IsUnbroken line := by decide
  have closing : ∀ line ∈ ["\x7d"], IsUnbroken line := by decide
  have clusters : ∀ line ∈ automata.flatMap (clusterLines grammar), IsUnbroken line :=
    List.forall_mem_flatMap.mpr fun automaton isAutomaton =>
      isUnbroken_clusterLines labelsUnbroken (namesUnbroken automaton isAutomaton)
  exact List.forall_mem_append.mpr ⟨List.forall_mem_append.mpr ⟨opening, clusters⟩, closing⟩

/-- The lines of a graph can be told apart. -/
theorem linesOf_render {automata : List RuleAutomaton}
    (namesUnbroken : ∀ automaton ∈ automata, IsUnbroken automaton.name) :
    linesOf (render grammar automata) = lines grammar automata := by
  have unbroken := isUnbroken_lines labelsUnbroken namesUnbroken
  have separator : "\n".toList = ['\n'] := rfl
  have notEmpty : (lines grammar automata).map String.toList ≠ [] := by simp [lines]
  rw [linesOf, render, String.toList_intercalate, separator,
    List.splitOn_intercalate '\n' (List.forall_mem_map.mpr unbroken) notEmpty, List.map_map]
  simp only [Function.comp_def, String.ofList_toList, List.map_id']

theorem decode_render {automata : List RuleAutomaton}
    (namesUnbroken : ∀ automaton ∈ automata, IsUnbroken automaton.name) :
    decode (render grammar automata) = automata.map (drawingOf grammar) := by
  rw [decode, linesOf_render labelsUnbroken namesUnbroken, itemsIn_lines, collect_flatMap_items]

end Unbroken

/-! ## Selections -/

/-- Rules of a grammar that was compiled from text against the vocabulary of Python. -/
structure IsSelection (grammar : Grammar) (selected : List RuleAutomaton) : Prop where
  compiled : ∃ source start policy, Grammar.compile source .python start policy = .ok grammar
  inGrammar : ∀ automaton ∈ selected, automaton ∈ grammar.automata

theorem IsSelection.decode_render {grammar : Grammar} {selected : List RuleAutomaton}
    (isSelection : IsSelection grammar selected) :
    decode (render grammar selected) = selected.map (drawingOf grammar) := by
  obtain ⟨source, start, policy, compiled⟩ := isSelection.compiled
  obtain ⟨namesUnbroken, labelsUnbroken⟩ :=
    Grammar.isUnbroken_of_compile Vocabulary.isUnbroken_python compiled
  exact Graph.decode_render labelsUnbroken fun automaton isSelected =>
    namesUnbroken automaton (isSelection.inGrammar automaton isSelected)

/-- The graph of a selection gives back, rule by rule, its symbol, its name, its states and
its arcs, whatever stands in the literals.  So selections that differ in these have different
graphs. -/
theorem render_decodes_and_separates {grammar : Grammar} {selected : List RuleAutomaton}
    (isSelection : IsSelection grammar selected) :
    decode (render grammar selected) = selected.map (drawingOf grammar) ∧
      ∀ otherGrammar other, IsSelection otherGrammar other →
        other.map (drawingOf otherGrammar) ≠ selected.map (drawingOf grammar) →
          render otherGrammar other ≠ render grammar selected := by
  refine ⟨isSelection.decode_render, ?_⟩
  intro otherGrammar other otherIsSelection different sameText
  apply different
  rw [← otherIsSelection.decode_render, sameText, isSelection.decode_render]

/-- A literal that looks like the end of its line is read back as it is. -/
theorem render_decodes_and_separates_quotedLiteral :
    ∃ grammar, IsSelection grammar grammar.automata ∧
      decode (render grammar grammar.automata) =
        [⟨256, "a", [(0, false), (1, false), (2, true)], [(0, 1, "'x\"];'"), (1, 2, "b")]⟩,
          ⟨257, "b", [(0, false), (1, true)], [(0, 1, "NAME")]⟩] ∧
      render grammar [] ≠ render grammar grammar.automata := by
  have drawn : (Grammar.compile "a: 'x\"];' b\nb: NAME\n" .python none .reject).toOption.map
      (fun grammar => grammar.automata.map (drawingOf grammar)) =
        some [⟨256, "a", [(0, false), (1, false), (2, true)], [(0, 1, "'x\"];'"), (1, 2, "b")]⟩,
          ⟨257, "b", [(0, false), (1, true)], [(0, 1, "NAME")]⟩] := by
    decide +kernel
  obtain ⟨grammar, isGrammar, drawings_eq⟩ := Option.map_eq_some_iff.mp drawn
  have isCompiled : ∃ source start policy,
      Grammar.compile source .python start policy = .ok grammar :=
    ⟨_, _, _, Grammar.eq_ok_of_toOption isGrammar⟩
  have isSelection : IsSelection grammar grammar.automata := ⟨isCompiled, fun _ => id⟩
  obtain ⟨decoded, differs⟩ := render_decodes_and_separates isSelection
  refine ⟨grammar, isSelection, decoded.trans drawings_eq, ?_⟩
  refine differs grammar [] ⟨isCompiled, List.forall_mem_nil _⟩ ?_
  rw [drawings_eq]
  nofun

end RuleMachine.Graph
