import RuleMachine.Dictionary

/-!
# Compact transition tables

A transition table stores the targets of a deterministic automaton as bytes.
Every state has a row with one cell for each code below the width of the table
and, beside the row, a target for all codes that the state does not mention.
The rows stand one after the other in a single list, so a cell is found by the
width of the rows before it.
The byte `255` stands for "no transition", so a table has at most 254 states.
The bytes of all rows together are counted in 63 bits.
-/

namespace RuleMachine

/-- What a transition is taken on: one code, or any code not mentioned. -/
inductive TransitionKey where
  | code (value : Nat)
  | otherwise
  deriving DecidableEq, Repr

/-- The transitions that leave one state. -/
abbrev Transitions := Dictionary TransitionKey Nat

/-- A deterministic automaton with its targets stored as bytes. -/
structure CompactTable where
  /-- The number of cells in a row: one more than the largest code mentioned. -/
  width : Nat
  /-- All cells, row after row, and in a row in the order of their codes. -/
  cells : List UInt8
  /-- The target of each state for the codes beyond its row and its empty cells. -/
  defaults : List UInt8
  /-- Whether each state accepts. -/
  accepts : List Bool
  deriving DecidableEq, Repr

namespace CompactTable

/-- Why a table cannot be built or read. -/
inductive Fault where
  /-- The number of accepting flags differs from the number of states. -/
  | flagCount
  /-- There are more states than a byte can address. -/
  | tooManyStates (count : Nat)
  /-- The rows have more cells than can be counted. -/
  | tooManyCells (count : Nat)
  /-- A state was asked for that the table does not have. -/
  | noSuchState (state : Nat)
  deriving DecidableEq, Repr

/-- The text of a fault that has one. -/
def Fault.message? : Fault → Option String
  | .flagCount => none
  | .tooManyStates count => some s!"too many states for a compact table: {count}"
  | .tooManyCells _ => none
  | .noSuchState _ => none

/-- The byte that stands for "no transition". -/
def noTransition : UInt8 := 255

/-- The largest number of cells that a table may have. -/
def maxCells : Nat := 9223372036854775807

/-- The byte of an optional target; only the low eight bits are kept. -/
def targetByte (target : Option Nat) : UInt8 :=
  match target with
  | none => noTransition
  | some state => UInt8.ofNat state

/-- One more than the largest code that the transitions of a state mention. -/
def widthOf (transitions : Transitions) : Nat :=
  transitions.entries.foldl
    (fun width entry =>
      match entry.1 with
      | .code value => max width (value + 1)
      | .otherwise => width)
    0

/-- One more than the largest code mentioned anywhere. -/
def commonWidth (states : List Transitions) : Nat :=
  states.foldl (fun width transitions => max width (widthOf transitions)) 0

/-- The byte for the codes that a state does not mention. -/
def defaultByte (transitions : Transitions) : UInt8 :=
  targetByte (transitions.get? .otherwise)

/-- The byte of one code: its own target, or else the target of all other codes. -/
def cellByte (transitions : Transitions) (code : Nat) : UInt8 :=
  match transitions.get? (.code code) with
  | some target => targetByte (some target)
  | none => defaultByte transitions

/-- The table of an automaton whose size has been checked. -/
def ofStates (states : List Transitions) (accepts : List Bool) : CompactTable :=
  let width := commonWidth states
  { width
    cells := states.flatMap fun transitions => (List.range width).map (cellByte transitions)
    defaults := states.map defaultByte
    accepts }

/-- The table of an automaton.  Every state needs a flag; the flags are counted before the
states, and the states before the cells. -/
def encode (states : List Transitions) (accepts : List Bool) : Except Fault CompactTable :=
  if states.length ≠ accepts.length then
    .error .flagCount
  else if noTransition.toNat ≤ states.length then
    .error (.tooManyStates states.length)
  else if maxCells < states.length * commonWidth states then
    .error (.tooManyCells (states.length * commonWidth states))
  else
    .ok (ofStates states accepts)

/-- The number of states. -/
def stateCount (table : CompactTable) : Nat :=
  table.accepts.length

/-- The byte beside the row of a state. -/
def defaultAt (table : CompactTable) (state : Nat) : UInt8 :=
  table.defaults[state]?.getD noTransition

/-- The byte that decides about a code: its cell, or the byte beside the row when the
code lies beyond the row or its cell is empty. -/
def decidingByte (table : CompactTable) (state code : Nat) : UInt8 :=
  if code < table.width then
    match table.cells[state * table.width + code]? with
    | none => table.defaultAt state
    | some cell => if cell = noTransition then table.defaultAt state else cell
  else
    table.defaultAt state

/-- The target of a code; a state outside the table has none. -/
def lookup (table : CompactTable) (state code : Nat) : Option Nat :=
  let byte := table.decidingByte state code
  if byte = noTransition then none else some byte.toNat

/-- Whether a state accepts; a state outside the table does not. -/
def isAccepting (table : CompactTable) (state : Nat) : Bool :=
  table.accepts[state]?.getD false

/-- The target of a code, provided that the state exists. -/
def transition (table : CompactTable) (state code : Nat) : Except Fault (Option Nat) :=
  if state < table.stateCount then
    .ok (table.lookup state code)
  else
    .error (.noSuchState state)

/-- Whether a state accepts, provided that it exists. -/
def acceptance (table : CompactTable) (state : Nat) : Except Fault Bool :=
  match table.accepts[state]? with
  | some flag => .ok flag
  | none => .error (.noSuchState state)

/-- Read on from a state after `position` bytes, where `longest` is the length of the
longest accepted beginning so far. -/
def recognizeFrom
    (table : CompactTable) (state position : Nat) (longest : Option Nat) :
    List UInt8 → Except Fault (Option Nat)
  | [] => .ok longest
  | byte :: later =>
      match table.lookup state byte.toNat with
      | none => .ok longest
      | some next =>
          match table.acceptance next with
          | .error fault => .error fault
          | .ok true => table.recognizeFrom next (position + 1) (some (position + 1)) later
          | .ok false => table.recognizeFrom next (position + 1) longest later

/-- The length of the longest beginning of the input that the automaton accepts. -/
def recognize (table : CompactTable) (input : List UInt8) : Except Fault (Option Nat) :=
  match table.acceptance 0 with
  | .error fault => .error fault
  | .ok true => table.recognizeFrom 0 0 (some 0) input
  | .ok false => table.recognizeFrom 0 0 none input

/-- A list of texts between brackets. -/
private def bracketed (items : List String) : String :=
  "[" ++ String.intercalate ", " items ++ "]"

private def byteList (bytes : List UInt8) : String :=
  bracketed (bytes.map fun byte => toString byte.toNat)

private def flagText (flag : Bool) : String :=
  if flag then "true" else "false"

/-- The cells of each state. -/
def rows (table : CompactTable) : List (List UInt8) :=
  (List.range table.stateCount).map fun state =>
    (table.cells.drop (state * table.width)).take table.width

/-- The whole table as one line of text. -/
def describe (table : CompactTable) : String :=
  "CompactDfa \x7b max_char: " ++ toString table.width ++
    ", states: " ++ bracketed (table.rows.map byteList) ++
    ", defaults: " ++ byteList table.defaults ++
    ", accepts: " ++ bracketed (table.accepts.map flagText) ++ " \x7d"

end CompactTable

end RuleMachine
