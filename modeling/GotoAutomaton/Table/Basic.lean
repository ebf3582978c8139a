import GotoAutomaton.Data.FirstSeen
import GotoAutomaton.Data.OrderedMap
import GotoAutomaton.State.Registry
import GotoAutomaton.Transition

/-!
# Transition tables

A table holds the transitions of an automaton in the order they were inserted, and indexes them
twice: each origin has a row, and a row knows both the positions of its transitions and the
destination on each of its symbols.  This module has the table, its constructors, everything that
can be read from it and the one step by which it grows; `GotoAutomaton.Table.Insert` decides when
that step is taken.

Main statement: what a look-up finds after a step (`lookup_push`).
-/

namespace GotoAutomaton

/-- The transitions out of one state. -/
structure Row (σ : Type) where
  /-- Positions among the transitions of the table, in insertion order. -/
  order : Array Nat
  /-- The destination on each symbol. -/
  targets : OrderedMap σ StateId

namespace Row

variable {σ : Type}

def empty : Row σ :=
  ⟨#[], .empty⟩

/-- Records that the transition at a position leads to a destination on a symbol. -/
def add [DecidableEq σ] (row : Row σ) (position : Nat) (symbol : σ) (destination : StateId) :
    Row σ :=
  ⟨row.order.push position, row.targets.insert symbol destination⟩

end Row

/-- The settings with which a table is made. -/
structure TableConfig where
  /-- Whether transitions with states of other automata are rejected. -/
  checkOwnership : Bool
  /-- The number of transitions expected; it has no bearing on what the table does. -/
  initialCapacity : Nat
  deriving DecidableEq

namespace TableConfig

def defaultCheckOwnership : Bool :=
  true

/-- Ownership is checked, and no number of transitions is expected. -/
def default : TableConfig :=
  ⟨defaultCheckOwnership, 0⟩

end TableConfig

/-- A deterministic transition function with its index. -/
structure Table (σ : Type) where
  transitions : Array (Transition σ)
  rows : OrderedMap StateId (Row σ)
  /-- The automaton to which both ends of every transition must belong, if any. -/
  owner : Option Tag
  /-- A frozen table takes no further transition. -/
  frozen : Bool

namespace Table

variable {σ : Type}

/-- An open table without transitions. -/
def empty (owner : Option Tag) : Table σ :=
  ⟨#[], .empty, owner, false⟩

/-- An open table that takes states of any automaton. -/
def unowned : Table σ :=
  empty none

/-- An open table that takes states of one automaton only. -/
def ownedBy (r : Registry) : Table σ :=
  empty (some r.tag)

/-- An open table that belongs to a registry's automaton if the settings ask for it. -/
def withConfig (r : Registry) (c : TableConfig) : Table σ :=
  empty (if c.checkOwnership then some r.tag else none)

def size (T : Table σ) : Nat :=
  T.transitions.size

/-- The transitions in insertion order. -/
def toList (T : Table σ) : List (Transition σ) :=
  T.transitions.toList

/-- The transitions out of a state, in insertion order. -/
def transitionsFrom (T : Table σ) (x : StateId) : List (Transition σ) :=
  match T.rows.get? x with
  | none => []
  | some row => row.order.toList.filterMap fun i => T.transitions[i]?

/-- The symbols on which a state has a transition, in insertion order. -/
def symbolsFrom (T : Table σ) (x : StateId) : List σ :=
  (T.transitionsFrom x).map Transition.symbol

/-- The distinct origins, in the order they were first seen. -/
def origins (T : Table σ) : List StateId :=
  distinct (T.toList.map Transition.origin)

variable [DecidableEq σ]

/-- The state to which a state goes on a symbol. -/
def lookup (T : Table σ) (x : StateId) (a : σ) : Option StateId :=
  (T.rows.get? x).bind fun row => row.targets.get? a

/-- Whether the table has a transition with this origin, symbol and destination. -/
def contains (T : Table σ) (t : Transition σ) : Bool :=
  decide (T.lookup t.origin t.symbol = some t.destination)

/-- The state to which a state goes on the symbols of a word, one after the other. -/
def follow (T : Table σ) (x : StateId) : List σ → Option StateId
  | [] => some x
  | a :: w => (T.lookup x a).bind fun y => T.follow y w

/-- Puts a transition last and enters it in the row of its origin. -/
def push (T : Table σ) (t : Transition σ) : Table σ :=
  let row := (T.rows.get? t.origin).getD .empty
  { T with
    transitions := T.transitions.push t
    rows := T.rows.insert t.origin (row.add T.size t.symbol t.destination) }

@[simp] theorem toList_push
    (T : Table σ)
    (t : Transition σ) :
    (T.push t).toList = T.toList ++ [t] := by
  simp [push, toList]

theorem lookup_push
    (T : Table σ)
    (t : Transition σ)
    (x : StateId)
    (a : σ) :
    (T.push t).lookup x a =
      if t.origin = x ∧ t.symbol = a then some t.destination else T.lookup x a := by
  by_cases hx : t.origin = x
  · subst hx
    cases hrow : T.rows.get? t.origin with
    | none =>
        by_cases ha : t.symbol = a <;>
          simp [push, lookup, OrderedMap.get?_insert, Row.add, Row.empty, hrow, ha]
    | some row =>
        by_cases ha : t.symbol = a <;>
          simp [push, lookup, OrderedMap.get?_insert, Row.add, hrow, ha]
  · simp [push, lookup, OrderedMap.get?_insert, hx]

/-- A heading with the status and the number of transitions, then one transition a line. -/
def text [Symbol σ] (T : Table σ) : String :=
  "TransitionTable (" ++ (if T.frozen then "frozen" else "open") ++ ", " ++ T.size.repr ++
    " entries):\n" ++ String.join (T.toList.map fun t => "  " ++ t.text ++ "\n")

@[simp] theorem lookup_empty
    (owner : Option Tag)
    (x : StateId)
    (a : σ) :
    (empty owner : Table σ).lookup x a = none := by
  rfl

@[simp] theorem follow_nil (T : Table σ) (x : StateId) : T.follow x [] = some x := by
  rfl

end Table

end GotoAutomaton
