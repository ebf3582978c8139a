import GotoAutomaton.Json.Read
import GotoAutomaton.State.Basic
import GotoAutomaton.Transition

/-!
# JSON forms of identifiers, states, symbols and transitions

A record is written as an object with one field for each of its parts.  It is read from an object
in which every part occurs exactly once, in any order and among any other fields, or from the array
of exactly its parts.  The label of a state may be left out of an object, but not out of an array.

Beside the readers stand the forms themselves: `HasForm` says which values stand for a thing without
reading them.
-/

namespace GotoAutomaton

namespace Tag

/-- A tag is written as its number. -/
def toJson (k : Tag) : Json.Value :=
  .nat k.number.toNat

/-- A tag is read from digits that stand for a 32-bit word. -/
def ofJson? : Json.Value → Option Tag
  | .nat n => if n < UInt32.size then some ⟨UInt32.ofNat n⟩ else none
  | _ => none

end Tag

namespace StateId

/-- An identifier is written as its tag and its position. -/
def toJson (x : StateId) : Json.Value :=
  .obj [("automaton", x.automaton.toJson), ("index", .nat x.index)]

/-- A position is read from digits that stand for a 64-bit word. -/
def indexOfJson? : Json.Value → Option Nat
  | .nat n => if n < UInt64.size then some n else none
  | _ => none

def ofParts? (automaton index : Json.Value) : Option StateId :=
  (Tag.ofJson? automaton).bind fun k => (indexOfJson? index).map fun i => ⟨k, i⟩

def ofJson? : Json.Value → Option StateId
  | .arr [automaton, index] => ofParts? automaton index
  | .obj fields =>
      match Json.valuesOf "automaton" fields, Json.valuesOf "index" fields with
      | [automaton], [index] => ofParts? automaton index
      | _, _ => none
  | _ => none

end StateId

namespace State

/-- A label is written as a string, and its absence as null. -/
def labelToJson : Option String → Json.Value
  | none => .null
  | some s => .str s

/-- A state is written as its identifier and its label. -/
def toJson (s : State) : Json.Value :=
  .obj [("id", s.id.toJson), ("label", labelToJson s.label)]

/-- A label is read from a string or from null. -/
def labelOfJson? : Json.Value → Option (Option String)
  | .null => some none
  | .str s => some (some s)
  | _ => none

def ofParts? (id label : Json.Value) : Option State :=
  (StateId.ofJson? id).bind fun x => (labelOfJson? label).map fun l => ⟨x, l⟩

/-- Reads a state; a missing label is none. -/
def ofJson? : Json.Value → Option State
  | .arr [id, label] => ofParts? id label
  | .obj fields =>
      match Json.valuesOf "id" fields, Json.valuesOf "label" fields with
      | [id], [label] => ofParts? id label
      | [id], [] => ofParts? id .null
      | _, _ => none
  | _ => none

end State

namespace GrammarSymbol

/-- A symbol is written under the name of its kind. -/
def toJson : GrammarSymbol → Json.Value
  | terminal name => .obj [("Terminal", .str name)]
  | nonTerminal name => .obj [("NonTerminal", .str name)]
  | endOfInput => .str "EndOfInput"

/-- Reads a symbol; the end marker may also stand in an object with nothing in it. -/
def ofJson? : Json.Value → Option GrammarSymbol
  | .str kind => if kind = "EndOfInput" then some endOfInput else none
  | .obj [(kind, .str name)] =>
      if kind = "Terminal" then some (terminal name)
      else if kind = "NonTerminal" then some (nonTerminal name)
      else none
  | .obj [(kind, .null)] => if kind = "EndOfInput" then some endOfInput else none
  | _ => none

end GrammarSymbol

namespace Transition

/-- A transition is written as its origin, its symbol and its destination. -/
def toJson (t : Transition GrammarSymbol) : Json.Value :=
  .obj [("origin", t.origin.toJson), ("symbol", t.symbol.toJson),
    ("destination", t.destination.toJson)]

def ofParts? (origin symbol destination : Json.Value) : Option (Transition GrammarSymbol) :=
  (StateId.ofJson? origin).bind fun x =>
    (GrammarSymbol.ofJson? symbol).bind fun a =>
      (StateId.ofJson? destination).map fun y => ⟨x, a, y⟩

def ofJson? : Json.Value → Option (Transition GrammarSymbol)
  | .arr [origin, symbol, destination] => ofParts? origin symbol destination
  | .obj fields =>
      match Json.valuesOf "origin" fields, Json.valuesOf "symbol" fields,
          Json.valuesOf "destination" fields with
      | [origin], [symbol], [destination] => ofParts? origin symbol destination
      | _, _, _ => none
  | _ => none

end Transition

namespace Json

/-- No field has the name. -/
def Absent (fields : List (String × Value)) (name : String) : Prop :=
  ∀ field ∈ fields, field.1 ≠ name

/-- Exactly one field has the name, and its value is the given one. -/
def Once (fields : List (String × Value)) (name : String) (v : Value) : Prop :=
  ∃ front back, fields = front ++ (name, v) :: back ∧ Absent front name ∧ Absent back name

/-- A record with named parts, as an object or as an array. -/
inductive Record (parts : List (String × Value)) : Value → Prop
  | object {fields : List (String × Value)} :
      (∀ part ∈ parts, Once fields part.1 part.2) →
      Record parts (.obj fields)
  | array : Record parts (.arr (parts.map Prod.snd))

end Json

open Json

/-- An identifier is a record of its tag and its position, both written with digits only; the
position is a 64-bit word, as the tag is a 32-bit word. -/
def StateId.HasForm (x : StateId) (v : Value) : Prop :=
  Record [("automaton", .nat x.automaton.number.toNat), ("index", .nat x.index)] v ∧
    x.index < UInt64.size

/-- A label is a string, and null stands for no label. -/
inductive State.LabelHasForm : Option String → Value → Prop
  | none : LabelHasForm none .null
  | some (label : String) : LabelHasForm (some label) (.str label)

/-- A state is a record of its identifier and its label; an object without a label is a state
without one. -/
inductive State.HasForm (s : State) : Value → Prop
  | record {v id label : Value} :
      s.id.HasForm id →
      State.LabelHasForm s.label label →
      Record [("id", id), ("label", label)] v →
      State.HasForm s v
  | unlabeled {fields : List (String × Value)} {id : Value} :
      s.id.HasForm id →
      s.label = none →
      Once fields "id" id →
      Absent fields "label" →
      State.HasForm s (.obj fields)

/-- A symbol is an object with its name under its kind; the end marker is its kind alone. -/
inductive GrammarSymbol.HasForm : GrammarSymbol → Value → Prop
  | terminal (name : String) : HasForm (.terminal name) (.obj [("Terminal", .str name)])
  | nonTerminal (name : String) : HasForm (.nonTerminal name) (.obj [("NonTerminal", .str name)])
  | endOfInput : HasForm .endOfInput (.str "EndOfInput")
  | endOfInputField : HasForm .endOfInput (.obj [("EndOfInput", .null)])

/-- A transition is a record of its origin, its symbol and its destination. -/
def Transition.HasForm (t : Transition GrammarSymbol) (v : Value) : Prop :=
  ∃ origin symbol destination,
    t.origin.HasForm origin ∧ t.symbol.HasForm symbol ∧ t.destination.HasForm destination ∧
      Record [("origin", origin), ("symbol", symbol), ("destination", destination)] v

end GotoAutomaton
