import GotoAutomaton.Error
import GotoAutomaton.State.Basic

/-!
# Registries

The registry of an automaton mints the identifiers of its states: the state added at position `i`
under the tag `k` is named `(k, i)` for good.  A copy under a fresh tag names all its states anew,
so that no identifier of the copy is one of the copied registry.
-/

namespace GotoAutomaton

structure Registry where
  tag : Tag
  states : Array State
  deriving DecidableEq

namespace Registry

def empty (tag : Tag) : Registry :=
  ⟨tag, #[]⟩

def size (r : Registry) : Nat :=
  r.states.size

/-- The identifiers of the states, in the order they were added. -/
def ids (r : Registry) : List StateId :=
  r.states.toList.map State.id

/-- The identifier that the next added state gets. -/
def nextId (r : Registry) : StateId :=
  ⟨r.tag, r.size⟩

/-- Adds a state at the next position. -/
def add (r : Registry) (label : Option String) : Registry :=
  { r with states := r.states.push ⟨r.nextId, label⟩ }

/-- Adds unlabelled states one after the other. -/
def addMany (r : Registry) : Nat → Registry
  | 0 => r
  | n + 1 => (r.add none).addMany n

/-- Whether this registry has minted the identifier. -/
def contains (r : Registry) (x : StateId) : Bool :=
  decide (x.automaton = r.tag) && decide (x.index < r.size)

def get? (r : Registry) (x : StateId) : Option State :=
  if x.automaton = r.tag then r.states[x.index]? else none

/-- Refuses an identifier that this registry has not minted. -/
def check (r : Registry) (x : StateId) : Except Error Unit :=
  if r.contains x then .ok () else .error (.foreignState x r.tag)

/-- The same states in the same order, named anew under another tag. -/
def retag (r : Registry) (tag : Tag) : Registry :=
  ⟨tag, r.states.map fun s => ⟨⟨tag, s.id.index⟩, s.label⟩⟩

@[simp] theorem size_empty (tag : Tag) : (empty tag).size = 0 := by
  rfl

@[simp] theorem size_add
    (r : Registry)
    (label : Option String) :
    (r.add label).size = r.size + 1 := by
  simp [add, size]

@[simp] theorem size_retag
    (r : Registry)
    (tag : Tag) :
    (r.retag tag).size = r.size := by
  simp [retag, size]

theorem ids_add
    (r : Registry)
    (label : Option String) :
    (r.add label).ids = r.ids ++ [r.nextId] := by
  simp [add, ids]

theorem contains_eq_isSome_get?
    (r : Registry)
    (x : StateId) :
    r.contains x = (r.get? x).isSome := by
  by_cases hx : x.automaton = r.tag <;> by_cases hi : x.index < r.states.size <;>
    simp [contains, get?, hx, hi, size]

end Registry

end GotoAutomaton
