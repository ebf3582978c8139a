import GotoAutomaton.State.Basic

/-!
# Errors

Every failure of the library is one of nine causes.  The wording of a cause is in
`Error.message` and nowhere else.
-/

namespace GotoAutomaton

/-- A refused insertion: on the symbol the origin already goes to another state. -/
structure Conflict where
  origin : StateId
  /-- The printed form of the symbol. -/
  symbol : String
  existing : StateId
  rejected : StateId
  deriving DecidableEq

namespace Conflict

def text (c : Conflict) : String :=
  "state " ++ c.origin.text ++ " on `" ++ c.symbol ++ "` already goes to " ++ c.existing.text ++
    ", refusing " ++ c.rejected.text

end Conflict

/-- The causes of failure. -/
inductive Error where
  /-- One refused insertion. -/
  | conflict (c : Conflict)
  /-- Every refused insertion of a batch, in batch order. -/
  | conflicts (cs : List Conflict)
  /-- An insertion into a frozen table. -/
  | frozenTable (origin : StateId) (symbol : String)
  /-- A state that another automaton minted, or none. -/
  | foreignState (state : StateId) (expected : Tag)
  /-- A failed validation. -/
  | incomplete (foreign unreachable : List StateId)
  /-- A failure of reading or writing. -/
  | io (reason : String)
  /-- A configuration that cannot be used. -/
  | config (reason : String)
  /-- A failure with a wording of its own. -/
  | custom (text : String)
  /-- A failure passed on from elsewhere. -/
  | other (text : String)
  deriving DecidableEq

namespace Error

def message : Error → String
  | conflict c => "Goto conflict: " ++ c.text
  | conflicts cs =>
      cs.length.repr ++ " goto conflict(s): " ++ String.intercalate "; " (cs.map Conflict.text)
  | frozenTable origin symbol =>
      "Transition table is frozen, cannot insert " ++ origin.text ++ " on `" ++ symbol ++ "`"
  | foreignState state expected =>
      "State " ++ state.text ++ "@" ++ state.automaton.text ++ " does not belong to automaton " ++
        expected.text
  | incomplete foreign unreachable =>
      "Automaton is incomplete: " ++ foreign.length.repr ++ " foreign state(s), " ++
        unreachable.length.repr ++ " unreachable state(s)"
  | io reason => "IO error: " ++ reason
  | config reason => "Configuration error: " ++ reason
  | custom text => text
  | other text => text

/-- The refused insertions that a failure reports. -/
def refused : Error → List Conflict
  | conflict c => [c]
  | conflicts cs => cs
  | _ => []

/-- Whether a failure reports refused insertions, be it an empty list of them. -/
def isConflict : Error → Bool
  | conflict _ => true
  | conflicts _ => true
  | _ => false

/-- Whether a failure is an insertion into a frozen table. -/
def isFrozen : Error → Bool
  | frozenTable _ _ => true
  | _ => false

/-- Fails with the given wording unless the condition holds. -/
def ensure (condition : Bool) (text : String) : Except Error Unit :=
  if condition then .ok () else .error (.custom text)

end Error

end GotoAutomaton
