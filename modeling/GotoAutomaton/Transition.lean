import GotoAutomaton.State.Basic

/-!
# Symbols and transitions

A transition leads from its origin to its destination on a symbol.  It may be labelled by anything
with decidable equality and a printed form.  The printed form is only for messages and drawings: two
symbols may print alike and still be different.

The symbols of a context-free grammar with an end marker are of this kind.  Terminals come before
non-terminals and these before the end marker; within one kind names are compared code point by code
point.
-/

namespace GotoAutomaton

/-- A type whose values can label transitions, through the text they print as. -/
class Symbol (σ : Type) where
  text : σ → String

instance : Symbol String where
  text s := s

/-- A character prints as the string of that one character. -/
instance : Symbol Char where
  text c := c.toString

/-- An integer prints in decimal, behind a minus sign when it is negative. -/
instance : Symbol Int where
  text
    | .ofNat n => n.repr
    | .negSucc n => "-" ++ (n + 1).repr

/-- A terminal, a non-terminal, or the marker behind the last terminal of the input. -/
inductive GrammarSymbol where
  | terminal (name : String)
  | nonTerminal (name : String)
  | endOfInput
  deriving DecidableEq

namespace GrammarSymbol

/-- Terminals and the end marker are shifted, non-terminals are gone to. -/
def isTerminal : GrammarSymbol → Bool
  | terminal _ => true
  | nonTerminal _ => false
  | endOfInput => true

/-- The name of a symbol; the end marker is called by a dollar sign. -/
def name : GrammarSymbol → String
  | terminal name => name
  | nonTerminal name => name
  | endOfInput => "$"

/-- Terminals are printed between single quotes. -/
def text : GrammarSymbol → String
  | terminal name => "'" ++ name ++ "'"
  | nonTerminal name => name
  | endOfInput => "$"

instance : Symbol GrammarSymbol where
  text := text

/-- The place of a symbol's kind in the order. -/
def rank : GrammarSymbol → Nat
  | terminal _ => 0
  | nonTerminal _ => 1
  | endOfInput => 2

/-- Symbols go by kind, and by name within one kind. -/
def le (a b : GrammarSymbol) : Bool :=
  if a.rank = b.rank then decide (a.name ≤ b.name) else decide (a.rank < b.rank)

def compare (a b : GrammarSymbol) : Ordering :=
  if a = b then .eq else if a.le b then .lt else .gt

/-- The symbols in ascending order, repetitions kept. -/
def sort (as : List GrammarSymbol) : List GrammarSymbol :=
  as.mergeSort le

theorem eq_of_rank_eq_of_name_eq
    {a b : GrammarSymbol}
    (hrank : a.rank = b.rank)
    (hname : a.name = b.name) :
    a = b := by
  cases a <;> cases b <;> simp_all [rank, name]

end GrammarSymbol

/-- A labelled edge of an automaton. -/
structure Transition (σ : Type) where
  origin : StateId
  symbol : σ
  destination : StateId
  deriving DecidableEq

namespace Transition

variable {σ : Type}

def isLoop (t : Transition σ) : Bool :=
  decide (t.origin = t.destination)

/-- The symbol is written on the shaft of an arrow. -/
def text [Symbol σ] (t : Transition σ) : String :=
  t.origin.text ++ " --" ++ Symbol.text t.symbol ++ "--> " ++ t.destination.text

/-- Both ends of a transition, origin first. -/
def endpoints (t : Transition σ) : List StateId :=
  [t.origin, t.destination]

end Transition

end GotoAutomaton
