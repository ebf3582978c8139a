import GotoAutomaton.Graph.Basic
import GotoAutomaton.Log
import GotoAutomaton.State.Registry

/-!
# Analyses of automata

A registered state is classified by whether edges of a graph lead into it and out of it.  A table is
complete for a registry and a start state if it speaks of registered states only and every
registered state can be reached from the start.
-/

namespace GotoAutomaton

/-- The position of a state in a graph. -/
inductive StateClass where
  /-- Edges lead out of it only. -/
  | start
  /-- Edges lead into it and out of it. -/
  | inner
  /-- Edges lead into it only. -/
  | terminal
  | isolated
  deriving DecidableEq

namespace StateClass

def name : StateClass → String
  | start => "Start"
  | inner => "Inner"
  | terminal => "Terminal"
  | isolated => "Isolated"

end StateClass

def Node.classOf (n : Node) : StateClass :=
  match n.incoming.isEmpty, n.outgoing.isEmpty with
  | true, false => .start
  | false, false => .inner
  | false, true => .terminal
  | true, true => .isolated

namespace Graph

variable {σ : Type}

/-- The class of a state; one without a node is isolated. -/
def classOf (g : Graph σ) (x : StateId) : StateClass :=
  match (g.node? x).bind fun n => g.nodes[n]? with
  | none => .isolated
  | some n => n.classOf

/-- Every registered state with its class, in the order of registration. -/
def classify (g : Graph σ) (r : Registry) : List (StateId × StateClass) :=
  r.ids.map fun x => (x, g.classOf x)

end Graph

/-- What a validation found. -/
structure Report where
  /-- The start state and the ends of transitions that are not registered, in ascending order. -/
  foreign : List StateId
  /-- The registered states out of reach, in the order of registration. -/
  unreachable : List StateId
  deriving DecidableEq

namespace Report

/-- Whether nothing was found. -/
def isComplete (p : Report) : Bool :=
  p.foreign.isEmpty && p.unreachable.isEmpty

/-- A report with findings is a failure. -/
def toResult (p : Report) : Except Error Unit :=
  if p.isComplete then .ok () else .error (.incomplete p.foreign p.unreachable)

end Report

namespace Table

variable {σ : Type}

/-- The start state followed by both ends of every transition. -/
def mentioned (T : Table σ) (start : StateId) : List StateId :=
  start :: T.toList.flatMap Transition.endpoints

/-- Compares a table with a registry, given the start state. -/
def validate (T : Table σ) (r : Registry) (start : StateId) : Report :=
  let reached := (Graph.ofTable T).reachableFrom start
  { foreign := StateId.sort (distinct ((T.mentioned start).filter fun x => !r.contains x))
    unreachable := r.ids.filter fun x => decide (x ∉ reached) }

def validationEvent (r : Registry) (p : Report) : Event σ :=
  if p.isComplete then .complete r.size else .incomplete p.foreign p.unreachable

end Table

end GotoAutomaton
