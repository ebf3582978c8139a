import GotoAutomaton.Table.Basic

/-!
# Transition graphs

A directed multigraph whose nodes carry states and whose edges carry transitions.  Nodes and edges
are numbered in the order they were made.  Every node lists the numbers of its outgoing and of its
incoming edges, the latest first, and an index leads from a state to its only node.  Unlike a table,
a graph takes every transition, also one it already has.

Graphs are searched in two ways.

* `breadthFirst` visits what can be reached from a start, in rings of growing distance: a queue,
  where everything is marked when it is queued and so is queued once.
* `depthFirst` follows edges as deep as they go, and gives up when an edge leads back into the path
  that is being explored.

Both are bounded by the number of nodes: the first visits every node at most once, and the path of
the second never holds a node twice.

What the searches are to find is said without them: a graph is made by additions, of states and of
transitions, and a path goes along added transitions, each starting where the one before it ends.
-/

namespace GotoAutomaton

/-- A node with the numbers of its edges, the latest first. -/
structure Node where
  state : StateId
  outgoing : List Nat
  incoming : List Nat
  deriving DecidableEq

/-- A transition between two numbered nodes. -/
structure Edge (σ : Type) where
  source : Nat
  target : Nat
  transition : Transition σ
  deriving DecidableEq

/-- Numbered nodes and edges, with the index from states to nodes. -/
structure Graph (σ : Type) where
  nodes : Array Node
  edges : Array (Edge σ)
  index : OrderedMap StateId Nat

namespace Graph

variable {σ : Type}

def empty : Graph σ :=
  ⟨#[], #[], .empty⟩

/-- The graph with a node for the state, made now unless there is one, and the node. -/
def locate (g : Graph σ) (x : StateId) : Graph σ × Nat :=
  match g.index.get? x with
  | some n => (g, n)
  | none =>
      ({ g with
          nodes := g.nodes.push ⟨x, [], []⟩
          index := g.index.insert x g.nodes.size }, g.nodes.size)

/-- The graph with a node for the state. -/
def addState (g : Graph σ) (x : StateId) : Graph σ :=
  (g.locate x).1

def node? (g : Graph σ) (x : StateId) : Option Nat :=
  g.index.get? x

def contains (g : Graph σ) (x : StateId) : Bool :=
  g.index.contains x

/-- Makes an edge between two nodes and lists it first with both. -/
def connect (g : Graph σ) (source target : Nat) (t : Transition σ) : Graph σ :=
  let e := g.edges.size
  let nodes := g.nodes.modify source fun n => { n with outgoing := e :: n.outgoing }
  { g with
    nodes := nodes.modify target fun n => { n with incoming := e :: n.incoming }
    edges := g.edges.push ⟨source, target, t⟩ }

/-- Adds a transition, with nodes for its origin and then its destination as needed. -/
def addTransition (g : Graph σ) (t : Transition σ) : Graph σ :=
  let (g, source) := g.locate t.origin
  let (g, target) := g.locate t.destination
  g.connect source target t

/-- The graph of a list of transitions, added in order. -/
def ofTransitions (ts : List (Transition σ)) : Graph σ :=
  ts.foldl addTransition empty

/-- The graph of a table's transitions, added in insertion order. -/
def ofTable (T : Table σ) : Graph σ :=
  ofTransitions T.toList

/-- The added transitions in order. -/
def transitions (g : Graph σ) : List (Transition σ) :=
  g.edges.toList.map Edge.transition

/-- The states with a node, in the order of their nodes. -/
def states (g : Graph σ) : List StateId :=
  g.nodes.toList.map Node.state

/-- The transitions out of a state, the latest first. -/
def outgoing (g : Graph σ) (x : StateId) : List (Transition σ) :=
  match (g.node? x).bind fun n => g.nodes[n]? with
  | none => []
  | some node => node.outgoing.filterMap fun e => g.edges[e]?.map Edge.transition

/-- The transitions into a state, the latest first. -/
def incoming (g : Graph σ) (x : StateId) : List (Transition σ) :=
  match (g.node? x).bind fun n => g.nodes[n]? with
  | none => []
  | some node => node.incoming.filterMap fun e => g.edges[e]?.map Edge.transition

/-- The nodes to which the edges of a node lead, the latest edge first. -/
def successors (g : Graph σ) (n : Nat) : List Nat :=
  match g.nodes[n]? with
  | none => []
  | some node => node.outgoing.filterMap fun e => g.edges[e]?.map Edge.target

/-- The states without incoming edges, in ascending order. -/
def startStates (g : Graph σ) : List StateId :=
  StateId.sort ((g.nodes.toList.filter fun n => n.incoming.isEmpty).map Node.state)

/-- The states without outgoing edges, in ascending order. -/
def terminalStates (g : Graph σ) : List StateId :=
  StateId.sort ((g.nodes.toList.filter fun n => n.outgoing.isEmpty).map Node.state)

@[simp] theorem transitions_empty : (empty : Graph σ).transitions = [] := by
  rfl

@[simp] theorem transitions_locate
    (g : Graph σ)
    (x : StateId) :
    (g.locate x).1.transitions = g.transitions := by
  unfold locate
  split <;> rfl

@[simp] theorem transitions_addState
    (g : Graph σ)
    (x : StateId) :
    (g.addState x).transitions = g.transitions :=
  g.transitions_locate x

/-- An added transition comes last, whether or not it is there already. -/
@[simp] theorem transitions_addTransition
    (g : Graph σ)
    (t : Transition σ) :
    (g.addTransition t).transitions = g.transitions ++ [t] := by
  have hconnect (h : Graph σ) (m n : Nat) :
      (h.connect m n t).transitions = h.transitions ++ [t] := by
    simp [connect, transitions]
  simp [addTransition, hconnect]

end Graph

/-- Five figures that describe the size and shape of a graph. -/
structure GraphStats where
  totalStates : Nat
  totalTransitions : Nat
  startStates : Nat
  terminalStates : Nat
  /-- The largest number of transitions out of one state, zero without states. -/
  maxOutDegree : Nat
  deriving DecidableEq

namespace Graph

variable {σ : Type}

/-- The figures of a graph; parallel transitions count as often as they were added. -/
def stats (g : Graph σ) : GraphStats where
  totalStates := g.nodes.size
  totalTransitions := g.edges.size
  startStates := g.startStates.length
  terminalStates := g.terminalStates.length
  maxOutDegree := (g.nodes.toList.map fun n => n.outgoing.length).foldl max 0

end Graph

section Search

variable {α : Type} [DecidableEq α] (next : α → List α)

/-- Visits the queue from the front and queues what is met for the first time, for at most
`bound` visits. -/
def visitQueue : (bound : Nat) → (queue seen : List α) → List α
  | 0, _, _ => []
  | _, [], _ => []
  | bound + 1, x :: queue, seen =>
      let fresh := firstSeen seen (next x)
      x :: visitQueue bound (queue ++ fresh) (fresh ++ seen)

/-- What can be reached from a start, in breadth-first order. -/
def breadthFirst (bound : Nat) (start : α) : List α :=
  visitQueue next bound [start] [start]

/-- Explores everything below a point that is not yet explored, and answers what is explored then;
there is no answer if an edge leads back into the path or if the path is longer than `bound`. -/
def depthFirst : (bound : Nat) → (path explored : List α) → α → Option (List α)
  | 0, _, _, _ => none
  | bound + 1, path, explored, x =>
      if x ∈ path then none
      else if x ∈ explored then some explored
      else
        ((next x).foldlM (depthFirst bound (x :: path)) explored).map (x :: ·)

end Search

namespace Graph

variable {σ : Type}

/-- The states that can be reached from a state, itself first, in breadth-first order. -/
def reachableFrom (g : Graph σ) (x : StateId) : List StateId :=
  match g.node? x with
  | none => [x]
  | some n =>
      (breadthFirst g.successors g.nodes.size n).filterMap fun m => g.nodes[m]?.map Node.state

/-- Whether some path leads from a state back to it. -/
def hasCycles (g : Graph σ) : Bool :=
  let explore := depthFirst g.successors (g.nodes.size + 1) []
  ((List.range g.nodes.size).foldlM explore []).isNone

end Graph

/-- An addition to a graph. -/
inductive Addition (σ : Type) where
  | state (x : StateId)
  | transition (t : Transition σ)

namespace Graph

variable {σ : Type}

def add (g : Graph σ) : Addition σ → Graph σ
  | .state x => g.addState x
  | .transition t => g.addTransition t

def build (additions : List (Addition σ)) : Graph σ :=
  additions.foldl add empty

/-- The transitions among additions, in order. -/
def addedTransitions : List (Addition σ) → List (Transition σ)
  | [] => []
  | .state _ :: as => addedTransitions as
  | .transition t :: as => t :: addedTransitions as

/-- A graph has exactly the added transitions, in order. -/
theorem transitions_build (as : List (Addition σ)) :
    (build as).transitions = addedTransitions as := by
  have hfold (g : Graph σ) :
      (as.foldl add g).transitions = g.transitions ++ addedTransitions as := by
    induction as generalizing g with
    | nil =>
        simp [addedTransitions]
    | cons a as ih =>
        cases a <;> simp [ih, add, addedTransitions]
  simpa [build] using hfold empty

/-- The states that additions mention, the origin of a transition before its destination. -/
def mentionedStates : List (Addition σ) → List StateId
  | [] => []
  | .state x :: as => x :: mentionedStates as
  | .transition t :: as => t.origin :: t.destination :: mentionedStates as

end Graph

/-- A path of a given length from one state to another along listed transitions. -/
inductive Path {σ : Type} (ts : List (Transition σ)) : StateId → Nat → StateId → Prop
  | nil (x : StateId) : Path ts x 0 x
  | cons {t : Transition σ} {n : Nat} {y : StateId} :
      t ∈ ts → Path ts t.destination n y → Path ts t.origin (n + 1) y

namespace Path

variable {σ : Type} {ts : List (Transition σ)}

/-- A listed transition is a path of length one. -/
theorem single
    {t : Transition σ}
    (ht : t ∈ ts) :
    Path ts t.origin 1 t.destination :=
  .cons ht (.nil _)

/-- Paths are put together where one ends and the other starts. -/
theorem append
    {x y z : StateId}
    {m n : Nat}
    (hxy : Path ts x m y)
    (hyz : Path ts y n z) :
    Path ts x (m + n) z := by
  induction hxy with
  | nil x =>
      simpa using hyz
  | cons ht _ ih =>
      simpa [Nat.add_right_comm] using Path.cons ht (ih hyz)

/-- A path is empty or has a first transition. -/
theorem exists_iff
    {x y : StateId} :
    (∃ n, Path ts x n y) ↔ y = x ∨ ∃ n, Path ts x (n + 1) y := by
  constructor
  · rintro ⟨n, hxy⟩
    cases hxy with
    | nil =>
        exact Or.inl rfl
    | cons ht hrest =>
        exact Or.inr ⟨_, .cons ht hrest⟩
  · rintro (rfl | ⟨n, hxy⟩)
    · exact ⟨0, .nil y⟩
    · exact ⟨n + 1, hxy⟩

end Path

end GotoAutomaton
