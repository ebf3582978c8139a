import GotoAutomaton.Analysis
import GotoAutomaton.Config.File
import GotoAutomaton.Dot.Drawing
import GotoAutomaton.Graph.Basic
import GotoAutomaton.Table.Basic
import GotoAutomaton.Table.Insert

/-!
# Sessions

A session holds the registries, tables and graphs made so far, each kind numbered from zero in the
order of creation, and the tag that the next registry gets.  An operation names the objects it works
on by their numbers.  It is answered, and what was reported on the way to the answer comes with it.

`step` carries out one operation, `run` a list of them; a failure is an answer like any other and
the session goes on.
-/

namespace GotoAutomaton

inductive RegistryOp where
  /-- A new registry under the next tag. -/
  | create
  /-- A copy under the next tag. -/
  | copy (registry : Nat)
  | add (registry : Nat) (label : Option String)
  | addMany (registry count : Nat)
  | get (registry : Nat) (state : StateId)
  | contains (registry : Nat) (state : StateId)
  | check (registry : Nat) (state : StateId)
  | info (registry : Nat)

/-- How a table is made. -/
inductive TableKind where
  | unowned
  | owned (registry : Nat)
  | configured (registry : Nat) (config : TableConfig)
  /-- With the settings of a configuration document. -/
  | documented (registry : Nat) (document : String)

inductive TableOp (σ : Type) where
  | create (kind : TableKind)
  | copy (table : Nat)
  | insert (table : Nat) (t : Transition σ)
  | insertAll (table : Nat) (batch : List (Transition σ))
  | lookup (table : Nat) (state : StateId) (symbol : σ)
  | transitionsFrom (table : Nat) (state : StateId)
  | symbolsFrom (table : Nat) (state : StateId)
  | contains (table : Nat) (t : Transition σ)
  | origins (table : Nat)
  | freeze (table : Nat)
  /-- Freezes the table and looks up pairs of state and symbol. -/
  | share (table : Nat) (probes : List (StateId × σ))
  | info (table : Nat)
  | text (table : Nat)

inductive GraphOp (σ : Type) where
  | create
  | ofTable (table : Nat)
  | addState (graph : Nat) (state : StateId)
  | addTransition (graph : Nat) (t : Transition σ)
  | contains (graph : Nat) (state : StateId)
  | reachableFrom (graph : Nat) (state : StateId)
  | hasCycles (graph : Nat)
  | startStates (graph : Nat)
  | terminalStates (graph : Nat)
  | outgoing (graph : Nat) (state : StateId)
  | incoming (graph : Nat) (state : StateId)
  | stats (graph : Nat)
  | draw (graph registry : Nat)
  /-- Writes the drawing into a sink with room for a number of bytes. -/
  | write (graph registry room : Nat)
  | classify (graph registry : Nat)

/-- One operation of a session. -/
inductive Op (σ : Type) where
  | registry (op : RegistryOp)
  | table (op : TableOp σ)
  | graph (op : GraphOp σ)
  /-- Compares a table with a registry, given the start state. -/
  | validate (table registry : Nat) (start : StateId)

/-- What an operation answers. -/
inductive Answer (σ : Type) where
  /-- A registry was made under this number. -/
  | registry (number : Nat) (tag : Tag) (ids : List StateId)
  | stateAdded (id : StateId) (size : Nat)
  | statesAdded (ids : List StateId) (size : Nat)
  | state (found : Option State)
  | contains (found : Bool)
  | done
  | registryInfo (tag : Tag) (states : List State)
  | table (number size : Nat) (frozen : Bool) (owner : Option Tag)
  | inserted (new : Bool) (size : Nat)
  | insertedAll (added size : Nat)
  | insertionFailed (error : Error) (size : Nat)
  | destination (found : Option StateId)
  | transitionsFrom (ts : List (Transition σ))
  | symbols (as : List σ)
  | ids (xs : List StateId)
  | frozen (size : Nat)
  | shared (found : List (Option StateId))
  | tableInfo (frozen : Bool) (owner : Option Tag) (ts : List (Transition σ))
  | text (text : String)
  | graph (number nodes edges : Nat)
  | node (number nodes : Nat)
  | graphSize (nodes edges : Nat)
  | cycles (found : Bool)
  | transitions (ts : List (Transition σ))
  | stats (stats : GraphStats)
  | drawing (text : String)
  | written (held : List UInt8) (failure : Option Error)
  | classes (classes : List (StateId × StateClass))
  | report (report : Report)
  | failed (error : Error)
  /-- There is no object with the given number. -/
  | missing

/-- An answer together with what was reported on the way to it. -/
structure Reply (σ : Type) where
  answer : Answer σ
  events : List (Event σ)

/-- The objects made so far, each kind numbered in the order of creation. -/
structure Session (σ : Type) where
  nextTag : Tag
  registries : Array Registry
  tables : Array (Table σ)
  graphs : Array (Graph σ)

namespace Session

variable {σ : Type}

/-- A session without objects, whose first registry gets the given tag. -/
def start (tag : Tag) : Session σ :=
  ⟨tag, #[], #[], #[]⟩

/-- Puts a registry last; its tag has been minted. -/
def addRegistry (s : Session σ) (r : Registry) : Session σ × Reply σ :=
  ({ s with nextTag := s.nextTag.next, registries := s.registries.push r },
    ⟨.registry s.registries.size r.tag r.ids, []⟩)

def addTable (s : Session σ) (T : Table σ) : Session σ × Reply σ :=
  ({ s with tables := s.tables.push T },
    ⟨.table s.tables.size T.size T.frozen T.owner, []⟩)

def addGraph (s : Session σ) (g : Graph σ) : Session σ × Reply σ :=
  ({ s with graphs := s.graphs.push g },
    ⟨.graph s.graphs.size g.nodes.size g.edges.size, []⟩)

def setRegistry (s : Session σ) (i : Nat) (r : Registry) : Session σ :=
  { s with registries := s.registries.setIfInBounds i r }

def setTable (s : Session σ) (i : Nat) (T : Table σ) : Session σ :=
  { s with tables := s.tables.setIfInBounds i T }

def setGraph (s : Session σ) (i : Nat) (g : Graph σ) : Session σ :=
  { s with graphs := s.graphs.setIfInBounds i g }

/-- Answers without changing anything. -/
def answer (s : Session σ) (a : Answer σ) : Session σ × Reply σ :=
  (s, ⟨a, []⟩)

/-- Answers a failure, or else what there is to answer. -/
def ofExcept {α : Type} (result : Except Error α) (answer : α → Answer σ) : Answer σ :=
  match result with
  | .ok a => answer a
  | .error error => .failed error

/-- Goes on with a numbered object, if there is one. -/
def withObject {α : Type} (s : Session σ) (objects : Array α) (i : Nat)
    (k : α → Session σ × Reply σ) : Session σ × Reply σ :=
  match objects[i]? with
  | none => s.answer .missing
  | some x => k x

def stepRegistry (s : Session σ) : RegistryOp → Session σ × Reply σ
  | .create => s.addRegistry (.empty s.nextTag)
  | .copy i => s.withObject s.registries i fun r => s.addRegistry (r.retag s.nextTag)
  | .add i label => s.withObject s.registries i fun r =>
      let r' := r.add label
      (s.setRegistry i r', ⟨.stateAdded r.nextId r'.size, []⟩)
  | .addMany i count => s.withObject s.registries i fun r =>
      let r' := r.addMany count
      (s.setRegistry i r', ⟨.statesAdded (r'.ids.drop r.size) r'.size, []⟩)
  | .get i x => s.withObject s.registries i fun r => s.answer (.state (r.get? x))
  | .contains i x => s.withObject s.registries i fun r => s.answer (.contains (r.contains x))
  | .check i x => s.withObject s.registries i fun r =>
      s.answer (ofExcept (r.check x) fun _ => .done)
  | .info i => s.withObject s.registries i fun r =>
      s.answer (.registryInfo r.tag r.states.toList)

def makeTable (s : Session σ) : TableKind → Session σ × Reply σ
  | .unowned => s.addTable .unowned
  | .owned i => s.withObject s.registries i fun r => s.addTable (.ownedBy r)
  | .configured i config => s.withObject s.registries i fun r => s.addTable (.withConfig r config)
  | .documented i document => s.withObject s.registries i fun r =>
      match Config.ofText document with
      | .ok c => s.addTable (.withConfig r c.table)
      | .error e => s.answer (.failed e)

section Operations

variable [DecidableEq σ] [Symbol σ]

/-- Puts the table of an outcome in its place and answers the result with the table's size. -/
def settle {α : Type} (s : Session σ) (i : Nat) (o : Outcome σ α)
    (answer : α → Nat → Answer σ) : Session σ × Reply σ :=
  let a :=
    match o.result with
    | .ok x => answer x o.table.size
    | .error error => .insertionFailed error o.table.size
  (s.setTable i o.table, ⟨a, o.events⟩)

def stepTable (s : Session σ) : TableOp σ → Session σ × Reply σ
  | .create kind => s.makeTable kind
  | .copy i => s.withObject s.tables i fun T => s.addTable T
  | .insert i t => s.withObject s.tables i fun T => s.settle i (T.insert t) .inserted
  | .insertAll i batch => s.withObject s.tables i fun T =>
      s.settle i (T.insertAll batch) .insertedAll
  | .lookup i x a => s.withObject s.tables i fun T => s.answer (.destination (T.lookup x a))
  | .transitionsFrom i x => s.withObject s.tables i fun T =>
      s.answer (.transitionsFrom (T.transitionsFrom x))
  | .symbolsFrom i x => s.withObject s.tables i fun T => s.answer (.symbols (T.symbolsFrom x))
  | .contains i t => s.withObject s.tables i fun T => s.answer (.contains (T.contains t))
  | .origins i => s.withObject s.tables i fun T => s.answer (.ids T.origins)
  | .freeze i => s.withObject s.tables i fun T =>
      let (T', events) := T.freeze
      (s.setTable i T', ⟨.frozen T'.size, events⟩)
  | .share i probes => s.withObject s.tables i fun T =>
      let (T', events) := T.freeze
      (s.setTable i T', ⟨.shared (probes.map fun (x, a) => T'.lookup x a), events⟩)
  | .info i => s.withObject s.tables i fun T =>
      s.answer (.tableInfo T.frozen T.owner T.toList)
  | .text i => s.withObject s.tables i fun T => s.answer (.text T.text)

def stepGraph (s : Session σ) : GraphOp σ → Session σ × Reply σ
  | .create => s.addGraph .empty
  | .ofTable i => s.withObject s.tables i fun T => s.addGraph (.ofTable T)
  | .addState i x => s.withObject s.graphs i fun g =>
      let (g', n) := g.locate x
      (s.setGraph i g', ⟨.node n g'.nodes.size, []⟩)
  | .addTransition i t => s.withObject s.graphs i fun g =>
      let g' := g.addTransition t
      (s.setGraph i g', ⟨.graphSize g'.nodes.size g'.edges.size, []⟩)
  | .contains i x => s.withObject s.graphs i fun g => s.answer (.contains (g.contains x))
  | .reachableFrom i x => s.withObject s.graphs i fun g => s.answer (.ids (g.reachableFrom x))
  | .hasCycles i => s.withObject s.graphs i fun g => s.answer (.cycles g.hasCycles)
  | .startStates i => s.withObject s.graphs i fun g => s.answer (.ids g.startStates)
  | .terminalStates i => s.withObject s.graphs i fun g => s.answer (.ids g.terminalStates)
  | .outgoing i x => s.withObject s.graphs i fun g => s.answer (.transitions (g.outgoing x))
  | .incoming i x => s.withObject s.graphs i fun g => s.answer (.transitions (g.incoming x))
  | .stats i => s.withObject s.graphs i fun g => s.answer (.stats g.stats)
  | .draw i k => s.withObject s.graphs i fun g => s.withObject s.registries k fun r =>
      s.answer (.drawing (g.drawing r).text)
  | .write i k room => s.withObject s.graphs i fun g => s.withObject s.registries k fun r =>
      let w := (g.drawing r).write room
      s.answer (.written w.held (match w.result with | .ok _ => none | .error e => some e))
  | .classify i k => s.withObject s.graphs i fun g => s.withObject s.registries k fun r =>
      s.answer (.classes (g.classify r))

def step (s : Session σ) : Op σ → Session σ × Reply σ
  | .registry op => s.stepRegistry op
  | .table op => s.stepTable op
  | .graph op => s.stepGraph op
  | .validate i k x => s.withObject s.tables i fun T => s.withObject s.registries k fun r =>
      let p := T.validate r x
      (s, ⟨.report p, [Table.validationEvent r p]⟩)

/-- Carries out operations one after the other, with a reply to each. -/
def run (s : Session σ) : List (Op σ) → Session σ × List (Reply σ)
  | [] => (s, [])
  | op :: ops =>
      let (s', reply) := s.step op
      let (s'', replies) := s'.run ops
      (s'', reply :: replies)

end Operations

end Session

end GotoAutomaton
