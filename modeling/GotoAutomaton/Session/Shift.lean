import GotoAutomaton.Session.Run

/-!
# Shifting tags

Tags are numbers without meaning.  Shifting adds a number to every tag, in the operations that are
given to a session, in the objects it holds and in the answers it gives.

Two texts print a tag, the message of a foreign state and the warning of a failed validation.  The
plain texts of a reply are all the others.
-/

namespace GotoAutomaton

/-- A tag further on by a number of tags. -/
def Tag.shift (k : UInt32) (t : Tag) : Tag :=
  ⟨t.number + k⟩

def StateId.shift (k : UInt32) (x : StateId) : StateId :=
  ⟨x.automaton.shift k, x.index⟩

def State.shift (k : UInt32) (s : State) : State :=
  ⟨s.id.shift k, s.label⟩

def Transition.shift {σ : Type} (k : UInt32) (t : Transition σ) : Transition σ :=
  ⟨t.origin.shift k, t.symbol, t.destination.shift k⟩

def Conflict.shift (k : UInt32) (c : Conflict) : Conflict :=
  ⟨c.origin.shift k, c.symbol, c.existing.shift k, c.rejected.shift k⟩

def Error.shift (k : UInt32) : Error → Error
  | .conflict c => .conflict (c.shift k)
  | .conflicts cs => .conflicts (cs.map (Conflict.shift k))
  | .frozenTable origin symbol => .frozenTable (origin.shift k) symbol
  | .foreignState state expected => .foreignState (state.shift k) (expected.shift k)
  | .incomplete foreign unreachable =>
      .incomplete (foreign.map (StateId.shift k)) (unreachable.map (StateId.shift k))
  | e => e

def Report.shift (k : UInt32) (p : Report) : Report :=
  ⟨p.foreign.map (StateId.shift k), p.unreachable.map (StateId.shift k)⟩

def RegistryOp.shift (k : UInt32) : RegistryOp → RegistryOp
  | .get i x => .get i (x.shift k)
  | .contains i x => .contains i (x.shift k)
  | .check i x => .check i (x.shift k)
  | op => op

def TableOp.shift {σ : Type} (k : UInt32) : TableOp σ → TableOp σ
  | .create kind => .create kind
  | .copy i => .copy i
  | .insert i t => .insert i (t.shift k)
  | .insertAll i batch => .insertAll i (batch.map (Transition.shift k))
  | .lookup i x a => .lookup i (x.shift k) a
  | .transitionsFrom i x => .transitionsFrom i (x.shift k)
  | .symbolsFrom i x => .symbolsFrom i (x.shift k)
  | .contains i t => .contains i (t.shift k)
  | .origins i => .origins i
  | .freeze i => .freeze i
  | .share i probes => .share i (probes.map fun (x, a) => (x.shift k, a))
  | .info i => .info i
  | .text i => .text i

def GraphOp.shift {σ : Type} (k : UInt32) : GraphOp σ → GraphOp σ
  | .addState i x => .addState i (x.shift k)
  | .addTransition i t => .addTransition i (t.shift k)
  | .contains i x => .contains i (x.shift k)
  | .reachableFrom i x => .reachableFrom i (x.shift k)
  | .outgoing i x => .outgoing i (x.shift k)
  | .incoming i x => .incoming i (x.shift k)
  | op => op

def Op.shift {σ : Type} (k : UInt32) : Op σ → Op σ
  | .registry op => .registry (op.shift k)
  | .table op => .table (op.shift k)
  | .graph op => .graph (op.shift k)
  | .validate i j x => .validate i j (x.shift k)

def Answer.shift {σ : Type} (k : UInt32) : Answer σ → Answer σ
  | .registry number t xs => .registry number (t.shift k) (xs.map (StateId.shift k))
  | .stateAdded x size => .stateAdded (x.shift k) size
  | .statesAdded xs size => .statesAdded (xs.map (StateId.shift k)) size
  | .state found => .state (found.map (State.shift k))
  | .registryInfo t states => .registryInfo (t.shift k) (states.map (State.shift k))
  | .table number size closed owner => .table number size closed (owner.map (Tag.shift k))
  | .insertionFailed e size => .insertionFailed (e.shift k) size
  | .destination found => .destination (found.map (StateId.shift k))
  | .transitionsFrom ts => .transitionsFrom (ts.map (Transition.shift k))
  | .ids xs => .ids (xs.map (StateId.shift k))
  | .shared found => .shared (found.map (Option.map (StateId.shift k)))
  | .tableInfo closed owner ts =>
      .tableInfo closed (owner.map (Tag.shift k)) (ts.map (Transition.shift k))
  | .transitions ts => .transitions (ts.map (Transition.shift k))
  | .written held failure => .written held (failure.map (Error.shift k))
  | .classes cs => .classes (cs.map fun (x, c) => (x.shift k, c))
  | .report p => .report (p.shift k)
  | .failed e => .failed (e.shift k)
  | .contains found => .contains found
  | .done => .done
  | .inserted new size => .inserted new size
  | .insertedAll added size => .insertedAll added size
  | .symbols as => .symbols as
  | .frozen size => .frozen size
  | .text s => .text s
  | .graph number nodes edges => .graph number nodes edges
  | .node number nodes => .node number nodes
  | .graphSize nodes edges => .graphSize nodes edges
  | .cycles found => .cycles found
  | .stats figures => .stats figures
  | .drawing s => .drawing s
  | .missing => .missing

def Event.shift {σ : Type} (k : UInt32) : Event σ → Event σ
  | .inserting t => .inserting (t.shift k)
  | .alreadyPresent t => .alreadyPresent (t.shift k)
  | .refusing c => .refusing (c.shift k)
  | .rejecting t x => .rejecting (t.shift k) (x.shift k)
  | .incomplete foreign unreachable =>
      .incomplete (foreign.map (StateId.shift k)) (unreachable.map (StateId.shift k))
  | .batchRefusals refused added => .batchRefusals refused added
  | .frozen transitions origins => .frozen transitions origins
  | .complete states => .complete states

def Reply.shift {σ : Type} (k : UInt32) (reply : Reply σ) : Reply σ :=
  ⟨reply.answer.shift k, reply.events.map (Event.shift k)⟩

/-- The identifier can be shifted without running over the last tag. -/
def StateId.Fits (k : UInt32) (x : StateId) : Prop :=
  x.automaton.number.toNat + k.toNat < UInt32.size

instance (k : UInt32) (x : StateId) : Decidable (x.Fits k) :=
  inferInstanceAs (Decidable (_ < _))

/-- The identifiers given to an operation. -/
def RegistryOp.given : RegistryOp → List StateId
  | .get _ x => [x]
  | .contains _ x => [x]
  | .check _ x => [x]
  | _ => []

def TableOp.given {σ : Type} : TableOp σ → List StateId
  | .insert _ t => t.endpoints
  | .insertAll _ batch => batch.flatMap Transition.endpoints
  | .lookup _ x _ => [x]
  | .transitionsFrom _ x => [x]
  | .symbolsFrom _ x => [x]
  | .contains _ t => t.endpoints
  | .share _ probes => probes.map Prod.fst
  | _ => []

def GraphOp.given {σ : Type} : GraphOp σ → List StateId
  | .addState _ x => [x]
  | .addTransition _ t => t.endpoints
  | .contains _ x => [x]
  | .reachableFrom _ x => [x]
  | .outgoing _ x => [x]
  | .incoming _ x => [x]
  | _ => []

def Op.given {σ : Type} : Op σ → List StateId
  | .registry op => op.given
  | .table op => op.given
  | .graph op => op.given
  | .validate _ _ x => [x]

/-- Whether the message of a failure prints a tag. -/
def Error.printsTag : Error → Bool
  | .foreignState _ _ => true
  | _ => false

/-- Whether the line of an event prints a tag. -/
def Event.printsTag {σ : Type} : Event σ → Bool
  | .incomplete _ _ => true
  | _ => false

/-- The failure that an answer tells of; a report with findings is one. -/
def Answer.failure? {σ : Type} : Answer σ → Option Error
  | .insertionFailed e _ => some e
  | .written _ failure => failure
  | .report p => match p.toResult with | .ok _ => none | .error e => some e
  | .failed e => some e
  | _ => none

/-- The texts that an answer consists of, and the states it has in their short form. -/
def Answer.texts {σ : Type} : Answer σ → List String
  | .text s => [s]
  | .drawing s => [s]
  | .state found => found.toList.map State.short
  | .registryInfo _ states => states.map State.short
  | _ => []

/-- The texts that come with a reply, but for those that print a tag. -/
def Reply.plainTexts {σ : Type} [Symbol σ] (reply : Reply σ) : List String :=
  reply.answer.texts ++
    (reply.answer.failure?.toList.filter fun e => !e.printsTag).map Error.message ++
    (reply.events.filter fun e => !e.printsTag).map Event.line

end GotoAutomaton
