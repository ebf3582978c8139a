import GotoAutomaton.Proofs.Graph.Enumeration
import GotoAutomaton.Proofs.Shift.Table

/-!
# Shifted graphs

A graph finds its nodes by states and is otherwise made of numbers, so searches and enumerations
along edges go the same way when tags are shifted.  Sorted lists are another matter: they follow the
tags, and keep their order as long as no state of the graph runs over the last tag.

Main statements: `addTransition_shift` and `ofTable_shift`; `reachableFrom_shift` and
`hasCycles_shift`; and for graphs whose states fit `Fits.startStates_shift`,
`Fits.terminalStates_shift`, `Fits.stats_shift` and `Fits.drawing_shift`.  With these, validation
commutes with shifting (`Table.Fits.validate_shift`).
-/

namespace GotoAutomaton

variable {σ : Type} (k : UInt32)

def Node.shift (node : Node) : Node :=
  ⟨node.state.shift k, node.outgoing, node.incoming⟩

@[simp] theorem Node.state_shift (node : Node) :
    (node.shift k).state = node.state.shift k := by
  rfl

def Edge.shift (e : Edge σ) : Edge σ :=
  ⟨e.source, e.target, e.transition.shift k⟩

namespace Graph

def shift (g : Graph σ) : Graph σ where
  nodes := g.nodes.map (Node.shift k)
  edges := g.edges.map (Edge.shift k)
  index := g.index.rename (StateId.shift k) (StateId.shift_injective k) id

theorem empty_shift : (empty : Graph σ) = empty.shift k := by
  simp [empty, shift]

@[simp] theorem size_nodes_shift (g : Graph σ) : (g.shift k).nodes.size = g.nodes.size := by
  simp [shift]

@[simp] theorem size_edges_shift (g : Graph σ) : (g.shift k).edges.size = g.edges.size := by
  simp [shift]

@[simp] theorem getElem?_nodes_shift
    (g : Graph σ)
    (n : Nat) :
    (g.shift k).nodes[n]? = g.nodes[n]?.map (Node.shift k) := by
  simp [shift]

@[simp] theorem getElem?_edges_shift
    (g : Graph σ)
    (e : Nat) :
    (g.shift k).edges[e]? = g.edges[e]?.map (Edge.shift k) := by
  simp [shift]

@[simp] theorem transitions_shift (g : Graph σ) :
    (g.shift k).transitions = g.transitions.map (Transition.shift k) := by
  simp [transitions, shift, Edge.shift, Function.comp_def]

@[simp] theorem node?_shift
    (g : Graph σ)
    (x : StateId) :
    (g.shift k).node? (x.shift k) = g.node? x := by
  have hindex := OrderedMap.get?_rename (StateId.shift_injective k) id g.index x
  rw [Option.map_id, id] at hindex
  exact hindex

@[simp] theorem contains_shift
    (g : Graph σ)
    (x : StateId) :
    (g.shift k).contains (x.shift k) = g.contains x :=
  OrderedMap.contains_rename (StateId.shift_injective k) id g.index x

section Additions

theorem locate_shift
    (g : Graph σ)
    (x : StateId) :
    (g.shift k).locate (x.shift k) = ((g.locate x).1.shift k, (g.locate x).2) := by
  have hnode := g.node?_shift k x
  cases hx : g.node? x with
  | some n =>
      rw [hx] at hnode
      rw [locate_of_node? hnode, locate_of_node? hx]
  | none =>
      rw [hx] at hnode
      rw [locate_of_node?_eq_none hnode, locate_of_node?_eq_none hx, size_nodes_shift]
      have hindex := OrderedMap.insert_rename (StateId.shift_injective k) id g.index x g.nodes.size
      simpa [withNode, shift, Node.shift] using hindex

theorem connect_shift
    (g : Graph σ)
    (source target : Nat)
    (t : Transition σ) :
    (g.shift k).connect source target (t.shift k) = (g.connect source target t).shift k := by
  have hnodes : ((g.shift k).connect source target (t.shift k)).nodes =
      ((g.connect source target t).shift k).nodes := by
    apply Array.ext_getElem?
    intro n
    rw [getElem?_nodes_connect, getElem?_nodes_shift, getElem?_nodes_shift, getElem?_nodes_connect,
      Option.map_map, Option.map_map, size_edges_shift]
    rfl
  have hedges : ((g.shift k).connect source target (t.shift k)).edges =
      ((g.connect source target t).shift k).edges := by
    simp [connect, shift, Edge.shift]
  exact congrArg₂ (fun nodes edges => Graph.mk nodes edges (g.shift k).index) hnodes hedges

theorem addTransition_shift
    (g : Graph σ)
    (t : Transition σ) :
    (g.shift k).addTransition (t.shift k) = (g.addTransition t).shift k := by
  have horigin := g.locate_shift k t.origin
  have hdestination := (g.locate t.origin).1.locate_shift k t.destination
  simp only [addTransition, Transition.shift, horigin, hdestination]
  exact connect_shift k _ _ _ t

theorem ofTransitions_shift (ts : List (Transition σ)) :
    ofTransitions (ts.map (Transition.shift k)) = (ofTransitions ts).shift k := by
  rw [ofTransitions, List.foldl_map, empty_shift k]
  exact List.foldl_hom (shift k) fun g t => g.addTransition_shift k t

theorem ofTable_shift (T : Table σ) : ofTable (T.shift k) = (ofTable T).shift k := by
  rw [ofTable, Table.toList_shift, ofTransitions_shift, ofTable]

end Additions

section Searches

/-- The node of a state, read in one go. -/
theorem bind_node?_shift
    (g : Graph σ)
    (x : StateId) :
    (((g.shift k).node? (x.shift k)).bind fun n => (g.shift k).nodes[n]?) =
      ((g.node? x).bind fun n => g.nodes[n]?).map (Node.shift k) := by
  rw [node?_shift]
  cases g.node? x with
  | none =>
      rfl
  | some n =>
      exact g.getElem?_nodes_shift k n

@[simp] theorem outgoing_shift
    (g : Graph σ)
    (x : StateId) :
    (g.shift k).outgoing (x.shift k) = (g.outgoing x).map (Transition.shift k) := by
  rw [outgoing, bind_node?_shift, outgoing]
  cases (g.node? x).bind fun n => g.nodes[n]? with
  | none =>
      rfl
  | some node =>
      simp [List.map_filterMap, Node.shift, Edge.shift, Function.comp_def]

@[simp] theorem incoming_shift
    (g : Graph σ)
    (x : StateId) :
    (g.shift k).incoming (x.shift k) = (g.incoming x).map (Transition.shift k) := by
  rw [incoming, bind_node?_shift, incoming]
  cases (g.node? x).bind fun n => g.nodes[n]? with
  | none =>
      rfl
  | some node =>
      simp [List.map_filterMap, Node.shift, Edge.shift, Function.comp_def]

theorem classOf_shift
    (g : Graph σ)
    (x : StateId) :
    (g.shift k).classOf (x.shift k) = g.classOf x := by
  rw [classOf, bind_node?_shift, classOf]
  cases (g.node? x).bind fun n => g.nodes[n]? <;> rfl

@[simp] theorem classify_shift
    (g : Graph σ)
    (r : Registry) :
    (g.shift k).classify (r.shift k) = (g.classify r).map fun (x, c) => (x.shift k, c) := by
  simp [classify, classOf_shift, Function.comp_def]

@[simp] theorem successors_shift (g : Graph σ) : (g.shift k).successors = g.successors := by
  funext n
  rw [successors, successors, getElem?_nodes_shift]
  cases g.nodes[n]? with
  | none =>
      rfl
  | some node =>
      simp [Node.shift, Edge.shift, Function.comp_def]

@[simp] theorem reachableFrom_shift
    (g : Graph σ)
    (x : StateId) :
    (g.shift k).reachableFrom (x.shift k) = (g.reachableFrom x).map (StateId.shift k) := by
  rw [reachableFrom, reachableFrom, node?_shift]
  cases g.node? x with
  | none =>
      rfl
  | some n =>
      simp [List.map_filterMap, Node.shift, Function.comp_def]

@[simp] theorem hasCycles_shift (g : Graph σ) : (g.shift k).hasCycles = g.hasCycles := by
  rw [hasCycles, successors_shift, size_nodes_shift, hasCycles]

end Searches

section Fitting

variable {k}

/-- The index is right, and every state with a node can be shifted. -/
structure Fits (k : UInt32) (g : Graph σ) : Prop where
  faithful : g.Faithful
  states : ∀ x ∈ g.states, x.Fits k

theorem fits_empty : (empty : Graph σ).Fits k :=
  ⟨faithful_empty, by simp [empty, states]⟩

theorem mem_states_locate
    {g : Graph σ}
    {x y : StateId}
    (hy : y ∈ (g.locate x).1.states) :
    y ∈ g.states ∨ y = x := by
  cases hx : g.node? x with
  | some n =>
      rw [locate_of_node? hx] at hy
      exact Or.inl hy
  | none =>
      rw [locate_of_node?_eq_none hx] at hy
      simpa [withNode, states] using hy

theorem Fits.locate
    {g : Graph σ}
    (hg : g.Fits k)
    {x : StateId}
    (hx : x.Fits k) :
    (g.locate x).1.Fits k := by
  refine ⟨hg.faithful.locate x, ?_⟩
  intro y hy
  rcases mem_states_locate hy with hy | rfl
  · exact hg.states y hy
  · exact hx

theorem Fits.addTransition
    {g : Graph σ}
    (hg : g.Fits k)
    {t : Transition σ}
    (ht : ∀ x ∈ t.endpoints, x.Fits k) :
    (g.addTransition t).Fits k := by
  have horigin := hg.locate (ht t.origin (by simp [Transition.endpoints]))
  have hdestination := horigin.locate (ht t.destination (by simp [Transition.endpoints]))
  refine ⟨hg.faithful.addTransition t, ?_⟩
  rw [Graph.addTransition, states_connect]
  exact hdestination.states

theorem fits_ofTable
    {T : Table σ}
    (hT : T.Fits k) :
    (ofTable T).Fits k := by
  refine ⟨faithful_ofTransitions T.toList, ?_⟩
  intro x hx
  rw [ofTable, states_ofTransitions, mem_distinct, List.mem_flatMap] at hx
  obtain ⟨t, ht, hx⟩ := hx
  exact hT t ht x hx

theorem Fits.of_mem_keys
    {g : Graph σ}
    (hg : g.Fits k)
    {x : StateId}
    (hx : x ∈ g.index.keys) :
    x.Fits k := by
  refine hg.states x (hg.faithful.mem_states_iff.2 ?_)
  rw [← Option.ne_none_iff_exists']
  exact fun hnone => OrderedMap.get?_eq_none_iff.1 hnone hx

theorem Fits.of_mem_transitions
    {g : Graph σ}
    (hg : g.Fits k)
    {t : Transition σ}
    (ht : t ∈ g.transitions) :
    t.origin.Fits k ∧ t.destination.Fits k := by
  obtain ⟨e, he, rfl⟩ := List.mem_map.1 ht
  have horigin := hg.faithful.mem_states_iff.2 ⟨e.source, hg.faithful.source e he⟩
  have hdestination := hg.faithful.mem_states_iff.2 ⟨e.target, hg.faithful.target e he⟩
  exact ⟨hg.states _ horigin, hg.states _ hdestination⟩

/-- A sorted list of the states of some nodes is shifted as a whole. -/
theorem Fits.sort_filter_nodes_shift
    {g : Graph σ}
    (hg : g.Fits k)
    (p : Node → Bool)
    (hp : ∀ node, p (node.shift k) = p node) :
    StateId.sort (((g.shift k).nodes.toList.filter p).map Node.state) =
      (StateId.sort ((g.nodes.toList.filter p).map Node.state)).map (StateId.shift k) := by
  have hfits (x : StateId) (hx : x ∈ (g.nodes.toList.filter p).map Node.state) : x.Fits k := by
    obtain ⟨node, hnode, rfl⟩ := List.mem_map.1 hx
    exact hg.states _ (List.mem_map_of_mem (List.mem_of_mem_filter hnode))
  rw [← StateId.sort_shift hfits]
  simp [shift, List.filter_map, hp, Function.comp_def]

theorem Fits.startStates_shift
    {g : Graph σ}
    (hg : g.Fits k) :
    (g.shift k).startStates = g.startStates.map (StateId.shift k) :=
  hg.sort_filter_nodes_shift (fun n => n.incoming.isEmpty) fun _ => rfl

theorem Fits.terminalStates_shift
    {g : Graph σ}
    (hg : g.Fits k) :
    (g.shift k).terminalStates = g.terminalStates.map (StateId.shift k) :=
  hg.sort_filter_nodes_shift (fun n => n.outgoing.isEmpty) fun _ => rfl

theorem Fits.stats_shift
    {g : Graph σ}
    (hg : g.Fits k) :
    (g.shift k).stats = g.stats := by
  have hdegrees : ((g.shift k).nodes.toList.map fun n => n.outgoing.length) =
      g.nodes.toList.map fun n => n.outgoing.length := by
    simp [shift, Node.shift, Function.comp_def]
  simp only [stats, size_nodes_shift, size_edges_shift, hg.startStates_shift,
    hg.terminalStates_shift, List.length_map, hdegrees]

theorem labelOf_shift
    (r : Registry)
    (x : StateId) :
    labelOf (r.shift k) (x.shift k) = labelOf r x := by
  rw [labelOf, labelOf, Registry.get?_shift]
  cases r.get? x with
  | none =>
      rfl
  | some s =>
      exact s.short_shift k

theorem leEnds_shift
    {s t : Transition σ}
    (hs : s.origin.Fits k ∧ s.destination.Fits k)
    (ht : t.origin.Fits k ∧ t.destination.Fits k) :
    (s.shift k).leEnds (t.shift k) = s.leEnds t := by
  simp [Transition.leEnds, Transition.shift, StateId.le_shift hs.1 ht.1,
    StateId.le_shift hs.2 ht.2]

/-- A drawing prints no tags, so it is the same. -/
theorem Fits.drawing_shift
    [Symbol σ]
    {g : Graph σ}
    (hg : g.Fits k)
    (r : Registry) :
    (g.shift k).drawing (r.shift k) = g.drawing r := by
  have hkeys : StateId.sort (g.shift k).index.keys =
      (StateId.sort g.index.keys).map (StateId.shift k) := by
    rw [← StateId.sort_shift fun x hx => hg.of_mem_keys hx, shift, OrderedMap.keys_rename]
  have htransitions : (g.shift k).transitions.mergeSort Transition.leEnds =
      (g.transitions.mergeSort Transition.leEnds).map (Transition.shift k) := by
    rw [transitions_shift]
    refine (List.map_mergeSort ?_).symm
    intro s hs t ht
    exact (leEnds_shift (hg.of_mem_transitions hs) (hg.of_mem_transitions ht)).symm
  simp only [drawing, hkeys, htransitions, List.map_map, Function.comp_def, labelOf_shift,
    StateId.text_shift, Transition.shift]

end Fitting

end Graph

namespace Table

theorem mentioned_shift
    (T : Table σ)
    (start : StateId) :
    (T.shift k).mentioned (start.shift k) = (T.mentioned start).map (StateId.shift k) := by
  simp [mentioned, List.flatMap_map, List.map_flatMap]

variable {k}

/-- The foreign states of a report are sorted, the unreachable ones are not. -/
theorem Fits.validate_shift
    {T : Table σ}
    (hT : T.Fits k)
    (r : Registry)
    {start : StateId}
    (hstart : start.Fits k) :
    (T.shift k).validate (r.shift k) (start.shift k) = (T.validate r start).shift k := by
  have hforeign : (((T.shift k).mentioned (start.shift k)).filter fun x =>
        !(r.shift k).contains x) =
      ((T.mentioned start).filter fun x => !r.contains x).map (StateId.shift k) := by
    rw [mentioned_shift, List.filter_map]
    simp [Function.comp_def]
  have hfits (x : StateId) (hx : x ∈ distinct ((T.mentioned start).filter fun x => !r.contains x)) :
      x.Fits k := by
    have hmentioned := List.mem_of_mem_filter (mem_distinct.1 hx)
    rw [mentioned, List.mem_cons, List.mem_flatMap] at hmentioned
    rcases hmentioned with rfl | ⟨t, ht, hx⟩
    · exact hstart
    · exact hT t ht x hx
  have hunreachable : ((r.shift k).ids.filter fun x =>
        decide (x ∉ (Graph.ofTable (T.shift k)).reachableFrom (start.shift k))) =
      (r.ids.filter fun x =>
        decide (x ∉ (Graph.ofTable T).reachableFrom start)).map (StateId.shift k) := by
    rw [Registry.ids_shift, List.filter_map, Graph.ofTable_shift, Graph.reachableFrom_shift]
    refine congrArg (List.map (StateId.shift k)) (List.filter_congr ?_)
    intro x _
    rw [Function.comp_apply, decide_eq_decide,
      List.mem_map_of_injective (StateId.shift_injective k)]
  simp only [validate, hforeign, distinct_map (StateId.shift_injective k),
    StateId.sort_shift hfits, hunreachable, Report.shift]

theorem validationEvent_shift
    (r : Registry)
    (p : Report) :
    (validationEvent (r.shift k) (p.shift k) : Event σ) = (validationEvent r p).shift k := by
  have hcomplete : (p.shift k).isComplete = p.isComplete := by
    simp [Report.isComplete, Report.shift]
  rw [validationEvent, validationEvent, hcomplete, Registry.size_shift]
  split <;> rfl

end Table
end GotoAutomaton
