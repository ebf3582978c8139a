import GotoAutomaton.Graph.Basic
import GotoAutomaton.Proofs.Table.Index

/-!
# Nodes and edges of a graph

However a graph is built, its index leads from each state to the one node that carries it, every
edge joins the nodes of its transition's own states, and every node lists the numbers of the edges
that leave it and of those that enter it, the latest first.

Main statements: every built graph is faithful in this sense (`faithful_build`), and the successors
of a node are the ends of the transitions out of its state (`Faithful.mem_successors`).
-/

namespace GotoAutomaton
namespace Graph

variable {σ : Type}

/-- The numbers of the edges with a property, the latest first. -/
def latest (p : Edge σ → Bool) (edges : List (Edge σ)) : List Nat :=
  (edges.findIdxs p).reverse

/-- The index and the lists of the nodes say what the edges say. -/
structure Faithful (g : Graph σ) : Prop where
  /-- A node is found by the state that it carries. -/
  node?_iff : ∀ x n, g.node? x = some n ↔ g.nodes[n]?.map Node.state = some x
  source : ∀ e ∈ g.edges.toList, g.node? e.transition.origin = some e.source
  target : ∀ e ∈ g.edges.toList, g.node? e.transition.destination = some e.target
  outgoing : ∀ n node, g.nodes[n]? = some node →
    node.outgoing = latest (fun e => e.source = n) g.edges.toList
  incoming : ∀ n node, g.nodes[n]? = some node →
    node.incoming = latest (fun e => e.target = n) g.edges.toList

theorem latest_concat
    (p : Edge σ → Bool)
    (edges : List (Edge σ))
    (e : Edge σ) :
    latest p (edges ++ [e]) = if p e then edges.length :: latest p edges else latest p edges := by
  cases hp : p e <;> simp [latest, List.findIdxs_append, hp]

theorem latest_eq_nil_iff
    {p : Edge σ → Bool}
    {edges : List (Edge σ)} :
    latest p edges = [] ↔ ∀ e ∈ edges, p e = false := by
  rw [latest, List.reverse_eq_nil_iff, List.findIdxs_eq_nil_iff]

/-- What the listed edges have, the latest first. -/
theorem filterMap_latest
    {β : Type}
    (f : Edge σ → β)
    (p : Edge σ → Bool)
    (edges : List (Edge σ)) :
    (latest p edges).filterMap (fun i => edges[i]?.map f) = ((edges.filter p).map f).reverse := by
  rw [latest, List.filterMap_reverse, ← filterMap_getElem?_findIdxs p edges, List.map_filterMap]

theorem faithful_empty : (empty : Graph σ).Faithful := by
  refine ⟨?_, ?_, ?_, ?_, ?_⟩
  · intro x n
    simp [empty, node?]
  · intro e he
    simp [empty] at he
  · intro e he
    simp [empty] at he
  · intro n node hnode
    simp [empty] at hnode
  · intro n node hnode
    simp [empty] at hnode

/-- The graph with a new node for a state. -/
def withNode (g : Graph σ) (x : StateId) : Graph σ :=
  { g with
    nodes := g.nodes.push ⟨x, [], []⟩
    index := g.index.insert x g.nodes.size }

theorem locate_of_node?
    {g : Graph σ}
    {x : StateId}
    {n : Nat}
    (hx : g.node? x = some n) :
    g.locate x = (g, n) := by
  rw [node?] at hx
  simp [locate, hx]

theorem locate_of_node?_eq_none
    {g : Graph σ}
    {x : StateId}
    (hx : g.node? x = none) :
    g.locate x = (g.withNode x, g.nodes.size) := by
  rw [node?] at hx
  simp [locate, withNode, hx]

theorem node?_withNode
    (g : Graph σ)
    (x y : StateId) :
    (g.withNode x).node? y = if x = y then some g.nodes.size else g.node? y :=
  OrderedMap.get?_insert g.index x y g.nodes.size

theorem getElem?_nodes_withNode
    (g : Graph σ)
    (x : StateId)
    (n : Nat) :
    (g.withNode x).nodes[n]? = if n = g.nodes.size then some ⟨x, [], []⟩ else g.nodes[n]? := by
  rw [withNode, Array.getElem?_push]

/-- A state that is located has its node. -/
theorem node?_locate
    (g : Graph σ)
    (x : StateId) :
    (g.locate x).1.node? x = some (g.locate x).2 := by
  cases hx : g.node? x with
  | some n =>
      rw [locate_of_node? hx]
      exact hx
  | none =>
      rw [locate_of_node?_eq_none hx, node?_withNode, if_pos rfl]

/-- A new node moves no other state. -/
theorem node?_withNode_of_node?
    {g : Graph σ}
    {x y : StateId}
    {n : Nat}
    (hx : g.node? x = none)
    (hy : g.node? y = some n) :
    (g.withNode x).node? y = some n := by
  have hne : ¬ x = y := by
    intro hxy
    rw [hxy, hy] at hx
    cases hx
  rw [node?_withNode, if_neg hne, hy]

theorem node?_locate_of_node?
    {g : Graph σ}
    {y : StateId}
    {n : Nat}
    (hy : g.node? y = some n)
    (x : StateId) :
    (g.locate x).1.node? y = some n := by
  cases hx : g.node? x with
  | some m =>
      rw [locate_of_node? hx]
      exact hy
  | none =>
      rw [locate_of_node?_eq_none hx]
      exact node?_withNode_of_node? hx hy

theorem Faithful.node?_lt
    {g : Graph σ}
    (hg : g.Faithful)
    {x : StateId}
    {n : Nat}
    (hx : g.node? x = some n) :
    n < g.nodes.size := by
  have hstate := (hg.node?_iff x n).1 hx
  by_contra hn
  rw [Array.getElem?_eq_none (by omega)] at hstate
  cases hstate

/-- No two states share a node. -/
theorem Faithful.node?_injective
    {g : Graph σ}
    (hg : g.Faithful)
    {x y : StateId}
    {n : Nat}
    (hx : g.node? x = some n)
    (hy : g.node? y = some n) :
    x = y := by
  have hstate := (hg.node?_iff x n).1 hx
  rw [(hg.node?_iff y n).1 hy, Option.some.injEq] at hstate
  exact hstate.symm

/-- No edge leaves a node that is yet to be made. -/
theorem Faithful.latest_source_size
    {g : Graph σ}
    (hg : g.Faithful) :
    latest (fun e => e.source = g.nodes.size) g.edges.toList = [] := by
  rw [latest_eq_nil_iff]
  intro e he
  have hlt := hg.node?_lt (hg.source e he)
  rw [decide_eq_false_iff_not]
  omega

/-- No edge enters a node that is yet to be made. -/
theorem Faithful.latest_target_size
    {g : Graph σ}
    (hg : g.Faithful) :
    latest (fun e => e.target = g.nodes.size) g.edges.toList = [] := by
  rw [latest_eq_nil_iff]
  intro e he
  have hlt := hg.node?_lt (hg.target e he)
  rw [decide_eq_false_iff_not]
  omega

theorem Faithful.withNode
    {g : Graph σ}
    (hg : g.Faithful)
    {x : StateId}
    (hx : g.node? x = none) :
    (g.withNode x).Faithful := by
  refine ⟨?_, ?_, ?_, ?_, ?_⟩
  · intro y n
    rw [node?_withNode, getElem?_nodes_withNode]
    have hy := hg.node?_iff y n
    by_cases hn : n = g.nodes.size
    · have hfresh : ¬ g.node? y = some n := by
        intro hnode
        have hlt := hg.node?_lt hnode
        omega
      subst hn
      by_cases hxy : x = y
      · simp [hxy]
      · simpa [hxy] using hfresh
    · by_cases hxy : x = y
      · subst hxy
        rw [if_neg hn, if_pos rfl, ← hy, hx]
        simp [Ne.symm hn]
      · rw [if_neg hn, if_neg hxy, hy]
  · intro e he
    exact node?_withNode_of_node? hx (hg.source e he)
  · intro e he
    exact node?_withNode_of_node? hx (hg.target e he)
  · intro n node hnode
    rw [getElem?_nodes_withNode] at hnode
    split at hnode
    · next hn =>
        cases hnode
        subst hn
        exact hg.latest_source_size.symm
    · exact hg.outgoing n node hnode
  · intro n node hnode
    rw [getElem?_nodes_withNode] at hnode
    split at hnode
    · next hn =>
        cases hnode
        subst hn
        exact hg.latest_target_size.symm
    · exact hg.incoming n node hnode

theorem Faithful.locate
    {g : Graph σ}
    (hg : g.Faithful)
    (x : StateId) :
    (g.locate x).1.Faithful := by
  cases hx : g.node? x with
  | some n =>
      rw [locate_of_node? hx]
      exact hg
  | none =>
      rw [locate_of_node?_eq_none hx]
      exact hg.withNode hx

theorem getElem?_nodes_connect
    (g : Graph σ)
    (source target : Nat)
    (t : Transition σ)
    (n : Nat) :
    (g.connect source target t).nodes[n]? = g.nodes[n]?.map fun node =>
      { node with
        outgoing := if source = n then g.edges.size :: node.outgoing else node.outgoing
        incoming := if target = n then g.edges.size :: node.incoming else node.incoming } := by
  simp only [connect, Array.getElem?_modify]
  cases g.nodes[n]? <;> by_cases hs : source = n <;> by_cases ht : target = n <;> simp [hs, ht]

theorem edges_connect
    (g : Graph σ)
    (source target : Nat)
    (t : Transition σ) :
    (g.connect source target t).edges.toList = g.edges.toList ++ [⟨source, target, t⟩] := by
  simp [connect]

theorem node?_connect
    (g : Graph σ)
    (source target : Nat)
    (t : Transition σ)
    (x : StateId) :
    (g.connect source target t).node? x = g.node? x := by
  rfl

/-- An edge is entered first in the lists of both its nodes, and nowhere else. -/
theorem Faithful.connect
    {g : Graph σ}
    (hg : g.Faithful)
    {source target : Nat}
    {t : Transition σ}
    (hsource : g.node? t.origin = some source)
    (htarget : g.node? t.destination = some target) :
    (g.connect source target t).Faithful := by
  refine ⟨?_, ?_, ?_, ?_, ?_⟩
  · intro x n
    rw [node?_connect, hg.node?_iff, getElem?_nodes_connect, Option.map_map]
    rfl
  · intro e he
    rw [node?_connect]
    rw [edges_connect, List.mem_append, List.mem_singleton] at he
    rcases he with he | rfl
    · exact hg.source e he
    · exact hsource
  · intro e he
    rw [node?_connect]
    rw [edges_connect, List.mem_append, List.mem_singleton] at he
    rcases he with he | rfl
    · exact hg.target e he
    · exact htarget
  · intro n node hnode
    rw [getElem?_nodes_connect, Option.map_eq_some_iff] at hnode
    obtain ⟨old, hold, rfl⟩ := hnode
    rw [edges_connect, latest_concat, ← hg.outgoing n old hold]
    simp
  · intro n node hnode
    rw [getElem?_nodes_connect, Option.map_eq_some_iff] at hnode
    obtain ⟨old, hold, rfl⟩ := hnode
    rw [edges_connect, latest_concat, ← hg.incoming n old hold]
    simp

theorem Faithful.addTransition
    {g : Graph σ}
    (hg : g.Faithful)
    (t : Transition σ) :
    (g.addTransition t).Faithful := by
  have hsource := node?_locate_of_node? (g.node?_locate t.origin) t.destination
  have htarget := (g.locate t.origin).1.node?_locate t.destination
  exact ((hg.locate t.origin).locate t.destination).connect hsource htarget

/-- Every graph that is built from additions is faithful. -/
theorem faithful_build (additions : List (Addition σ)) : (build additions).Faithful := by
  have hfold (g : Graph σ) (hg : g.Faithful) : (additions.foldl add g).Faithful := by
    induction additions generalizing g with
    | nil =>
        exact hg
    | cons a additions ih =>
        cases a with
        | state x =>
            exact ih _ (hg.locate x)
        | transition t =>
            exact ih _ (hg.addTransition t)
  exact hfold empty faithful_empty

/-- The graph of a list is built by adding its transitions. -/
theorem ofTransitions_eq_build (ts : List (Transition σ)) :
    ofTransitions ts = build (ts.map Addition.transition) := by
  rw [ofTransitions, build, List.foldl_map]
  rfl

theorem addedTransitions_map_transition (ts : List (Transition σ)) :
    addedTransitions (ts.map Addition.transition) = ts := by
  induction ts with
  | nil =>
      rfl
  | cons t ts ih =>
      rw [List.map_cons, addedTransitions, ih]

theorem faithful_ofTransitions (ts : List (Transition σ)) : (ofTransitions ts).Faithful := by
  rw [ofTransitions_eq_build]
  exact faithful_build _

theorem transitions_ofTransitions (ts : List (Transition σ)) :
    (ofTransitions ts).transitions = ts := by
  rw [ofTransitions_eq_build, transitions_build, addedTransitions_map_transition]

theorem Faithful.mem_successors_iff_edge
    {g : Graph σ}
    (hg : g.Faithful)
    {n m : Nat} :
    m ∈ g.successors n ↔ ∃ e ∈ g.edges.toList, e.source = n ∧ e.target = m := by
  cases hnode : g.nodes[n]? with
  | none =>
      have hnone (e : Edge σ) (he : e ∈ g.edges.toList) : ¬ e.source = n := by
        have hlt := hg.node?_lt (hg.source e he)
        have hle := Array.getElem?_eq_none_iff.1 hnode
        omega
      simp only [successors, hnode, List.not_mem_nil, false_iff]
      rintro ⟨e, he, hsource, _⟩
      exact hnone e he hsource
  | some node =>
      have hsuccessors :
          g.successors n =
            ((g.edges.toList.filter fun e => e.source = n).map Edge.target).reverse := by
        rw [← filterMap_latest, ← hg.outgoing n node hnode]
        simp [successors, hnode]
      rw [hsuccessors, List.mem_reverse, List.mem_map]
      simp [and_assoc]

/-- The successors of a node are where the transitions out of its state end. -/
theorem Faithful.mem_successors
    {g : Graph σ}
    (hg : g.Faithful)
    {n m : Nat} :
    m ∈ g.successors n ↔
      ∃ t ∈ g.transitions, g.node? t.origin = some n ∧ g.node? t.destination = some m := by
  rw [hg.mem_successors_iff_edge, transitions]
  constructor
  · rintro ⟨e, he, rfl, rfl⟩
    exact ⟨e.transition, List.mem_map_of_mem he, hg.source e he, hg.target e he⟩
  · rintro ⟨t, ht, hsource, htarget⟩
    obtain ⟨e, he, rfl⟩ := List.mem_map.1 ht
    rw [hg.source e he, Option.some.injEq] at hsource
    rw [hg.target e he, Option.some.injEq] at htarget
    exact ⟨e, he, hsource, htarget⟩

end Graph
end GotoAutomaton
