import GotoAutomaton.Graph.Basic
import GotoAutomaton.Proofs.Graph.Enumeration
import GotoAutomaton.Proofs.State.Registry
import Mathlib.Algebra.BigOperators.Group.Finset.Basic
import Mathlib.Algebra.Ring.Nat

/-!
# Figures of a table

The figures of a graph come from going through its nodes, and those of a table from its own
listings.  For the graph of a table both count the same things: every node is at an end of a
transition, no state has two nodes, and each transition leaves exactly one node.

Main statements: the transitions out of all states are all transitions (`Faithful.sum_outgoing`),
and the figures of a table's graph are counted in the table (`stats_ofTable`).
-/

namespace GotoAutomaton

/-- A list without repetitions is as long as the set of its states is large. -/
theorem length_eq_card
    {xs : List StateId}
    {s : Finset StateId}
    (hxs : xs.Nodup)
    (hmem : ∀ x, x ∈ xs ↔ x ∈ s) :
    xs.length = s.card := by
  have hset : xs.toFinset = s := by
    ext x
    rw [List.mem_toFinset, hmem]
  rw [← hset, List.toFinset_card_of_nodup hxs]

namespace Table

variable {σ : Type}

/-- The states out of which transitions lead. -/
def originSet (T : Table σ) : Finset StateId :=
  (T.toList.map Transition.origin).toFinset

/-- The states into which transitions lead. -/
def destinationSet (T : Table σ) : Finset StateId :=
  (T.toList.map Transition.destination).toFinset

theorem mem_originSet
    {T : Table σ}
    {x : StateId} :
    x ∈ T.originSet ↔ ∃ t ∈ T.toList, t.origin = x := by
  rw [originSet, List.mem_toFinset, List.mem_map]

theorem mem_destinationSet
    {T : Table σ}
    {x : StateId} :
    x ∈ T.destinationSet ↔ ∃ t ∈ T.toList, t.destination = x := by
  rw [destinationSet, List.mem_toFinset, List.mem_map]

theorem mem_origins
    {T : Table σ}
    {x : StateId} :
    x ∈ T.origins ↔ ∃ t ∈ T.toList, t.origin = x := by
  rw [origins, mem_distinct, List.mem_map]

theorem length_origins (T : Table σ) : T.origins.length = T.originSet.card := by
  refine length_eq_card (nodup_distinct _) fun x => ?_
  rw [mem_origins, mem_originSet]

end Table

/-- The figures of a table: what is counted are the transitions, the states at their ends, and the
symbols on which a state has a transition. -/
structure GraphStats.Counts {σ : Type} (T : Table σ) (s : GraphStats) : Prop where
  totalTransitions : s.totalTransitions = T.size
  totalStates : s.totalStates = (T.originSet ∪ T.destinationSet).card
  startStates : s.startStates = (T.originSet \ T.destinationSet).card
  terminalStates : s.terminalStates = (T.destinationSet \ T.originSet).card
  totalStates_eq_add : s.totalStates = T.origins.length + s.terminalStates
  /-- The largest number of symbols at an origin, zero without origins. -/
  maxOutDegree : s.maxOutDegree = (T.origins.map fun x => (T.symbolsFrom x).length).max?.getD 0

/-- The largest of some numbers, zero without numbers, is bounded by what bounds each of them. -/
theorem max?_getD_zero_le_iff
    {ns : List Nat}
    {k : Nat} :
    ns.max?.getD 0 ≤ k ↔ ∀ n ∈ ns, n ≤ k := by
  cases hmax : ns.max? with
  | none =>
      rw [List.max?_eq_none_iff] at hmax
      simp [hmax]
  | some m =>
      exact List.max?_le_iff hmax

namespace Graph

variable {σ : Type} {g : Graph σ}

/-- A node lists as many outgoing edges as there are transitions out of its state. -/
theorem Faithful.length_outgoing_node
    (hg : g.Faithful)
    {n : Nat}
    {node : Node}
    (hnode : g.nodes[n]? = some node) :
    node.outgoing.length = (g.outgoing node.state).length := by
  have hx : g.node? node.state = some n := by
    rw [hg.node?_iff, hnode, Option.map_some]
  calc
    node.outgoing.length
      = (g.edges.toList.filter fun e => e.source = n).length := by
        rw [hg.outgoing n node hnode, latest, List.length_reverse, List.length_findIdxs,
          List.countP_eq_length_filter]
    _ = (g.edges.toList.filter fun e => e.transition.origin = node.state).length := by
        rw [hg.filter_joint_eq hg.source hx]
    _ = (g.outgoing node.state).length := by
        rw [hg.outgoing_eq, List.length_reverse, transitions, List.filter_map, List.length_map]
        rfl

/-- The out-degrees of the nodes are those of their states. -/
theorem Faithful.map_length_outgoing
    (hg : g.Faithful) :
    (g.nodes.toList.map fun node => node.outgoing.length) =
      g.states.map fun x => (g.outgoing x).length := by
  rw [states, List.map_map]
  refine List.map_congr_left fun node hnode => ?_
  obtain ⟨n, hn⟩ := List.mem_iff_getElem?.1 hnode
  rw [Array.getElem?_toList] at hn
  exact hg.length_outgoing_node hn

/-- Every transition is counted at its origin, and there only. -/
theorem Faithful.sum_outgoing
    (hg : g.Faithful)
    (hstates : g.states.Nodup) :
    (g.states.map fun x => (g.outgoing x).length).sum = g.transitions.length := by
  have hcount (x : StateId) :
      (g.outgoing x).length = (g.transitions.map Transition.origin).count x := by
    rw [hg.outgoing_eq, List.length_reverse, List.count, List.countP_map,
      List.countP_eq_length_filter]
    congr 1
  have horigins : ∀ x ∈ (g.transitions.map Transition.origin : Multiset StateId),
      x ∈ g.states.toFinset := by
    intro x hx
    obtain ⟨t, ht, rfl⟩ := List.mem_map.1 (Multiset.mem_coe.1 hx)
    exact List.mem_toFinset.2 (hg.mem_states_of_mem_transitions ht).1
  simp only [hcount]
  rw [← List.sum_toFinset _ hstates]
  simpa using Multiset.sum_count_eq_card horigins

section Tables

variable {T : Table σ} {x : StateId}

theorem faithful_ofTable (T : Table σ) : (ofTable T).Faithful :=
  faithful_ofTransitions T.toList

theorem transitions_ofTable (T : Table σ) : (ofTable T).transitions = T.toList :=
  transitions_ofTransitions T.toList

theorem nodup_states_ofTable (T : Table σ) : (ofTable T).states.Nodup := by
  rw [ofTable, states_ofTransitions]
  exact nodup_distinct _

theorem contains_ofTable_iff :
    (ofTable T).contains x = true ↔ x ∈ T.originSet ∪ T.destinationSet := by
  rw [ofTable, contains_ofTransitions_iff, Finset.mem_union, Table.mem_originSet,
    Table.mem_destinationSet, ← exists_or]
  simp only [← and_or_left, eq_comm]

theorem mem_startStates_ofTable :
    x ∈ (ofTable T).startStates ↔ x ∈ T.originSet \ T.destinationSet := by
  rw [(faithful_ofTable T).mem_startStates_iff, contains_ofTable_iff, transitions_ofTable,
    Finset.mem_sdiff, Finset.mem_union, Table.mem_destinationSet]
  grind

theorem mem_terminalStates_ofTable :
    x ∈ (ofTable T).terminalStates ↔ x ∈ T.destinationSet \ T.originSet := by
  rw [(faithful_ofTable T).mem_terminalStates_iff, contains_ofTable_iff, transitions_ofTable,
    Finset.mem_sdiff, Finset.mem_union, Table.mem_originSet]
  grind

theorem totalStates_ofTable (T : Table σ) :
    (ofTable T).stats.totalStates = (T.originSet ∪ T.destinationSet).card := by
  have hlength : (ofTable T).stats.totalStates = (ofTable T).states.length := by
    simp [stats, states]
  rw [hlength]
  refine length_eq_card (nodup_states_ofTable T) fun x => ?_
  rw [← (faithful_ofTable T).contains_iff, contains_ofTable_iff]

theorem startStates_ofTable (T : Table σ) :
    (ofTable T).stats.startStates = (T.originSet \ T.destinationSet).card := by
  have hascending := pairwise_sort_filter_nodes (nodup_states_ofTable T) fun n => n.incoming.isEmpty
  exact length_eq_card hascending.nodup fun x => mem_startStates_ofTable

theorem terminalStates_ofTable (T : Table σ) :
    (ofTable T).stats.terminalStates = (T.destinationSet \ T.originSet).card := by
  have hascending := pairwise_sort_filter_nodes (nodup_states_ofTable T) fun n => n.outgoing.isEmpty
  exact length_eq_card hascending.nodup fun x => mem_terminalStates_ofTable

/-- The table has a symbol for each transition that the graph lists. -/
theorem length_outgoing_ofTable
    (hT : T.Indexed)
    (x : StateId) :
    ((ofTable T).outgoing x).length = (T.symbolsFrom x).length := by
  rw [(faithful_ofTable T).outgoing_eq, transitions_ofTable, Table.symbolsFrom,
    hT.transitionsFrom_eq, List.length_reverse, List.length_map]

theorem outgoing_ofTable_eq_nil
    (hx : x ∉ T.origins) :
    (ofTable T).outgoing x = [] := by
  rw [Table.mem_origins, not_exists] at hx
  rw [(faithful_ofTable T).outgoing_eq, transitions_ofTable, reverse_filter_side_eq_nil_iff]
  exact fun t ht horigin => hx t ⟨ht, horigin⟩

/-- Only origins matter for the largest out-degree, since no transition leaves any other state. -/
theorem maxOutDegree_ofTable
    (hT : T.Indexed) :
    (ofTable T).stats.maxOutDegree =
      (T.origins.map fun x => (T.symbolsFrom x).length).max?.getD 0 := by
  have hg := faithful_ofTable T
  refine eq_of_forall_ge_iff fun k => ?_
  rw [stats, hg.map_length_outgoing, List.foldl_max, Nat.zero_max, max?_getD_zero_le_iff,
    max?_getD_zero_le_iff, List.forall_mem_map, List.forall_mem_map]
  constructor
  · intro hbound x hx
    obtain ⟨t, ht, rfl⟩ := Table.mem_origins.1 hx
    rw [← transitions_ofTable T] at ht
    rw [← length_outgoing_ofTable hT]
    exact hbound t.origin (hg.mem_states_of_mem_transitions ht).1
  · intro hbound x _
    by_cases hx : x ∈ T.origins
    · rw [length_outgoing_ofTable hT]
      exact hbound x hx
    · rw [outgoing_ofTable_eq_nil hx]
      exact Nat.zero_le k

/-- The figures of the graph of a table can be counted in the table, and the transitions that the
graph lists out of its states are as many as there are in the table. -/
theorem stats_ofTable
    [DecidableEq σ]
    [Symbol σ]
    {T : Table σ}
    (hT : T.Reachable) :
    let g := ofTable T
    g.stats.Counts T ∧
      (g.states.map fun x => (g.outgoing x).length).sum = g.stats.totalTransitions := by
  intro g
  have hsize : g.transitions.length = g.stats.totalTransitions := by
    simp [transitions, stats]
  have htransitions : g.transitions = T.toList := transitions_ofTable T
  refine ⟨⟨?_, totalStates_ofTable T, startStates_ofTable T, terminalStates_ofTable T, ?_,
    maxOutDegree_ofTable hT.indexed⟩, ?_⟩
  · rw [← hsize, htransitions]
    rfl
  · rw [totalStates_ofTable, terminalStates_ofTable, T.length_origins, Nat.add_comm,
      Finset.card_sdiff_add_card, Finset.union_comm]
  · rw [(faithful_ofTable T).sum_outgoing (nodup_states_ofTable T), hsize]

/-- Parallel transitions, a loop, a refused rival, and a state of another automaton. -/
theorem stats_ofTable_parallel :
    let q : StateId := ⟨.first, 0⟩
    let q' : StateId := ⟨.first, 1⟩
    let z : StateId := ⟨Tag.first.next, 0⟩
    let T := (Table.make .unowned : Table Char).after
      [.add q 'a' q', .add q 'b' q', .add q 'a' z, .add q' 'c' q', .add q' 'b' z, .add q 'c' q']
    let g := ofTable T
    T.Reachable ∧ T.symbolsFrom q = ['a', 'b', 'c'] ∧
      g.stats.totalTransitions = 5 ∧ g.stats.totalStates = 3 ∧ g.stats.startStates = 1 ∧
      g.stats.terminalStates = 1 ∧ g.stats.maxOutDegree = 3 ∧
      (g.states.map fun x => (g.outgoing x).length).sum = 5 := by
  intro q q' z T g
  have hT : T.Reachable := ⟨.unowned, _, rfl⟩
  obtain ⟨hcounts, hsum⟩ := stats_ofTable hT
  have hsize : g.stats.totalTransitions = 5 := by
    rw [hcounts.totalTransitions]
    decide
  refine ⟨hT, by decide, hsize, ?_, ?_, ?_, ?_, hsum.trans hsize⟩
  · rw [hcounts.totalStates]
    decide
  · rw [hcounts.startStates]
    decide
  · rw [hcounts.terminalStates]
    decide
  · rw [hcounts.maxOutDegree]
    decide

end Tables

end Graph
end GotoAutomaton
