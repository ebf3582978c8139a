import GotoAutomaton.Proofs.Graph.Adjacency
import GotoAutomaton.Proofs.Graph.BreadthFirst

/-!
# Reachable states

Three ways of going from state to state are compared: along the edges of a graph from node to node,
along a path of transitions, and through the look-ups of a table on the symbols of a word.

Main statements: the states that the search finds are the ends of paths
(`Faithful.mem_reachableFrom_iff`), and the paths of a table are the words that can be followed in
it, of the same length (`Indexed.path_iff_follow`).
-/

namespace GotoAutomaton

section Graphs

variable {σ : Type} {g : Graph σ}

namespace Graph

theorem Faithful.exists_node?_origin
    (hg : g.Faithful)
    {t : Transition σ}
    (ht : t ∈ g.transitions) :
    ∃ n, g.node? t.origin = some n := by
  obtain ⟨e, he, rfl⟩ := List.mem_map.1 ht
  exact ⟨e.source, hg.source e he⟩

theorem Faithful.exists_node?_destination
    (hg : g.Faithful)
    {t : Transition σ}
    (ht : t ∈ g.transitions) :
    ∃ n, g.node? t.destination = some n := by
  obtain ⟨e, he, rfl⟩ := List.mem_map.1 ht
  exact ⟨e.target, hg.target e he⟩

/-- Every node is that of a state. -/
theorem Faithful.exists_node?_eq_some
    (hg : g.Faithful)
    {n : Nat}
    (hn : n < g.nodes.size) :
    ∃ x, g.node? x = some n := by
  refine ⟨g.nodes[n].state, ?_⟩
  rw [hg.node?_iff, Array.getElem?_eq_getElem hn, Option.map_some]

/-- A state from which a path leads on has a node. -/
theorem Faithful.exists_node?_of_path
    (hg : g.Faithful)
    {x y : StateId}
    {k : Nat}
    (hpath : Path g.transitions x (k + 1) y) :
    ∃ n, g.node? x = some n := by
  cases hpath with
  | cons ht _ =>
      exact hg.exists_node?_origin ht

/-- A path of transitions is a walk along edges, of the same length. -/
theorem Faithful.exists_walk_of_path
    (hg : g.Faithful)
    {x y : StateId}
    {k n : Nat}
    (hpath : Path g.transitions x k y)
    (hx : g.node? x = some n) :
    ∃ m, g.node? y = some m ∧ Walk g.successors n k m := by
  induction hpath generalizing n with
  | nil x =>
      exact ⟨n, hx, .nil⟩
  | cons ht _ ih =>
      obtain ⟨l, hl⟩ := hg.exists_node?_destination ht
      obtain ⟨m, hm, hwalk⟩ := ih hl
      have hstep : l ∈ g.successors n := hg.mem_successors.2 ⟨_, ht, hx, hl⟩
      exact ⟨m, hm, .cons hstep hwalk⟩

/-- A walk along edges is a path of transitions, of the same length. -/
theorem Faithful.exists_path_of_walk
    (hg : g.Faithful)
    {x : StateId}
    {k n m : Nat}
    (hx : g.node? x = some n)
    (hwalk : Walk g.successors n k m) :
    ∃ y, g.node? y = some m ∧ Path g.transitions x k y := by
  induction hwalk with
  | nil =>
      exact ⟨x, hx, .nil x⟩
  | concat _ hstep ih =>
      obtain ⟨y, hy, hpath⟩ := ih
      obtain ⟨t, ht, hsource, htarget⟩ := hg.mem_successors.1 hstep
      have horigin : t.origin = y := hg.node?_injective hsource hy
      subst horigin
      exact ⟨t.destination, htarget, hpath.append (.single ht)⟩

/-- Between nodes there are walks of the same lengths as paths between their states. -/
theorem Faithful.walk_iff_path
    (hg : g.Faithful)
    {x y : StateId}
    {k n m : Nat}
    (hx : g.node? x = some n)
    (hy : g.node? y = some m) :
    Walk g.successors n k m ↔ Path g.transitions x k y := by
  constructor
  · intro hwalk
    obtain ⟨z, hz, hpath⟩ := hg.exists_path_of_walk hx hwalk
    rwa [hg.node?_injective hy hz]
  · intro hpath
    obtain ⟨l, hl, hwalk⟩ := hg.exists_walk_of_path hpath hx
    rw [hy, Option.some.injEq] at hl
    rwa [hl]

/-- The nodes are closed under going along edges. -/
theorem Faithful.mem_range_of_mem_successors
    (hg : g.Faithful) :
    ∀ n ∈ List.range g.nodes.size, ∀ m ∈ g.successors n, m ∈ List.range g.nodes.size := by
  intro n _ m hm
  obtain ⟨t, _, _, htarget⟩ := hg.mem_successors.1 hm
  exact List.mem_range.2 (hg.node?_lt htarget)

/-- The search from a node is allowed a visit for every node. -/
theorem Faithful.confined
    (hg : g.Faithful)
    {x : StateId}
    {n : Nat}
    (hx : g.node? x = some n) :
    Confined g.successors n (List.range g.nodes.size) g.nodes.size where
  start_mem := List.mem_range.2 (hg.node?_lt hx)
  closed := hg.mem_range_of_mem_successors
  length_le := Nat.le_of_eq List.length_range

/-- The search from a node finds the nodes to which edges lead. -/
theorem Faithful.mem_breadthFirst_iff
    (hg : g.Faithful)
    {x : StateId}
    {n m : Nat}
    (hx : g.node? x = some n) :
    m ∈ breadthFirst g.successors g.nodes.size n ↔ ∃ k, Walk g.successors n k m := by
  rw [(hg.confined hx).mem_breadthFirst_iff, reaches_iff_exists_walk]

theorem reachableFrom_of_node?_eq_none
    {x : StateId}
    (hx : g.node? x = none) :
    g.reachableFrom x = [x] := by
  simp [reachableFrom, hx]

/-- The search finds a state if a path leads there; from a state without a node there is none. -/
theorem Faithful.mem_reachableFrom_iff
    (hg : g.Faithful)
    {x y : StateId} :
    y ∈ g.reachableFrom x ↔ ∃ k, Path g.transitions x k y := by
  cases hx : g.node? x with
  | none =>
      rw [reachableFrom_of_node?_eq_none hx, List.mem_singleton]
      constructor
      · rintro rfl
        exact ⟨0, .nil y⟩
      · rintro ⟨k, hpath⟩
        cases hpath with
        | nil =>
            rfl
        | cons ht _ =>
            obtain ⟨n, hn⟩ := hg.exists_node?_origin ht
            rw [hx] at hn
            cases hn
  | some n =>
      simp only [reachableFrom, hx, List.mem_filterMap, hg.mem_breadthFirst_iff hx,
        ← hg.node?_iff]
      constructor
      · rintro ⟨m, ⟨k, hwalk⟩, hy⟩
        exact ⟨k, (hg.walk_iff_path hx hy).1 hwalk⟩
      · rintro ⟨k, hpath⟩
        obtain ⟨m, hy, hwalk⟩ := hg.exists_walk_of_path hpath hx
        exact ⟨m, ⟨k, hwalk⟩, hy⟩

end Graph

end Graphs

namespace Table

variable {σ : Type} [DecidableEq σ] {T : Table σ}

/-- A path of the table spells a word, and following the word goes along the path. -/
theorem Indexed.path_iff_follow
    (hT : T.Indexed)
    {x y : StateId}
    {n : Nat} :
    Path T.toList x n y ↔ ∃ w : List σ, w.length = n ∧ T.follow x w = some y := by
  constructor
  · intro hpath
    induction hpath with
    | nil x =>
        exact ⟨[], rfl, rfl⟩
    | @cons t n y ht _ ih =>
        obtain ⟨w, rfl, hw⟩ := ih
        have hlookup : T.lookup t.origin t.symbol = some t.destination :=
          hT.lookup_eq_some_iff.2 ht
        refine ⟨t.symbol :: w, rfl, ?_⟩
        rw [follow, hlookup]
        exact hw
  · rintro ⟨w, rfl, hw⟩
    induction w generalizing x with
    | nil =>
        rw [follow_nil, Option.some.injEq] at hw
        subst hw
        exact .nil x
    | cons a w ih =>
        rw [follow, Option.bind_eq_some_iff] at hw
        obtain ⟨z, hz, hw⟩ := hw
        exact .cons (hT.lookup_eq_some_iff.1 hz) (ih hw)

/-- The search in the graph of a table finds the states to which some word leads. -/
theorem Indexed.mem_reachableFrom_iff
    (hT : T.Indexed)
    {x y : StateId} :
    y ∈ (Graph.ofTable T).reachableFrom x ↔ ∃ w : List σ, T.follow x w = some y := by
  rw [Graph.ofTable, (Graph.faithful_ofTransitions T.toList).mem_reachableFrom_iff,
    Graph.transitions_ofTransitions]
  constructor
  · rintro ⟨k, hpath⟩
    obtain ⟨w, _, hw⟩ := hT.path_iff_follow.1 hpath
    exact ⟨w, hw⟩
  · rintro ⟨w, hw⟩
    exact ⟨w.length, hT.path_iff_follow.2 ⟨w, rfl, hw⟩⟩

end Table
end GotoAutomaton
