import GotoAutomaton.Analysis
import GotoAutomaton.Proofs.Graph.Enumeration
import GotoAutomaton.Proofs.State.Registry

/-!
# Classes and positions

The position of a state is told twice.  Classification looks a registered state up and asks its node
for edges; the lists of start states and of terminal states come from going through all nodes.  The
registry and the graph need not have the same states, and a node may have no edges at all: such a
state is in both lists.

Main statement: the two agree, and the graph of a table has no state in both lists
(`classify_agrees`).
-/

namespace GotoAutomaton

variable {σ : Type}

/-- A class is the one that the start states and the terminal states of a graph give to a state. -/
structure StateClass.Places (c : StateClass) (g : Graph σ) (x : StateId) : Prop where
  start : c = .start ↔ x ∈ g.startStates ∧ x ∉ g.terminalStates
  terminal : c = .terminal ↔ x ∈ g.terminalStates ∧ x ∉ g.startStates
  inner : c = .inner ↔ g.contains x = true ∧ x ∉ g.startStates ∧ x ∉ g.terminalStates
  /-- Out of the graph, or without an edge in it. -/
  isolated : c = .isolated ↔ g.contains x = false ∨ x ∈ g.startStates ∧ x ∈ g.terminalStates

/-- The class of a node in terms of the edges that it lists. -/
theorem Node.classOf_iff (n : Node) :
    (n.classOf = .start ↔ n.incoming.isEmpty = true ∧ ¬ n.outgoing.isEmpty = true) ∧
    (n.classOf = .terminal ↔ n.outgoing.isEmpty = true ∧ ¬ n.incoming.isEmpty = true) ∧
    (n.classOf = .inner ↔ ¬ n.incoming.isEmpty = true ∧ ¬ n.outgoing.isEmpty = true) ∧
    (n.classOf = .isolated ↔ n.incoming.isEmpty = true ∧ n.outgoing.isEmpty = true) := by
  unfold Node.classOf
  cases n.incoming.isEmpty <;> cases n.outgoing.isEmpty <;> simp

namespace Graph

variable {g : Graph σ} {x : StateId}

theorem Faithful.isEmpty_incoming_iff
    (hg : g.Faithful)
    {n : Nat}
    {node : Node}
    (hx : g.node? x = some n)
    (hnode : g.nodes[n]? = some node) :
    node.incoming.isEmpty = true ↔ x ∈ g.startStates := by
  rw [hg.mem_startStates_iff, and_iff_right (contains_iff_exists_node?.2 ⟨n, hx⟩),
    List.isEmpty_iff, hg.incoming n node hnode, hg.latest_joint_eq_nil_iff hg.target hx]

theorem Faithful.isEmpty_outgoing_iff
    (hg : g.Faithful)
    {n : Nat}
    {node : Node}
    (hx : g.node? x = some n)
    (hnode : g.nodes[n]? = some node) :
    node.outgoing.isEmpty = true ↔ x ∈ g.terminalStates := by
  rw [hg.mem_terminalStates_iff, and_iff_right (contains_iff_exists_node?.2 ⟨n, hx⟩),
    List.isEmpty_iff, hg.outgoing n node hnode, hg.latest_joint_eq_nil_iff hg.source hx]

/-- The class of a state is the one that the two lists give to it. -/
theorem Faithful.places_classOf
    (hg : g.Faithful)
    (x : StateId) :
    (g.classOf x).Places g x := by
  cases hx : g.node? x with
  | none =>
      have hcontains : g.contains x = false := by
        rw [← Bool.not_eq_true, contains_iff_exists_node?, hx]
        simp
      have hstart : x ∉ g.startStates := by
        simp [hg.mem_startStates_iff, hcontains]
      have hterminal : x ∉ g.terminalStates := by
        simp [hg.mem_terminalStates_iff, hcontains]
      have hclass : g.classOf x = .isolated := by
        simp [classOf, hx]
      rw [hclass]
      constructor <;> simp [hcontains, hstart, hterminal]
  | some n =>
      obtain ⟨node, hnode, -⟩ := hg.exists_node hx
      have hcontains : g.contains x = true := contains_iff_exists_node?.2 ⟨n, hx⟩
      have hclass : g.classOf x = node.classOf := by
        simp [classOf, hx, hnode]
      obtain ⟨hstart, hterminal, hinner, hisolated⟩ := node.classOf_iff
      rw [hg.isEmpty_incoming_iff hx hnode, hg.isEmpty_outgoing_iff hx hnode, ← hclass]
        at hstart hterminal hinner hisolated
      refine ⟨hstart, hterminal, ?_, ?_⟩
      · rw [hinner, and_iff_right hcontains]
      · rw [hisolated, hcontains]
        simp

theorem map_fst_classify
    (g : Graph σ)
    (r : Registry) :
    (g.classify r).map Prod.fst = r.ids := by
  rw [classify, List.map_map]
  exact List.map_id _

theorem mem_classify
    {r : Registry}
    {c : StateClass} :
    (x, c) ∈ g.classify r ↔ x ∈ r.ids ∧ c = g.classOf x := by
  simp only [classify, List.mem_map, Prod.mk.injEq]
  constructor
  · rintro ⟨y, hy, rfl, rfl⟩
    exact ⟨hy, rfl⟩
  · rintro ⟨hx, rfl⟩
    exact ⟨x, hx, rfl, rfl⟩

/-- Every state of a graph of transitions is at an end of one of them. -/
theorem not_mem_terminalStates_of_mem_startStates
    {ts : List (Transition σ)}
    (hx : x ∈ (ofTransitions ts).startStates) :
    x ∉ (ofTransitions ts).terminalStates := by
  have hg := faithful_ofTransitions ts
  rw [hg.mem_startStates_iff, contains_ofTransitions_iff, transitions_ofTransitions] at hx
  rw [hg.mem_terminalStates_iff, transitions_ofTransitions]
  obtain ⟨⟨t, ht, hend⟩, hincoming⟩ := hx
  rintro ⟨_, houtgoing⟩
  rcases hend with rfl | rfl
  · exact houtgoing t ht rfl
  · exact hincoming t ht rfl

theorem contains_ofTransitions_eq_false_iff
    {ts : List (Transition σ)} :
    (ofTransitions ts).contains x = false ↔ ∀ t ∈ ts, x ∉ t.endpoints := by
  rw [← Bool.not_eq_true, contains_ofTransitions_iff]
  simp [Transition.endpoints]

/-- Classification and the lists of a graph agree.  There is one class for each registered state and
none for any other, and it is the one that the start states and the terminal states of the graph
give to the state.  In the graph of a table no state is in both lists, so a state is isolated
exactly if no transition of the table touches it. -/
theorem classify_agrees
    (additions : List (Addition σ))
    {r : Registry}
    (hr : r.Reachable) :
    let g := build additions
    ((g.classify r).map Prod.fst).Nodup ∧
    (∀ x, (∃ c, (x, c) ∈ g.classify r) ↔ r.contains x = true) ∧
    (∀ x c, (x, c) ∈ g.classify r → c.Places g x) ∧
    ∀ T : Table σ,
      (∀ x ∈ (ofTable T).startStates, x ∉ (ofTable T).terminalStates) ∧
      ∀ x c, (x, c) ∈ (ofTable T).classify r →
        (c = .isolated ↔ ∀ t ∈ T.toList, x ∉ t.endpoints) := by
  intro g
  refine ⟨?_, ?_, ?_, fun T => ⟨?_, ?_⟩⟩
  · rw [map_fst_classify]
    exact hr.nodup_ids
  · intro x
    simp only [mem_classify, exists_and_left, exists_eq, and_true, hr.mem_ids_iff]
  · intro x c hc
    obtain ⟨_, rfl⟩ := mem_classify.1 hc
    exact (faithful_build additions).places_classOf x
  · intro x hx
    exact not_mem_terminalStates_of_mem_startStates hx
  · intro x c hc
    obtain ⟨_, rfl⟩ := mem_classify.1 hc
    have hplaces := (faithful_ofTransitions T.toList).places_classOf x
    rw [← contains_ofTransitions_eq_false_iff]
    refine hplaces.isolated.trans (or_iff_left ?_)
    rintro ⟨hstart, hterminal⟩
    exact not_mem_terminalStates_of_mem_startStates hstart hterminal

/-- A state that was added alone is in both lists, a loop makes its state inner, and neither a state
of another automaton nor a registered state without a node gets in the way. -/
theorem classify_agrees_loop :
    let x (i : Nat) : StateId := ⟨.first, i⟩
    let z : StateId := ⟨Tag.first.next, 0⟩
    let r := (Registry.empty .first).addMany 4
    let g : Graph Char := build
      [.transition ⟨z, 'a', x 1⟩, .state (x 0), .transition ⟨x 2, 'b', x 2⟩]
    let T := (Table.make .unowned : Table Char).after [.add z 'a' (x 1), .add (x 2) 'b' (x 2)]
    r.Reachable ∧ (∃ c, (x 3, c) ∈ g.classify r) ∧ (¬ ∃ c, (z, c) ∈ g.classify r) ∧
      (x 0 ∈ g.startStates ∧ x 0 ∈ g.terminalStates) ∧
      (x 1 ∈ g.terminalStates ∧ x 1 ∉ g.startStates) ∧
      (g.contains (x 2) = true ∧ x 2 ∉ g.startStates ∧ x 2 ∉ g.terminalStates) ∧
      ∀ t ∈ T.toList, x 0 ∉ t.endpoints := by
  intro x z r g T
  have hr : r.Reachable := (Registry.GrowsTo.refl.addMany 4).reachable (.empty _)
  obtain ⟨_, hmem, hplaces, htables⟩ := classify_agrees
    [.transition ⟨z, 'a', x 1⟩, .state (x 0), .transition ⟨x 2, 'b', x 2⟩] hr
  have halone : (x 0, .isolated) ∈ g.classify r := by decide
  have hend : (x 1, .terminal) ∈ g.classify r := by decide
  have hloop : (x 2, .inner) ∈ g.classify r := by decide
  have hout : (x 0, .isolated) ∈ (ofTable T).classify r := by decide
  refine ⟨hr, (hmem (x 3)).2 (by decide), ?_, ?_, ?_, ?_, ?_⟩
  · rw [hmem]
    decide
  · rcases (hplaces _ _ halone).isolated.1 rfl with hcontains | hboth
    · cases hcontains
    · exact hboth
  · exact (hplaces _ _ hend).terminal.1 rfl
  · exact (hplaces _ _ hloop).inner.1 rfl
  · exact ((htables T).2 _ _ hout).1 rfl

end Graph
end GotoAutomaton
