import GotoAutomaton.Dot.Drawing
import GotoAutomaton.Proofs.Dot.Listing
import Mathlib.Data.List.Nodup

/-!
# Drawings as directed graphs

A drawing names a state by its printed identifier, which tells the position of the state and not its
automaton.  The nodes of the drawing are the positions of the drawn states: two states of different
automata at one position are drawn as one node.  So the drawing depicts its graph exactly if no two
states of the graph share a position, as is the case for the states of one automaton.

Main statements: a graph that is not depicted (`merged_node_of_two_automata`) and when a graph is
depicted (`depicts_drawing_iff`).
-/

namespace GotoAutomaton

/-- Identifiers print alike exactly if their positions are the same. -/
theorem StateId.text_eq_iff
    {x y : StateId} :
    x.text = y.text ↔ x.index = y.index := by
  constructor
  · intro h
    rw [StateId.text, StateId.text, String.append_right_inj] at h
    have hdigits : Nat.toDigits 10 x.index = Nat.toDigits 10 y.index := String.ofList_inj.1 h
    have hvalue := congrArg (fun cs => Nat.ofDigitChars 10 cs 0) hdigits
    simpa only [Nat.ofDigitChars_toDigits (by decide : 1 < 10) (Nat.le_refl 10)] using hvalue
  · intro h
    rw [StateId.text, StateId.text, h]

/-- Images that can be told apart are as many as there are elements, and conversely. -/
theorem injOn_of_length_eq
    {α β : Type}
    {f : α → β}
    {xs : List α}
    {ys : List β}
    (hys : ys.Nodup)
    (himage : ∀ y ∈ ys, ∃ x ∈ xs, f x = y)
    (hlength : xs.length ≤ ys.length) :
    ∀ x ∈ xs, ∀ x' ∈ xs, f x = f x' → x = x' := by
  have hsub : ys ⊆ xs.map f := by
    intro y hy
    exact List.mem_map.2 (himage y hy)
  have hperm : ys.Perm (xs.map f) :=
    (List.subperm_of_subset hys hsub).perm_of_length_le (by rwa [List.length_map])
  intro x hx x' hx' h
  exact List.inj_on_of_nodup_map (hperm.nodup_iff.1 hys) hx hx' h

namespace Dot

theorem Drawing.nodup_nodes (d : Drawing) : d.nodes.Nodup :=
  nodup_distinct _

/-- A drawing that depicts a graph has as many nodes as the graph has states. -/
theorem Drawing.Depicts.length_nodes
    {σ : Type}
    {d : Drawing}
    {g : Graph σ}
    (hd : d.Depicts g)
    (hstates : g.states.Nodup) :
    d.nodes.length = g.states.length := by
  obtain ⟨node, hinj, hnodes, _⟩ := hd
  have himages : (g.states.map node).Nodup := List.Nodup.map_on hinj hstates
  have hperm : d.nodes.Perm (g.states.map node) := by
    rw [List.perm_ext_iff_of_nodup d.nodup_nodes himages]
    intro n
    rw [hnodes, List.mem_map]
  rw [hperm.length_eq, List.length_map]

end Dot

namespace Graph

variable {σ : Type}

variable [Symbol σ]

/-- The nodes of a drawing are the printed states. -/
theorem Faithful.mem_nodes_drawing
    {g : Graph σ}
    (hg : g.Faithful)
    (r : Registry)
    (n : String) :
    n ∈ (g.drawing r).nodes ↔ ∃ x ∈ g.states, x.text = n := by
  have hkeys (x : StateId) : x ∈ StateId.sort g.index.keys ↔ x ∈ g.states := by
    rw [StateId.mem_sort, mem_keys_index_iff, hg.contains_iff]
  rw [Dot.Drawing.nodes, mem_distinct, List.mem_append]
  constructor
  · rintro (hpoint | harrow)
    · obtain ⟨p, hp, rfl⟩ := List.mem_map.1 hpoint
      obtain ⟨x, hx, rfl⟩ := List.mem_map.1 hp
      exact ⟨x, (hkeys x).1 hx, rfl⟩
    · obtain ⟨a, ha, hn⟩ := List.mem_flatMap.1 harrow
      obtain ⟨t, ht, rfl⟩ := List.mem_map.1 ha
      have hends := hg.mem_states_of_mem_transitions (List.mem_mergeSort.1 ht)
      rw [List.mem_pair] at hn
      rcases hn with rfl | rfl
      · exact ⟨t.origin, hends.1, rfl⟩
      · exact ⟨t.destination, hends.2, rfl⟩
  · rintro ⟨x, hx, rfl⟩
    refine Or.inl (List.mem_map.2 ⟨⟨x.text, labelOf r x⟩, ?_, rfl⟩)
    exact List.mem_map.2 ⟨x, (hkeys x).2 hx, rfl⟩

theorem joints_drawing_perm
    (g : Graph σ)
    (r : Registry) :
    (g.drawing r).joints.Perm
      (g.transitions.map fun t => (t.origin.text, t.destination.text)) := by
  have hsorted := (List.mergeSort_perm g.transitions Transition.leEnds).map
    fun t => (t.origin.text, t.destination.text)
  simpa [drawing, Dot.Drawing.joints, Function.comp_def] using hsorted

/-- Two states at the first position of two automata, with a transition from one to the other, are
drawn as one node with an edge to itself. -/
theorem merged_node_of_two_automata :
    let x : StateId := ⟨.first, 0⟩
    let y : StateId := ⟨Tag.first.next, 0⟩
    let g : Graph String := build [.transition ⟨x, "a", y⟩]
    let d := g.drawing ((Registry.empty .first).add none)
    x ≠ y ∧ g.states = [x, y] ∧
      Dot.Drawing.read? d.text = some d ∧
      d = ⟨[⟨"S0", "S0"⟩, ⟨"S0", "S0"⟩], [⟨"S0", "S0", "a"⟩]⟩ ∧
      d.nodes = ["S0"] ∧ ¬ d.Depicts g := by
  intro x y g d
  have hstates : g.states = [x, y] := by
    decide
  have hd : d = ⟨[⟨"S0", "S0"⟩, ⟨"S0", "S0"⟩], [⟨"S0", "S0", "a"⟩]⟩ := by
    simp only [d, g, x, y]
    cbv
  have hnodes : d.nodes = ["S0"] := by
    rw [hd]
    decide
  refine ⟨by decide, hstates, Dot.Drawing.read?_text (g.bareNames_drawing _), hd, hnodes, ?_⟩
  intro hdepicts
  have hlength := hdepicts.length_nodes (nodup_states_build _)
  rw [hnodes, hstates] at hlength
  cases hlength

/-- The nodes of a drawing are the positions of the states: different states have different nodes
exactly if no two of them share a position, and exactly then is the directed graph that the document
is read as the graph that was drawn, with a node for each state and an edge for each transition
between the nodes of its own states.  So it is for the states of one automaton. -/
theorem depicts_drawing_iff
    (additions : List (Addition σ))
    (r : Registry) :
    let g := build additions
    let d := g.drawing r
    Dot.Drawing.read? d.text = some d ∧
    (∀ x y : StateId, x.text = y.text ↔ x.index = y.index) ∧
    (d.Depicts g ↔ ∀ x ∈ g.states, ∀ y ∈ g.states, x.index = y.index → x = y) ∧
    (d.nodes.length = g.states.length ↔
      ∀ x ∈ g.states, ∀ y ∈ g.states, x.index = y.index → x = y) ∧
    ∀ k, (∀ x ∈ g.states, x.automaton = k) → d.Depicts g := by
  intro g d
  have hg : g.Faithful := faithful_build additions
  have hnodes := hg.mem_nodes_drawing r
  have hapart (hlength : d.nodes.length = g.states.length) :
      ∀ x ∈ g.states, ∀ y ∈ g.states, x.index = y.index → x = y := by
    intro x hx y hy h
    have himage (n : String) (hn : n ∈ d.nodes) := (hnodes n).1 hn
    exact injOn_of_length_eq d.nodup_nodes himage (Nat.le_of_eq hlength.symm) x hx y hy
      (StateId.text_eq_iff.2 h)
  have hdepicts (h : ∀ x ∈ g.states, ∀ y ∈ g.states, x.index = y.index → x = y) :
      d.Depicts g := by
    refine ⟨StateId.text, ?_, hnodes, g.joints_drawing_perm r⟩
    intro x hx y hy htext
    exact h x hx y hy (StateId.text_eq_iff.1 htext)
  have hstates : g.states.Nodup := nodup_states_build additions
  refine ⟨Dot.Drawing.read?_text (g.bareNames_drawing r), fun x y => StateId.text_eq_iff,
    ⟨?_, hdepicts⟩, ⟨hapart, ?_⟩, ?_⟩
  · intro hd
    exact hapart (hd.length_nodes hstates)
  · intro h
    exact (hdepicts h).length_nodes hstates
  · intro k hk
    refine hdepicts ?_
    intro x hx y hy h
    obtain ⟨tag, index⟩ := x
    obtain ⟨tag', index'⟩ := y
    rw [StateId.mk.injEq]
    exact ⟨(hk _ hx).trans (hk _ hy).symm, h⟩

/-- A loop and two parallel transitions between states of one automaton. -/
theorem depicts_drawing_iff_parallel :
    let x : StateId := ⟨.first, 0⟩
    let y : StateId := ⟨.first, 1⟩
    let g : Graph String :=
      build [.transition ⟨x, "a", y⟩, .transition ⟨x, "a", y⟩, .transition ⟨y, "b", y⟩]
    let d := g.drawing (.empty .first)
    (∀ z ∈ g.states, z.automaton = .first) ∧ d.Depicts g := by
  intro x y g d
  have htag : ∀ z ∈ g.states, z.automaton = .first := by
    decide
  have hone := (depicts_drawing_iff
    [.transition ⟨x, "a", y⟩, .transition ⟨x, "a", y⟩, .transition ⟨y, "b", y⟩]
    (.empty .first)).2.2.2.2
  exact ⟨htag, hone .first htag⟩

end Graph
end GotoAutomaton
